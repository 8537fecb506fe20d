import SolidityLint.Value.Basic

/-!
# JSON

Reads and writes values as JSON text. A number with a point or an exponent is a double, all other
numbers are integers. Of several fields with one key the last one counts, in the place of the first.
-/

namespace SolidityLint.Json

open Text

/-! ## Reading -/

def isGap (c : Char) : Bool :=
  c == ' ' || c == '\t' || c == '\n' || c == '\r'

def skipGap (text : List Char) : List Char :=
  text.dropWhile isGap

def hexDigit? (c : Char) : Option Nat :=
  if '0' ≤ c && c ≤ '9' then some (c.toNat - '0'.toNat)
  else if 'a' ≤ c && c ≤ 'f' then some (c.toNat - 'a'.toNat + 10)
  else if 'A' ≤ c && c ≤ 'F' then some (c.toNat - 'A'.toNat + 10)
  else none

def hexNumber? (digits : List Char) : Option Nat :=
  digits.foldlM (fun number c => (hexDigit? c).map (16 * number + ·)) 0

def shortEscape? : Char → Option Char
  | 'b' => some '\x08'
  | 'f' => some '\x0c'
  | 'n' => some '\n'
  | 'r' => some '\r'
  | 't' => some '\t'
  | '"' => some '"'
  | '\\' => some '\\'
  | '/' => some '/'
  | _ => none

def isHighHalf (code : Nat) : Bool := 0xd800 ≤ code && code < 0xdc00

def isLowHalf (code : Nat) : Bool := 0xdc00 ≤ code && code < 0xe000

def joinHalves (high low : Nat) : Char :=
  Char.ofNat (0x10000 + (high - 0xd800) * 0x400 + (low - 0xdc00))

/-- Stands for half of a character. -/
def loneHalf : Char := '�'

/-- Adds what is left of a pair of halves when its second half does not come. -/
def flushHalf (high : Option Nat) (read : List Char) : List Char :=
  if high.isSome then loneHalf :: read else read

/-- Reads text up to the closing quote. `read` is the text so far, backwards, and `high` the first
half of a character in two halves. -/
def readText (read : List Char) (high : Option Nat) : List Char → Option (String × List Char)
  | [] => none
  | '"' :: rest => some (String.ofList (flushHalf high read).reverse, rest)
  | '\\' :: 'u' :: a :: b :: c :: d :: rest =>
    match hexNumber? [a, b, c, d], high with
    | none, _ => none
    | some code, some first =>
      if isLowHalf code then
        readText (joinHalves first code :: read) none rest
      else if isHighHalf code then readText (loneHalf :: read) (some code) rest
      else readText (Char.ofNat code :: loneHalf :: read) none rest
    | some code, none =>
      if isHighHalf code then readText read (some code) rest
      else if isLowHalf code then readText (loneHalf :: read) none rest
      else readText (Char.ofNat code :: read) none rest
  | '\\' :: c :: rest => match shortEscape? c with
    | some character => readText (character :: flushHalf high read) none rest
    | none => none
  | c :: rest => readText (c :: flushHalf high read) none rest

def isNumberChar (c : Char) : Bool :=
  c.isDigit || c == '-' || c == '+' || c == '.' || c == 'e' || c == 'E'

def decimal (digits : List Char) : Nat :=
  ofDigits (digits.filterMap asciiDigit?)

def splitSign : List Char → Bool × List Char
  | '-' :: rest => (true, rest)
  | '+' :: rest => (false, rest)
  | text => (false, text)

def readNumber? (text : List Char) : Option Value :=
  let (negative, magnitude) := splitSign text
  let (whole, rest) := magnitude.span Char.isDigit
  let (fraction, rest) := match rest with
    | '.' :: rest => rest.span Char.isDigit
    | rest => ([], rest)
  let exponent? : Option Int := match rest with
    | 'e' :: rest | 'E' :: rest =>
      let (down, digits) := splitSign rest
      if !digits.isEmpty && digits.all Char.isDigit then some (signed down (decimal digits))
      else none
    | [] => some 0
    | _ => none
  if whole.isEmpty then none
  else match exponent? with
    | none => none
    | some exponent =>
      if magnitude.length = whole.length then some (.int (signed negative (decimal whole)))
      else
        let digits := whole ++ fraction
        some (.real (.ofDecimal negative (decimal digits) digits.length
          (exponent - fraction.length)))

/-- Sets a field, in its place if it is there. -/
def setField (key : String) (value : Value) : List (String × Value) → List (String × Value)
  | [] => [(key, value)]
  | (name, old) :: rest =>
    if name = key then (key, value) :: rest else (name, old) :: setField key value rest

mutual
def readValue : Nat → List Char → Option (Value × List Char)
  | 0, _ => none
  | depth + 1, text => match skipGap text with
    | '\x7b' :: rest => match skipGap rest with
      | '\x7d' :: rest => some (.object [], rest)
      | rest => (readFields depth [] rest).map fun (fields, rest) => (.object fields, rest)
    | '[' :: rest => match skipGap rest with
      | ']' :: rest => some (.list [], rest)
      | rest => (readItems depth [] rest).map fun (items, rest) => (.list items, rest)
    | '"' :: rest => (readText [] none rest).map fun (text, rest) => (.text text, rest)
    | 't' :: 'r' :: 'u' :: 'e' :: rest => some (.bool true, rest)
    | 'f' :: 'a' :: 'l' :: 's' :: 'e' :: rest => some (.bool false, rest)
    | 'n' :: 'u' :: 'l' :: 'l' :: rest => some (.null, rest)
    | 'I' :: 'n' :: 'f' :: 'i' :: 'n' :: 'i' :: 't' :: 'y' :: rest =>
      some (.real (.infinite false), rest)
    | '-' :: 'I' :: 'n' :: 'f' :: 'i' :: 'n' :: 'i' :: 't' :: 'y' :: rest =>
      some (.real (.infinite true), rest)
    | 'N' :: 'a' :: 'N' :: rest => some (.real .nan, rest)
    | text =>
      let (number, rest) := text.span isNumberChar
      (readNumber? number).map fun value => (value, rest)
/-- Items up to the closing bracket; `read` are those so far, backwards. -/
def readItems : Nat → List Value → List Char → Option (List Value × List Char)
  | 0, _, _ => none
  | depth + 1, read, text => match readValue depth text with
    | none => none
    | some (item, rest) => match skipGap rest with
      | ',' :: rest => readItems depth (item :: read) rest
      | ']' :: rest => some ((item :: read).reverse, rest)
      | _ => none
def readFields :
    Nat → List (String × Value) → List Char → Option (List (String × Value) × List Char)
  | 0, _, _ => none
  | depth + 1, read, text => match skipGap text with
    | '"' :: rest => match readText [] none rest with
      | none => none
      | some (key, rest) => match skipGap rest with
        | ':' :: rest => match readValue depth rest with
          | none => none
          | some (value, rest) => match skipGap rest with
            | ',' :: rest => readFields depth (setField key value read) rest
            | '\x7d' :: rest => some (setField key value read, rest)
            | _ => none
        | _ => none
    | _ => none
end

/-- Every call of a reader but the last takes a character, so twice the length of the text bounds
the calls in a row. -/
def read? (text : List Char) : Option Value :=
  match readValue (2 * text.length + 1) text with
  | some (value, rest) => if (skipGap rest).isEmpty then some value else none
  | none => none

/-! ## Writing -/

def hexDigits (width code : Nat) : List Char :=
  let digits := Nat.toDigits 16 code
  List.replicate (width - digits.length) '0' ++ digits

def writeChar (c : Char) : List Char :=
  if c == '"' then ['\\', '"']
  else if c == '\\' then ['\\', '\\']
  else if c.toNat < 0x20 then '\\' :: 'u' :: hexDigits 4 c.toNat
  else [c]

def writeText (text : String) : String :=
  String.ofList ('"' :: text.toList.flatMap writeChar ++ ['"'])

def writeReal : Double → String
  | .infinite negative => if negative then "-Infinity" else "Infinity"
  | .nan => "NaN"
  | .finite negative mantissa exponent =>
    let sign := if negative then "-" else ""
    if 0 ≤ exponent then sign ++ toString (mantissa * Nat.pow 2 exponent.toNat) ++ ".0"
    else
      let places := (-exponent).toNat
      let digits := Nat.toDigits 10 (mantissa * Nat.pow 5 places)
      let padded := List.replicate (places + 1 - digits.length) '0' ++ digits
      let whole := padded.length - places
      sign ++ String.ofList (padded.take whole ++ '.' :: padded.drop whole)

mutual
def write : Value → String
  | .null => "null"
  | .bool value => if value then "true" else "false"
  | .int value => toString value
  | .real value => writeReal value
  | .text value => writeText value
  | .list items => "[" ++ ", ".intercalate (writeItems items) ++ "]"
  | .object fields => "\x7b" ++ ", ".intercalate (writeFields fields) ++ "\x7d"
def writeItems : List Value → List String
  | [] => []
  | item :: items => write item :: writeItems items
def writeFields : List (String × Value) → List String
  | [] => []
  | (key, value) :: fields => (writeText key ++ ": " ++ write value) :: writeFields fields
end

end SolidityLint.Json
