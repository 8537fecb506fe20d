import SolidityLint.Text.Integer

/-!
# Integers from clients

Text that stands for an integer is first taken as a plain numeral. If it is none, it is tidied up
once, and what is left must be a plain numeral. Tidying takes off surrounding blanks, a plus sign,
leading zeros, a fraction of zeros and single underscores.
-/

namespace SolidityLint.Text

inductive Numeral
  | value (value : Int)
  /-- A number with more digits than are ever read. -/
  | tooLong
  | invalid
  deriving DecidableEq, Repr

def isAsciiDigit (c : Char) : Bool := (asciiDigit? c).isSome

def isNonzeroDigit (c : Char) : Bool := isAsciiDigit c && c != '0'

def splitMinus : List Char → Bool × List Char
  | '-' :: rest => (true, rest)
  | text => (false, text)

/-- Digits behind a minus sign or nothing. A number does not start with a zero unless it is zero.
Too many digits are refused whatever comes behind them. -/
def plainNumeral (text : List Char) : Numeral :=
  match splitMinus text with
  | (_, ['0']) => .value 0
  | (negative, rest) =>
    let (digits, behind) := rest.span isAsciiDigit
    if !rest.head?.any isNonzeroDigit then .invalid
    else if maxDigits < digits.length then .tooLong
    else if behind.isEmpty then .value (signed negative (ofDigits (digits.filterMap asciiDigit?)))
    else .invalid

/-- What follows zeros and underscores, the last of which is `last`. Before a point or the end, the
last one stays. -/
def skipZeros? (last : Char) : List Char → Option (List Char)
  | [] => some [last]
  | c :: rest =>
    if c == '0' || c == '_' then skipZeros? c rest
    else if isNonzeroDigit c || c == '-' then some (c :: rest)
    else if c == '.' then some (last :: c :: rest)
    else none

def withoutLeadingZeros? : List Char → Option (List Char)
  | [] => none
  | c :: rest =>
    if c == '0' then skipZeros? c rest
    else if isNonzeroDigit c || c == '-' then some (c :: rest)
    else none

def withoutZeroFraction (text : List Char) : List Char :=
  match text.span (· != '.') with
  | (whole, _ :: zeros) => if !zeros.isEmpty && zeros.all (· == '0') then whole else text
  | (whole, []) => whole

def hasDoubleUnderscore : List Char → Bool
  | '_' :: '_' :: _ => true
  | _ :: rest => hasDoubleUnderscore rest
  | [] => false

def withoutUnderscores (text : List Char) : List Char :=
  if text.head? == some '_' || text.getLast? == some '_' || hasDoubleUnderscore text then text
  else text.filter (· != '_')

def withoutPlus? : List Char → Option (List Char)
  | '+' :: '-' :: _ => none
  | '+' :: rest => some rest
  | text => some text

def tidy? (text : List Char) : Option (List Char) := do
  let (negative, digits) := splitMinus (← withoutPlus? (trimNumber text))
  let digits ← withoutLeadingZeros? digits
  return withoutUnderscores (withoutZeroFraction (if negative then '-' :: digits else digits))

/-- Only a number that is too long as it stands is told from other invalid text. -/
def numeral (text : List Char) : Numeral :=
  match plainNumeral text with
  | .invalid => match (tidy? text).map plainNumeral with
    | some (.value value) => .value value
    | _ => .invalid
  | plain => plain

end SolidityLint.Text
