import SolidityLint.Schema.Issue
import SolidityLint.Text.Numeral

/-!
# Reading values

Lenient readers: truth values and integers may be spelled as numbers or text. A field may have two
names; the first one that is present counts, and an issue is reported under it.
-/

namespace SolidityLint.Schema

open Text

abbrev Fields := List (String × Value)

def trueWords : List String := ["1", "on", "t", "true", "y", "yes"]

def falseWords : List String := ["0", "off", "f", "false", "n", "no"]

/-- The integers of 64 bits run from minus this number up to but not including it. -/
def wordBound : Int := Int.pow 2 63

/-- Only integers of 64 bits are taken for truth values at all. -/
def boolOfInt (value : Int) : Validated Bool :=
  if value = 0 then .valid false
  else if value = 1 then .valid true
  else if -wordBound ≤ value && value < wordBound then .fail .boolParsing
  else .fail .boolType

/-- The integer that a double is. The bounds themselves are out of bounds. -/
def integerOf (value : Double) : Validated Int :=
  match value.integer? with
  | some integer =>
    if -wordBound < integer && integer < wordBound then .valid integer
    else .fail .intParsingSize
  | none => .fail (if value.isFinite then .intFromFloat else .finiteNumber)

def readBool : Value → Validated Bool
  | .bool value => .valid value
  | .int value => boolOfInt value
  | .real value => match integerOf value with
    | .valid integer => boolOfInt integer
    | .invalid _ => .fail .boolType
  | .text value =>
    let word := value.map Char.toLower
    if trueWords.contains word then .valid true
    else if falseWords.contains word then .valid false
    else .fail .boolParsing
  | .null | .list _ | .object _ => .fail .boolType

def readIntText (text : List Char) : Validated Int :=
  match numeral text with
  | .value value => .valid value
  | .tooLong => .fail .intParsingSize
  | .invalid => .fail .intParsing

def readInt : Value → Validated Int
  | .bool value => .valid (if value then 1 else 0)
  | .int value => .valid value
  | .real value => integerOf value
  | .text value => readIntText value.toList
  | .null | .list _ | .object _ => .fail .intType

def readText : Value → Validated String
  | .text value => .valid value
  | _ => .fail .stringType

def readObject : Value → Validated Fields
  | .object fields => .valid fields
  | _ => .fail .dictType

def readModel {α : Type} (model : String) (read : Fields → Validated α) : Value → Validated α
  | .object fields => read fields
  | _ => .fail (.modelType model)

def readEnum {α : Type} (names : List String) (ofName? : String → Option α) : Value → Validated α
  | .text name => match ofName? name with
    | some value => .valid value
    | none => .fail (.enum names)
  | _ => .fail (.enum names)

def readOptional {α : Type} (read : Value → Validated α) : Value → Validated (Option α)
  | .null => .valid none
  | value => (read value).map some

def find? (fields : Fields) : List String → Option (String × Value)
  | [] => none
  | key :: keys => match fields.lookup key with
    | some value => some (key, value)
    | none => find? fields keys

def fieldOr {α : Type} (fields : Fields) (keys : List String) (default : α)
    (read : Value → Validated α) : Validated α :=
  match find? fields keys with
  | some (key, value) => (read value).under key
  | none => .valid default

def field {α : Type} (fields : Fields) (key : String) (read : Value → Validated α) : Validated α :=
  match fields.lookup key with
  | some value => (read value).under key
  | none => (Validated.fail .missing).under key

end SolidityLint.Schema
