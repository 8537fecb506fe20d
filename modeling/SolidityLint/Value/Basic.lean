import SolidityLint.Text.Integer
import SolidityLint.Value.Double

/-!
# Dynamic values

What clients send before it is validated: the values of JSON, with integers and doubles kept apart.
-/

namespace SolidityLint

inductive Value
  | null
  | bool (value : Bool)
  | int (value : Int)
  | real (value : Double)
  | text (value : String)
  | list (items : List Value)
  | object (fields : List (String × Value))

namespace Value

def typeName : Value → String
  | .null => "NoneType"
  | .bool _ => "bool"
  | .int _ => "int"
  | .real _ => "float"
  | .text _ => "str"
  | .list _ => "list"
  | .object _ => "dict"

/-- Nothing, zero, and whatever is empty. -/
def isFalsy : Value → Bool
  | .null => true
  | .bool value => !value
  | .int value => value == 0
  | .real value => value.integer? == some 0
  | .text value => value.isEmpty
  | .list items => items.isEmpty
  | .object fields => fields.isEmpty

/-- The integer that a value is. Truth values are integers too. -/
def index? : Value → Option Int
  | .bool value => some (if value then 1 else 0)
  | .int value => some value
  | _ => none

mutual
/-- How many values stand within each other. Every value counts, also one that holds no other. -/
def height : Value → Nat
  | .list items => heightAll items + 1
  | .object fields => heightFields fields + 1
  | _ => 1
def heightAll : List Value → Nat
  | [] => 0
  | item :: items => max item.height (heightAll items)
def heightFields : List (String × Value) → Nat
  | [] => 0
  | (_, value) :: fields => max value.height (heightFields fields)
end

mutual
def onlyFinite : Value → Value
  | .real value => if value.isFinite then .real value else .null
  | .list items => .list (onlyFiniteAll items)
  | .object fields => .object (onlyFiniteFields fields)
  | value => value
def onlyFiniteAll : List Value → List Value
  | [] => []
  | item :: items => item.onlyFinite :: onlyFiniteAll items
def onlyFiniteFields : List (String × Value) → List (String × Value)
  | [] => []
  | (key, value) :: fields => (key, value.onlyFinite) :: onlyFiniteFields fields
end

/-- Values that identify a document. Numbers and truth values are the same if they are equal as
numbers. Lists and objects identify nothing. -/
inductive Key
  | null
  | number (value : Int)
  | fraction (value : Double)
  | text (value : String)
  deriving DecidableEq, Repr

def key? : Value → Option Key
  | .null => some .null
  | .bool value => some (.number (if value then 1 else 0))
  | .int value => some (.number value)
  | .real value => some (match value.integer? with
    | some integer => .number integer
    | none => .fraction value)
  | .text value => some (.text value)
  | .list _ | .object _ => none

end Value

/-- The cap on findings that a value asks for. Text may spell an integer, and what is no number
asks for none. An infinite cap is refused. -/
def capOf? : Value → Option Int
  | .bool value => some (if value then 1 else 0)
  | .int value => some value
  | .real .nan => some 0
  | .real value => value.truncate?
  | .text value => some ((Text.integer? value.toList).getD 0)
  | .null | .list _ | .object _ => some 0

end SolidityLint
