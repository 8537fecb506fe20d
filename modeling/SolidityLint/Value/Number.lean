import SolidityLint.Value.Basic

/-!
# Numbers from outside

Integers and doubles where either may come. They are compared and counted on as they are, and only
what is kept must be an integer.
-/

namespace SolidityLint

inductive Number
  | int (value : Int)
  | real (value : Double)
  deriving DecidableEq, Repr

namespace Number

/-- Numbers are the same if they have the same key, but what is no number is not even the same as
itself. -/
def key : Number → Value.Key
  | .int value => .number value
  | .real value => match value.integer? with
    | some integer => .number integer
    | none => .fraction value

def isAtLeast (bound : Nat) : Number → Bool
  | .int value => bound ≤ value
  | .real value => value.isAtLeast bound

def addOne : Number → Number
  | .int value => .int (value + 1)
  | .real value => .real value.addOne

end Number

/-- Truth values are numbers too. -/
def Value.number? : Value → Option Number
  | .bool value => some (.int (if value then 1 else 0))
  | .int value => some (.int value)
  | .real value => some (.real value)
  | .null | .text _ | .list _ | .object _ => none

end SolidityLint
