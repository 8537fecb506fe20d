import SolidityLint.Document
import SolidityLint.Finding.Sink
import SolidityLint.Naming

/-!
# What checks see and say

A check judges one line with its neighbours. It knows whether the document moves value, which
naming patterns are asked for and which names were met before, and answers with marks on the line
and names to remember.
-/

namespace SolidityLint

structure Scope where
  movesValue : Bool
  naming : Option NamePatterns

/-- Names that were declared with a type, and names that were found without one, in the order in
which they were found. -/
structure Names where
  declared : List (List Char) := []
  missing : List (List Char) := []
  deriving DecidableEq, Repr

namespace Names

def declare (names : Names) (name : List Char) : Names :=
  if names.declared.contains name then names
  else { names with declared := name :: names.declared }

def markMissing (names : Names) (name : List Char) : Names :=
  if names.missing.contains name then names
  else { names with missing := names.missing ++ [name] }

end Names

structure Mark where
  span : Span
  message : String
  code : Code
  deriving DecidableEq, Repr

def Mark.report (mark : Mark) (line : Int) : Report :=
  ⟨line, mark.span.start, mark.span.stop, mark.message, mark.code⟩

structure Outcome where
  marks : List Mark := []
  names : Names
  deriving DecidableEq, Repr

end SolidityLint
