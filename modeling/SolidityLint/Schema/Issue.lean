import SolidityLint.Value.Basic

/-!
# Validation issues

What can be wrong with a value that is validated, and where. All issues of a value are collected, in
the order of the fields that are read.
-/

namespace SolidityLint

inductive IssueKind
  | missing
  | boolType
  | boolParsing
  | intType
  | intParsing
  | intParsingSize
  | intFromFloat
  | finiteNumber
  | stringType
  | dictType
  | modelType (model : String)
  | enum (allowed : List String)
  deriving DecidableEq, Repr

/-- Alternatives as in "'a', 'b' or 'c'". -/
def listAlternatives : List String → String
  | [] => ""
  | [last] => "'" ++ last ++ "'"
  | [a, b] => "'" ++ a ++ "' or '" ++ b ++ "'"
  | a :: rest => "'" ++ a ++ "', " ++ listAlternatives rest

namespace IssueKind

def name : IssueKind → String
  | .missing => "missing"
  | .boolType => "bool_type"
  | .boolParsing => "bool_parsing"
  | .intType => "int_type"
  | .intParsing => "int_parsing"
  | .intParsingSize => "int_parsing_size"
  | .intFromFloat => "int_from_float"
  | .finiteNumber => "finite_number"
  | .stringType => "string_type"
  | .dictType => "dict_type"
  | .modelType _ => "model_type"
  | .enum _ => "enum"

def message : IssueKind → String
  | .missing => "Field required"
  | .boolType => "Input should be a valid boolean"
  | .boolParsing => "Input should be a valid boolean, unable to interpret input"
  | .intType => "Input should be a valid integer"
  | .intParsing => "Input should be a valid integer, unable to parse string as an integer"
  | .intParsingSize => "Unable to parse input string as an integer, exceeded maximum size"
  | .intFromFloat => "Input should be a valid integer, got a number with a fractional part"
  | .finiteNumber => "Input should be a finite number"
  | .stringType => "Input should be a valid string"
  | .dictType => "Input should be a valid dictionary"
  | .modelType model => "Input should be a valid dictionary or instance of " ++ model
  | .enum allowed => "Input should be " ++ listAlternatives allowed

end IssueKind

structure Issue where
  path : List String := []
  kind : IssueKind
  deriving DecidableEq, Repr

def Issue.under (key : String) (issue : Issue) : Issue :=
  { issue with path := key :: issue.path }

def Issue.describe (issue : Issue) : String :=
  ".".intercalate issue.path ++ "\n  " ++ issue.kind.message ++ " [type=" ++ issue.kind.name ++ "]"

structure Invalid where
  model : String
  issues : List Issue
  deriving DecidableEq, Repr

def Invalid.describe (invalid : Invalid) : String :=
  let count := invalid.issues.length
  let noun := if count = 1 then " validation error for " else " validation errors for "
  "\n".intercalate ((toString count ++ noun ++ invalid.model) :: invalid.issues.map Issue.describe)

inductive Validated (α : Type)
  | valid (value : α)
  | invalid (issues : List Issue)

namespace Validated

def map {α β : Type} (f : α → β) : Validated α → Validated β
  | .valid value => .valid (f value)
  | .invalid issues => .invalid issues

def apply {α β : Type} (f : Validated (α → β)) (x : Validated α) : Validated β :=
  match f, x with
  | .valid f, .valid x => .valid (f x)
  | .valid _, .invalid issues => .invalid issues
  | .invalid issues, .valid _ => .invalid issues
  | .invalid first, .invalid second => .invalid (first ++ second)

instance : Applicative Validated where
  pure := .valid
  seq f x := f.apply (x ())

def fail {α : Type} (kind : IssueKind) : Validated α :=
  .invalid [{ kind }]

def under {α : Type} (key : String) : Validated α → Validated α
  | .valid value => .valid value
  | .invalid issues => .invalid (issues.map (·.under key))

def issues {α : Type} : Validated α → List Issue
  | .valid _ => []
  | .invalid issues => issues

def value? {α : Type} : Validated α → Option α
  | .valid value => some value
  | .invalid _ => none

def toExcept {α : Type} (model : String) : Validated α → Except Invalid α
  | .valid value => .ok value
  | .invalid issues => .error ⟨model, issues⟩

end Validated

end SolidityLint
