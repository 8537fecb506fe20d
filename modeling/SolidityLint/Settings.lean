import SolidityLint.Analysis
import SolidityLint.Text.Quoted

/-!
# Settings from the environment

Settings are read from variables of one family of names. A variable that is not set, or cannot be
read, gives the default of its setting; the latter is worth a warning.
-/

namespace SolidityLint

open Text

structure Settings where
  enable : Bool := true
  maxProblems : Int := defaultCap
  useTree : Bool := false
  debounceMs : Int := 300
  rules : Rules := .allOn
  naming : Naming := .default

abbrev Environment := List (String × String)

def variableFamily : String := "SOLSENTRY_"

inductive Expected
  | boolean (default : Bool)
  | integer (default : Int)
  deriving DecidableEq, Repr

structure Warning where
  variableName : String
  raw : String
  expected : Expected
  deriving DecidableEq, Repr

def Expected.describe : Expected → String
  | .boolean default => " is not a boolean, using " ++ if default then "True" else "False"
  | .integer default => " is not an integer, using " ++ toString default

def Warning.message (warning : Warning) : String :=
  "[Config] " ++ variableFamily ++ warning.variableName ++ "=" ++
    String.ofList (quoted warning.raw.toList) ++ warning.expected.describe

namespace Environment

def get? (environment : Environment) (name : String) : Option String :=
  environment.lookup (variableFamily ++ name)

def trueWords : List String := ["1", "true", "yes", "on"]

def falseWords : List String := ["0", "false", "no", "off"]

def boolean? (raw : String) : Option Bool :=
  let word := trim raw.toList
  if isWordOf trueWords word then some true
  else if isWordOf falseWords word then some false
  else none
where
  isWordOf (words : List String) (word : List Char) : Bool :=
    words.any fun known => known.toList == word.map Char.toLower

def readInteger? (raw : String) : Option Int :=
  integer? (trim raw.toList)

/-- A setting, and a warning if its variable cannot be read. -/
def setting {α : Type} (environment : Environment) (name : String) (default : α)
    (expected : α → Expected) (read? : String → Option α) : α × List Warning :=
  match environment.get? name with
  | none => (default, [])
  | some raw => match read? raw with
    | some value => (value, [])
    | none => (default, [⟨name, raw, expected default⟩])

def boolean (environment : Environment) (name : String) (default : Bool) : Bool × List Warning :=
  environment.setting name default .boolean boolean?

def integer (environment : Environment) (name : String) (default : Int) : Int × List Warning :=
  environment.setting name default .integer readInteger?

def switch (environment : Environment) (switch : Switch) : Bool × List Warning :=
  environment.boolean ("RULE_" ++ switch.variableName) true

def naming (environment : Environment) : Naming where
  functionPattern := (environment.get? "FUNCTION_PATTERN").getD Naming.default.functionPattern
  variablePattern := (environment.get? "VARIABLE_PATTERN").getD Naming.default.variablePattern
  constantPattern := (environment.get? "CONSTANT_PATTERN").getD Naming.default.constantPattern
  contractPattern := (environment.get? "CONTRACT_PATTERN").getD Naming.default.contractPattern

def settings (environment : Environment) : Settings where
  enable := (environment.boolean "ENABLE" true).1
  maxProblems := (environment.integer "MAX_PROBLEMS" defaultCap).1
  useTree := (environment.boolean "USE_AST" false).1
  debounceMs := (environment.integer "DEBOUNCE_MS" 300).1
  rules := ⟨fun switch => (environment.switch switch).1⟩
  naming := environment.naming

def warnings (environment : Environment) : List Warning :=
  Switch.all.flatMap (fun switch => (environment.switch switch).2) ++
    (environment.boolean "ENABLE" true).2 ++
    (environment.integer "MAX_PROBLEMS" defaultCap).2 ++
    (environment.boolean "USE_AST" false).2 ++
    (environment.integer "DEBOUNCE_MS" 300).2

end Environment

end SolidityLint
