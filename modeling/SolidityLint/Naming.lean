import SolidityLint.Pattern.Reader

/-!
# Naming patterns

How functions, variables, constants and contracts are to be named. A pattern that is empty or
malformed asks for nothing.
-/

namespace SolidityLint

structure Naming where
  functionPattern : String := ""
  variablePattern : String := ""
  constantPattern : String := ""
  contractPattern : String := ""
  deriving DecidableEq, Repr

def Naming.default : Naming where
  functionPattern := "^[a-z_][a-zA-Z0-9_]*$"
  variablePattern := "^[a-z_][a-zA-Z0-9_]*$"
  constantPattern := "^[A-Z_][A-Z0-9_]*$"
  contractPattern := "^[A-Z][a-zA-Z0-9]*$"

def namingPattern? (fits : List Char → Bool) (text : String) :
    Except PatternFault (Option Expression) :=
  if text.isEmpty then .ok none
  else match Expression.read fits text.toList with
    | .ok pattern => .ok (some pattern)
    | .error .malformed => .ok none
    | .error fault => .error fault

structure NamePatterns where
  functionNames : Option Expression
  variableNames : Option Expression
  constantNames : Option Expression
  contractNames : Option Expression

def Naming.patterns (fits : List Char → Bool) (naming : Naming) :
    Except PatternFault NamePatterns := do
  return {
    functionNames := ← namingPattern? fits naming.functionPattern
    variableNames := ← namingPattern? fits naming.variablePattern
    constantNames := ← namingPattern? fits naming.constantPattern
    contractNames := ← namingPattern? fits naming.contractPattern }

end SolidityLint
