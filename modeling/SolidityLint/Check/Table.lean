import SolidityLint.Check.DataType
import SolidityLint.Check.Keyword
import SolidityLint.Check.Naming
import SolidityLint.Check.Payable
import SolidityLint.Check.Security
import SolidityLint.Check.Semicolon

/-!
# The table of line checks

All line checks in the order in which they are made on every line, each behind its switch.
-/

namespace SolidityLint

inductive LineCheck
  | txOrigin
  | selfdestruct
  | delegatecall
  | lowLevelCallValue
  | openDeclaration
  | openStatement
  | openLastLine
  | loneName
  | missingParentheses
  | wrongKeywords
  | typedDeclarations
  | assignedNames
  | bracketDeclarations
  | tupleNames
  | bareNames
  | parameterNames
  | parameterBrackets
  | laterUses
  | missingPayable
  | functionNaming
  | variableNaming
  | contractNaming
  deriving DecidableEq, Repr

namespace LineCheck

def all : List LineCheck :=
  [.txOrigin, .selfdestruct, .delegatecall, .lowLevelCallValue, .openDeclaration,
    .openStatement, .openLastLine, .loneName, .missingParentheses, .wrongKeywords,
    .typedDeclarations, .assignedNames, .bracketDeclarations, .tupleNames,
    .bareNames, .parameterNames, .parameterBrackets, .laterUses,
    .missingPayable, .functionNaming, .variableNaming, .contractNaming]

def switch : LineCheck → Switch
  | .txOrigin => .txOrigin
  | .selfdestruct => .selfdestruct
  | .delegatecall => .delegatecall
  | .lowLevelCallValue => .lowLevelCallValue
  | .openDeclaration | .openStatement | .openLastLine | .loneName =>
    .missingSemicolon
  | .missingParentheses => .missingParentheses
  | .wrongKeywords => .wrongKeywords
  | .typedDeclarations | .assignedNames | .bracketDeclarations | .tupleNames
  | .bareNames | .parameterNames | .parameterBrackets | .laterUses =>
    .missingDataType
  | .missingPayable => .missingPayable
  | .functionNaming => .functionNaming
  | .variableNaming => .variableNaming
  | .contractNaming => .contractNaming

/-- A check that has nothing to look for does not look at the line. -/
def isIdle (scope : Scope) (names : Names) : LineCheck → Bool
  | .laterUses => names.missing.isEmpty
  | .missingPayable => !scope.movesValue
  | .functionNaming => (scope.naming.bind (·.functionNames)).isNone
  | .variableNaming => scope.naming.isNone
  | .contractNaming => (scope.naming.bind (·.contractNames)).isNone
  | _ => false

def judge (scope : Scope) (names : Names) (here : Context) :
    LineCheck → Except Fault Outcome
  | .txOrigin => .ok { marks := Check.txOrigin here, names }
  | .selfdestruct => .ok { marks := Check.selfdestruct here, names }
  | .delegatecall => .ok { marks := Check.delegatecall here, names }
  | .lowLevelCallValue => .ok { marks := Check.lowLevelCallValue here, names }
  | .openDeclaration => .ok { marks := Check.openDeclaration here, names }
  | .openStatement => .ok { marks := Check.openStatement here, names }
  | .openLastLine => .ok { marks := Check.openLastLine here, names }
  | .loneName => .ok { marks := Check.loneName here, names }
  | .missingParentheses => .ok { marks := Check.missingParentheses here, names }
  | .wrongKeywords => .ok { marks := Check.wrongKeywords here, names }
  | .typedDeclarations => .ok (Check.typedDeclarations here names)
  | .assignedNames => .ok (Check.assignedNames here names)
  | .bracketDeclarations => .ok { marks := Check.bracketDeclarations here, names }
  | .tupleNames => .ok (Check.tupleNames here names)
  | .bareNames => .ok (Check.bareNames here names)
  | .parameterNames => .ok (Check.parameterNames here names)
  | .parameterBrackets => .ok { marks := Check.parameterBrackets here, names }
  | .laterUses => .ok { marks := Check.laterUses here names, names }
  | .missingPayable =>
    .ok { marks := if scope.movesValue then Check.missingPayable here else [], names }
  | .functionNaming => match scope.naming.bind (·.functionNames) with
    | some pattern => do return { marks := ← Check.functionNaming pattern here, names }
    | none => .ok { names }
  | .variableNaming => match scope.naming with
    | some patterns => do return { marks := ← Check.variableNaming patterns here, names }
    | none => .ok { names }
  | .contractNaming => match scope.naming.bind (·.contractNames) with
    | some pattern => do return { marks := ← Check.contractNaming pattern here, names }
    | none => .ok { names }

def run (check : LineCheck) (scope : Scope) (lines : List Line) (names : Names) (index : Int) :
    Except Fault Outcome :=
  if check.isIdle scope names then .ok { names }
  else match Context.at? lines index with
    | some here => check.judge scope names here
    | none => .error .lineOutOfRange

end LineCheck

/-- A check behind a switch. A rule that fails says nothing about its line. -/
structure Rule where
  switch : Switch
  check : Scope → Names → Context → Except Fault Outcome

def LineCheck.rule (check : LineCheck) : Rule where
  switch := check.switch
  check scope names here := check.judge scope names here

def lineRules : List Rule := LineCheck.all.map LineCheck.rule

def Rule.failing (switch : Switch) : Rule := ⟨switch, fun _ _ _ => .error .failed⟩

end SolidityLint
