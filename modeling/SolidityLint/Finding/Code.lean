import SolidityLint.Text.Quoted

/-!
# Finding codes, severities and rule switches

What can be wrong with a document, how bad that is, and which switch asks for it. The severity of
a code is fixed, and each switch stands for one code.
-/

namespace SolidityLint

inductive Severity
  | error
  | warning
  | information
  deriving DecidableEq, Repr

namespace Severity

def all : List Severity := [.error, .warning, .information]

def name : Severity → String
  | .error => "Error"
  | .warning => "Warning"
  | .information => "Information"

def ofName? (name : String) : Option Severity :=
  all.find? (·.name == name)

end Severity

inductive Code
  | txOrigin
  | selfdestruct
  | delegatecall
  | lowLevelCallValue
  | missingSemicolon
  | missingBraces
  | missingParentheses
  | missingDataType
  | wrongKeyword
  | missingPayable
  | missingReturn
  | functionNaming
  | variableNaming
  | contractNaming
  deriving DecidableEq, Repr

namespace Code

def all : List Code :=
  [.txOrigin, .selfdestruct, .delegatecall, .lowLevelCallValue, .missingSemicolon, .missingBraces,
    .missingParentheses, .missingDataType, .wrongKeyword, .missingPayable, .missingReturn,
    .functionNaming, .variableNaming, .contractNaming]

def name : Code → String
  | .txOrigin => "TX_ORIGIN"
  | .selfdestruct => "SELFDESTRUCT"
  | .delegatecall => "DELEGATECALL"
  | .lowLevelCallValue => "LOW_LEVEL_CALL_VALUE"
  | .missingSemicolon => "MISSING_SEMICOLON"
  | .missingBraces => "MISSING_BRACES"
  | .missingParentheses => "MISSING_PARENTHESES"
  | .missingDataType => "MISSING_DATA_TYPE"
  | .wrongKeyword => "WRONG_KEYWORD"
  | .missingPayable => "MISSING_PAYABLE"
  | .missingReturn => "MISSING_RETURN"
  | .functionNaming => "FUNCTION_NAMING"
  | .variableNaming => "VARIABLE_NAMING"
  | .contractNaming => "CONTRACT_NAMING"

def ofName? (name : String) : Option Code :=
  all.find? (·.name == name)

def unknownMessage (name : String) : String :=
  String.ofList (Text.quoted name.toList) ++ " is not a valid FindingCode"

def severity : Code → Severity
  | .txOrigin | .selfdestruct | .delegatecall | .lowLevelCallValue | .wrongKeyword
  | .missingPayable => .warning
  | .missingSemicolon | .missingBraces | .missingParentheses | .missingDataType | .missingReturn
  | .functionNaming | .variableNaming | .contractNaming => .error

end Code

inductive Switch
  | txOrigin
  | selfdestruct
  | delegatecall
  | lowLevelCallValue
  | missingSemicolon
  | missingParentheses
  | missingBraces
  | missingReturn
  | wrongKeywords
  | missingDataType
  | missingPayable
  | functionNaming
  | variableNaming
  | contractNaming
  deriving DecidableEq, Repr

namespace Switch

def all : List Switch :=
  [.txOrigin, .selfdestruct, .delegatecall, .lowLevelCallValue, .missingSemicolon,
    .missingParentheses, .missingBraces, .missingReturn, .wrongKeywords, .missingDataType,
    .missingPayable, .functionNaming, .variableNaming, .contractNaming]

def name : Switch → String
  | .txOrigin => "tx_origin"
  | .selfdestruct => "selfdestruct"
  | .delegatecall => "delegatecall"
  | .lowLevelCallValue => "low_level_call_value"
  | .missingSemicolon => "missing_semicolon"
  | .missingParentheses => "missing_parentheses"
  | .missingBraces => "missing_braces"
  | .missingReturn => "missing_return"
  | .wrongKeywords => "wrong_keywords"
  | .missingDataType => "missing_data_type"
  | .missingPayable => "missing_payable"
  | .functionNaming => "function_naming"
  | .variableNaming => "variable_naming"
  | .contractNaming => "contract_naming"

def editorName : Switch → String
  | .txOrigin => "txOrigin"
  | .selfdestruct => "selfdestruct"
  | .delegatecall => "delegatecall"
  | .lowLevelCallValue => "lowLevelCallValue"
  | .missingSemicolon => "missingSemicolon"
  | .missingParentheses => "missingParentheses"
  | .missingBraces => "missingBraces"
  | .missingReturn => "missingReturn"
  | .wrongKeywords => "wrongKeywords"
  | .missingDataType => "missingDataType"
  | .missingPayable => "missingPayable"
  | .functionNaming => "functionNaming"
  | .variableNaming => "variableNaming"
  | .contractNaming => "contractNaming"

def variableName (switch : Switch) : String :=
  switch.name.map Char.toUpper

def ofName? (name : String) : Option Switch :=
  all.find? (·.name == name)

end Switch

def Code.switch : Code → Switch
  | .txOrigin => .txOrigin
  | .selfdestruct => .selfdestruct
  | .delegatecall => .delegatecall
  | .lowLevelCallValue => .lowLevelCallValue
  | .missingSemicolon => .missingSemicolon
  | .missingBraces => .missingBraces
  | .missingParentheses => .missingParentheses
  | .missingDataType => .missingDataType
  | .wrongKeyword => .wrongKeywords
  | .missingPayable => .missingPayable
  | .missingReturn => .missingReturn
  | .functionNaming => .functionNaming
  | .variableNaming => .variableNaming
  | .contractNaming => .contractNaming

structure Rules where
  enabled : Switch → Bool

namespace Rules

def allOn : Rules := ⟨fun _ => true⟩

def only (switches : List Switch) : Rules := ⟨switches.contains⟩

end Rules

end SolidityLint
