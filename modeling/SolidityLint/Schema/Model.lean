import SolidityLint.Schema.Read
import SolidityLint.Settings

/-!
# Models

The structures that clients send, each with a reader of fields and a dump by field names. Rules,
naming and requests may also be written with an editor's names for their fields.
-/

namespace SolidityLint

open Schema

/-! ## Dumps -/

def Value.nat (n : Nat) : Value := .int n

def Value.ofOption {α : Type} (dump : α → Value) : Option α → Value
  | some value => dump value
  | none => .null

def Position.toValue (position : Position) : Value :=
  .object [("line", .int position.line), ("character", .int position.character)]

def Range.toValue (range : Range) : Value :=
  .object [("start", range.start.toValue), ("end", range.stop.toValue)]

def Finding.toValue (finding : Finding) : Value :=
  .object [("message", .text finding.message), ("code", .text finding.code.name),
    ("severity", .text finding.severity.name), ("range", finding.range.toValue)]

def Summary.toValue (summary : Summary) : Value :=
  .object [("total", .nat summary.total),
    ("by_severity", .object (summary.severities.map fun (severity, count) =>
      (severity.name, .nat count))),
    ("by_code", .object (summary.codes.map fun (code, count) => (code.name, .nat count)))]

def Rules.toValue (rules : Rules) : Value :=
  .object (Switch.all.map fun switch => (switch.name, .bool (rules.enabled switch)))

def Naming.toValue (naming : Naming) : Value :=
  .object [("function_pattern", .text naming.functionPattern),
    ("variable_pattern", .text naming.variablePattern),
    ("constant_pattern", .text naming.constantPattern),
    ("contract_pattern", .text naming.contractPattern)]

def Settings.toValue (settings : Settings) : Value :=
  .object [("enable", .bool settings.enable), ("max_problems", .int settings.maxProblems),
    ("use_ast", .bool settings.useTree), ("debounce_ms", .int settings.debounceMs),
    ("rules", settings.rules.toValue), ("naming", settings.naming.toValue)]

/-! ## Readers -/

def Switch.read (fields : Fields) (switch : Switch) : Validated Bool :=
  fieldOr fields [switch.editorName, switch.name] true readBool

def Rules.read (fields : Fields) : Validated Rules :=
  match Switch.all.flatMap fun switch => (switch.read fields).issues with
  | [] => .valid ⟨fun switch => ((switch.read fields).value?).getD true⟩
  | issues => .invalid issues

def Naming.read (fields : Fields) : Validated Naming :=
  Naming.mk <$> fieldOr fields ["functionPattern", "function_pattern"] "" readText
    <*> fieldOr fields ["variablePattern", "variable_pattern"] "" readText
    <*> fieldOr fields ["constantPattern", "constant_pattern"] "" readText
    <*> fieldOr fields ["contractPattern", "contract_pattern"] "" readText

def rulesModel : String := "AnalyzerRules"

def namingModel : String := "NamingConfig"

def Position.read (fields : Fields) : Validated Position :=
  Position.mk <$> field fields "line" readInt <*> field fields "character" readInt

def Range.read (fields : Fields) : Validated Range :=
  Range.mk <$> field fields "start" (readModel "Position" Position.read)
    <*> field fields "end" (readModel "Position" Position.read)

def Finding.read (fields : Fields) : Validated Finding :=
  Finding.mk <$> field fields "message" readText
    <*> field fields "code" (readEnum (Code.all.map Code.name) Code.ofName?)
    <*> field fields "severity" (readEnum (Severity.all.map Severity.name) Severity.ofName?)
    <*> field fields "range" (readModel "Range" Range.read)

def settingsModel : String := "Settings"

def Settings.read (fields : Fields) : Validated Settings :=
  Settings.mk <$> fieldOr fields ["enable"] true readBool
    <*> fieldOr fields ["max_problems"] defaultCap readInt
    <*> fieldOr fields ["use_ast"] false readBool
    <*> fieldOr fields ["debounce_ms"] 300 readInt
    <*> fieldOr fields ["rules"] Rules.allOn (readModel rulesModel Rules.read)
    <*> fieldOr fields ["naming"] Naming.default (readModel namingModel Naming.read)

/-! ## Requests -/

/-- A document to analyze. What is left out is taken from the settings. -/
structure Request where
  text : String
  rules : Option Rules := none
  maxProblems : Option Int := none
  naming : Option Naming := none
  useTree : Option Bool := none

def requestModel : String := "AnalyzeRequest"

def Request.read (fields : Fields) : Validated Request :=
  Request.mk <$> field fields "text" readText
    <*> fieldOr fields ["rules"] none (readOptional (readModel rulesModel Rules.read))
    <*> fieldOr fields ["maxProblems", "max_problems"] none (readOptional readInt)
    <*> fieldOr fields ["naming"] none (readOptional (readModel namingModel Naming.read))
    <*> fieldOr fields ["useAST", "use_ast"] none (readOptional readBool)

def Request.toValue (request : Request) : Value :=
  .object [("text", .text request.text), ("rules", .ofOption Rules.toValue request.rules),
    ("max_problems", .ofOption .int request.maxProblems),
    ("naming", .ofOption Naming.toValue request.naming),
    ("use_ast", .ofOption .bool request.useTree)]

structure Envelope where
  requestId : String
  action : String
  payload : Fields
  context : Option Fields := none

def envelopeModel : String := "MCPRequest"

def Envelope.read (fields : Fields) : Validated Envelope :=
  Envelope.mk <$> field fields "request_id" readText
    <*> field fields "action" readText
    <*> field fields "payload" readObject
    <*> fieldOr fields ["context"] none (readOptional readObject)

inductive DumpFault
  | tooDeep
  deriving DecidableEq, Repr

def DumpFault.message : DumpFault → String
  | .tooDeep => "Maximum serialization depth exceeded"

/-- So many values can be dumped within each other. The fields that hold them do not count. -/
def maxDumpHeight : Nat := 255

/-- Infinities have no place in a dump, nor what is no number: they become null. -/
def Fields.dump (fields : Fields) : Except DumpFault Value :=
  if Value.heightFields fields ≤ maxDumpHeight then .ok (.object (Value.onlyFiniteFields fields))
  else .error .tooDeep

def Envelope.dump (envelope : Envelope) : Except DumpFault Value := do
  let payload ← Fields.dump envelope.payload
  let context ← envelope.context.mapM Fields.dump
  return .object [("request_id", .text envelope.requestId), ("action", .text envelope.action),
    ("payload", payload), ("context", context.getD .null)]

end SolidityLint
