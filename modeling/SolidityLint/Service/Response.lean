import SolidityLint.Schema.Model

/-!
# Responses

A request is answered with an analysis, the list of rules or an error. Whatever is sent, there is
one response, and it carries the identifier of its request if there is one.
-/

namespace SolidityLint

/-! ## Analyses on request -/

/-- What the service runs on: a parser, which gives a tree for a text or does not, and the stack on
which patterns are read. -/
structure Host where
  parser : List Char → TreeSource := fun _ => .unavailable
  fits : List Char → Bool := fitsUsually

/-- What a request leaves out is taken from the settings. -/
def Request.options (host : Host) (request : Request) (settings : Settings) : Options where
  rules := request.rules.getD settings.rules
  cap := request.maxProblems.getD settings.maxProblems
  naming := some (request.naming.getD settings.naming)
  trees := if request.useTree.getD settings.useTree then some (host.parser request.text.toList)
    else none
  fits := host.fits

def Request.run (host : Host) (request : Request) (settings : Settings) :
    Except PatternFault (List Finding) :=
  analyze request.text.toList (request.options host settings)

inductive ServiceFault
  | invalid (issues : Invalid)
  | pattern (fault : PatternFault)
  | notMapping (typeName : String)
  | notMessage (typeName : String)
  | notKey (typeName : String)
  | sendFailed
  deriving DecidableEq, Repr

def ServiceFault.message : ServiceFault → String
  | .invalid issues => issues.describe
  | .pattern fault => fault.message
  | .notMapping typeName =>
    "solsentry.models.MCPRequest() argument after ** must be a mapping, not " ++ typeName
  | .notMessage typeName => "'" ++ typeName ++ "' object has no attribute 'get'"
  | .notKey typeName => "unhashable type: '" ++ typeName ++ "'"
  | .sendFailed => "send failed"

def Request.ofFields (fields : Schema.Fields) : Except Invalid Request :=
  (Request.read fields).toExcept requestModel

def Envelope.ofFields (fields : Schema.Fields) : Except Invalid Envelope :=
  (Envelope.read fields).toExcept envelopeModel

def findingsReport (findings : List Finding) : Value :=
  .object [("findings", .list (findings.map Finding.toValue)),
    ("summary", (Summary.of findings).toValue)]

/-! ## Answers and refusals -/

structure RuleEntry where
  code : Code
  enabled : Bool
  deriving DecidableEq, Repr

def RuleEntry.toValue (entry : RuleEntry) : Value :=
  .object [("code", .text entry.code.name), ("severity", .text entry.code.severity.name),
    ("enabled", .bool entry.enabled)]

def Rules.entries (rules : Rules) : List RuleEntry :=
  Code.all.map fun code => ⟨code, rules.enabled code.switch⟩

inductive Answer
  | analysis (findings : List Finding)
  | rules (entries : List RuleEntry)
  deriving DecidableEq, Repr

def Answer.toValue : Answer → Value
  | .analysis findings => findingsReport findings
  | .rules entries => .object [("rules", .list (entries.map RuleEntry.toValue))]

inductive Refusal
  | invalidPayload (invalid : Invalid)
  | unknownAction (action : String)
  | internalError (fault : ServiceFault)
  deriving DecidableEq, Repr

namespace Refusal

def code : Refusal → String
  | .invalidPayload _ => "INVALID_PAYLOAD"
  | .unknownAction _ => "UNKNOWN_ACTION"
  | .internalError _ => "INTERNAL_ERROR"

def message : Refusal → String
  | .invalidPayload invalid => invalid.describe
  | .unknownAction action => "Unsupported action: " ++ action
  | .internalError fault => fault.message

end Refusal

def errorValue (code message : String) : Value :=
  .object [("code", .text code), ("message", .text message)]

structure Response where
  requestId : Value
  result : Except Refusal Answer

def Response.toValue (response : Response) : Value :=
  match response.result with
  | .ok answer => .object [("request_id", response.requestId), ("type", .text "success"),
      ("data", answer.toValue), ("error", .null)]
  | .error refusal => .object [("request_id", response.requestId), ("type", .text "error"),
      ("data", .null), ("error", errorValue refusal.code refusal.message)]

/-! ## Responding -/

def requestIdOf : Value → Value
  | .object fields => (fields.lookup "request_id").getD (.text "unknown")
  | _ => .text "unknown"

def Envelope.answer (host : Host) (envelope : Envelope) (settings : Settings) :
    Except Refusal Answer :=
  match envelope.action with
  | "analyze" => match Request.ofFields envelope.payload with
    | .error invalid => .error (.invalidPayload invalid)
    | .ok request => match request.run host settings with
      | .error fault => .error (.internalError (.pattern fault))
      | .ok findings => .ok (.analysis findings)
  | "rules" => .ok (.rules settings.rules.entries)
  | action => .error (.unknownAction action)

def answer (host : Host) (settings : Settings) : Value → Except Refusal Answer
  | .object fields => match Envelope.ofFields fields with
    | .error invalid => .error (.internalError (.invalid invalid))
    | .ok envelope => envelope.answer host settings
  | other => .error (.internalError (.notMapping other.typeName))

def respond (host : Host) (settings : Settings) (message : Value) : Response :=
  ⟨requestIdOf message, answer host settings message⟩

end SolidityLint
