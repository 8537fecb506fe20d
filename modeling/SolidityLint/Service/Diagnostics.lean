import SolidityLint.Service.Response

/-!
# Diagnostics

What is published about a document, and the state of the service. Where the service is switched
off, documents are not looked at and nothing is found.
-/

namespace SolidityLint

def diagnosticsSource : String := "Solidity Static Analyzer"

def documentRequest (text : Value) : Except Invalid Request :=
  Request.ofFields [("text", text)]

def diagnose (host : Host) (settings : Settings) (text : Value) :
    Except ServiceFault (List Finding) :=
  if settings.enable then
    match documentRequest text with
    | .error invalid => .error (.invalid invalid)
    | .ok request => match request.run host settings with
      | .error fault => .error (.pattern fault)
      | .ok findings => .ok findings
  else .ok []

def diagnosticsValue (uri : Value) (findings : List Finding) : Value :=
  .object [("type", .text "diagnostics"), ("uri", uri), ("source", .text diagnosticsSource),
    ("findings", .list (findings.map Finding.toValue))]

def healthValue : Value :=
  .object [("status", .text "ok"), ("service", .text "solsentry"), ("version", .text "0.1.0")]

end SolidityLint
