import SolidityLint.Check.Basic

/-!
# Security checks

Single patterns on the code of a line. The first occurrence is reported, and only its keyword is
marked.
-/

namespace SolidityLint.Check

open Pattern

def originAccess : Pattern := caseless "tx.origin"

def destruction : Pattern :=
  all [.group 1 (caselessAny ["selfdestruct", "suicide"]), blanks, char '(']

def delegation : Pattern := all [caseless ".delegatecall", blanks, char '(']

def callWithValue : Pattern :=
  all [caseless ".call", blanks, char '{', blanks, caseless "value", blanks, char ':', blanks]

def legacyCallWithValue : Pattern := all [caseless ".call.value", blanks, char '(']

def txOrigin (here : Context) : List Mark :=
  (originAccess.search? here.code).toList.map fun found =>
    ⟨found.span, "Avoid using tx.origin for authorization. Use msg.sender instead.", .txOrigin⟩

def selfdestruct (here : Context) : List Mark :=
  ((destruction.search? here.code).bind (·.group? 1)).toList.map fun keyword =>
    ⟨keyword, "selfdestruct can permanently remove contract code. " ++
      "Ensure this is intended and access controlled.", .selfdestruct⟩

def behindDot (found : Match) (width : Nat) : Span :=
  ⟨found.span.start + 1, found.span.start + 1 + width⟩

def delegatecall (here : Context) : List Mark :=
  (delegation.search? here.code).toList.map fun found =>
    ⟨behindDot found "delegatecall".length,
      "delegatecall can lead to unexpected context changes. Validate target and data.",
      .delegatecall⟩

def callValueMark (found : Match) (width : Nat) : Mark :=
  let full := behindDot found width
  ⟨⟨full.start, min full.stop found.span.stop⟩,
    "Low-level call with value can introduce reentrancy. " ++
      "Use Checks-Effects-Interactions and consider .transfer/.send limitations.",
    .lowLevelCallValue⟩

/-- A call with value in braces is reported before one in the old style. -/
def lowLevelCallValue (here : Context) : List Mark :=
  match callWithValue.search? here.code with
  | some found => [callValueMark found "call\x7bvalue:".length]
  | none => (legacyCallWithValue.search? here.code).toList.map fun found =>
      callValueMark found "call.value".length

end SolidityLint.Check
