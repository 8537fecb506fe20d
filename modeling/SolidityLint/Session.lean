import SolidityLint.Check.Braces
import SolidityLint.Check.Returns
import SolidityLint.Check.Table

/-!
# Sessions

One document under analysis: its lines, the rules and naming patterns that are asked for, the
findings so far and the names met so far.
-/

namespace SolidityLint

structure Session where
  document : Document
  rules : Rules
  scope : Scope
  sink : Sink
  names : Names := {}

namespace Session

/-- A session starts unless a naming pattern has a fault that cannot be ignored. -/
def start (text : List Char) (rules : Rules) (cap : Int) (naming : Option Naming)
    (fits : List Char → Bool) : Except PatternFault Session := do
  let document := Document.ofText text
  let patterns ← naming.mapM (Naming.patterns fits)
  return {
    document, rules, sink := .ofCap cap
    scope := { movesValue := document.movesValue, naming := patterns } }

def push (session : Session) (report : Report) : Session :=
  { session with sink := session.sink.push report }

def pushAll (session : Session) (reports : List Report) : Session :=
  { session with sink := session.sink.pushAll reports }

def markMissing (session : Session) (name : List Char) : Session :=
  { session with names := session.names.markMissing name }

def record (session : Session) (index : Int) (outcome : Outcome) : Session :=
  { session with
    sink := session.sink.pushAll (outcome.marks.map (·.report index))
    names := outcome.names }

def check (session : Session) (check : LineCheck) (index : Int) : Except Fault Session := do
  let outcome ← check.run session.scope session.document.lines session.names index
  return session.record index outcome

def checkBraces (session : Session) : Session :=
  session.pushAll (Check.braceReports session.document.lines)

/-- Looks at nodes for missing returns, and counts the findings that this adds. What was found
before a fault stays. -/
def lookAt (session : Session) : List SyntaxNode → Session × Except TreeFault Nat
  | [] => (session, .ok 0)
  | node :: nodes => match Check.returnSighting? session.document.text node with
    | .error fault => (session, .error fault)
    | .ok none => session.lookAt nodes
    | .ok (some sighting) =>
      let (sink, reception) := session.sink.offer sighting
      let session := { session with sink }
      match reception with
      | .unfit => (session, .error .unfitPosition)
      | .passedOver => session.lookAt nodes
      | .kept =>
        let (session, added) := session.lookAt nodes
        (session, added.map (· + 1))

def collectReturns (session : Session) (root : SyntaxNode) : Session × Except TreeFault Nat :=
  session.lookAt root.traverse

def assist (session : Session) : TreeSource → Session × Bool
  | .unavailable | .broken => (session, false)
  | .tree root =>
    if session.rules.enabled .missingReturn then
      let (session, added) := session.collectReturns root
      (session, added.isOk)
    else (session, true)

/-- A rule on a line. Where a rule fails, the session stays as it is. -/
def apply (index : Int) (here : Context) (session : Session) (rule : Rule) : Session :=
  match rule.check session.scope session.names here with
  | .ok outcome => session.record index outcome
  | .error _ => session

def applyAll (index : Int) (here : Context) (rules : List Rule) (session : Session) : Session :=
  rules.foldl (apply index here) session

def applyLines (rules : List Rule) (row : Nat) : List Context → Session → Session
  | [], session => session
  | here :: rest, session =>
    if session.sink.isFull then session
    else applyLines rules (row + 1) rest (applyAll row here rules session)

end Session

end SolidityLint
