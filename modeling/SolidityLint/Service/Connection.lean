import SolidityLint.Service.Debouncer
import SolidityLint.Service.Diagnostics

/-!
# Connections

A client sends document events and requests. A document that is opened or saved is looked at right
away; changes of a document are looked at when it has been quiet for a while. Requests are answered.
What cannot be handled ends the connection with an error message.
-/

namespace SolidityLint

/-! ## Documents -/

/-- A document as the client calls it, or one without a name, which gets a fresh one. -/
inductive DocumentId
  | named (uri : Value)
  | unnamed (index : Nat)

inductive DocumentKey
  | named (key : Value.Key)
  | unnamed (index : Nat)
  deriving DecidableEq, Repr

namespace DocumentId

/-- Lists and objects are no keys. -/
def key? : DocumentId → Option DocumentKey
  | .named uri => uri.key?.map .named
  | .unnamed index => some (.unnamed index)

def typeName : DocumentId → String
  | .named uri => uri.typeName
  | .unnamed _ => Value.typeName (.text "")

def toValue (fresh : Nat → String) : DocumentId → Value
  | .named uri => uri
  | .unnamed index => .text ("untitled:" ++ fresh index)

end DocumentId

structure Revision where
  document : DocumentId
  text : Value

/-! ## Messages -/

inductive Message
  | diagnostics (document : DocumentId) (findings : List Finding)
  | reply (response : Response)
  | fatal (fault : ServiceFault)

def Message.toValue (fresh : Nat → String) : Message → Value
  | .diagnostics document findings => diagnosticsValue (document.toValue fresh) findings
  | .reply response => response.toValue
  | .fatal fault => .object [("type", .text "error"), ("error", errorValue "FATAL" fault.message)]

inductive Happening
  | receive (message : Value)
  | pass (time : Nat)
  | failSends (count : Nat)
  | drop

inductive Status
  | running
  | closed
  | crashed (fault : ServiceFault)
  deriving DecidableEq, Repr

/-- The next `failures` messages that are sent get lost with a fault. A job that could not be
kept under a key is `loose`: nothing cancels it. -/
structure Connection (σ : Type → Type → Type) where
  host : Host
  settings : Settings
  debouncer : σ DocumentKey Revision
  loose : σ Unit Revision
  connected : Bool := true
  failures : Nat := 0
  unnamed : Nat := 0
  status : Status := .running

structure Step (σ : Type → Type → Type) where
  connection : Connection σ
  sent : List Message := []
  fault : Option ServiceFault := none

namespace Connection

variable {σ : Type → Type → Type} [JobKeeper σ]

/-- There is no connection with a delay that is not finite. -/
def start? (host : Host) (settings : Settings) : Option (Connection σ) := do
  let debouncer ← JobKeeper.ofDelay? settings.debounceMs
  let loose ← JobKeeper.ofDelay? settings.debounceMs
  return { host, settings, debouncer, loose }

/-! ## Sending -/

def send (connection : Connection σ) (message : Message) : Step σ :=
  match connection.failures with
  | 0 => { connection, sent := [message] }
  | failures + 1 =>
    { connection := { connection with failures }, fault := some .sendFailed }

/-- Sends to a client that is there. A message that gets lost is no fault. -/
def offer (connection : Connection σ) (message : Message) : Step σ :=
  if connection.connected then { connection.send message with fault := none }
  else { connection }

def publish (connection : Connection σ) (revision : Revision) : Step σ :=
  match diagnose connection.host connection.settings revision.text with
  | .error fault => { connection, fault := some fault }
  | .ok findings => connection.offer (.diagnostics revision.document findings)

/-- Faults of revisions that come late are not reported. -/
def publishAll (connection : Connection σ) : List Revision → Step σ
  | [] => { connection }
  | revision :: revisions =>
    let first := connection.publish revision
    let rest := publishAll first.connection revisions
    { connection := rest.connection, sent := first.sent ++ rest.sent }

/-- Nothing stays pending when a connection ends. -/
def close (connection : Connection σ) (status : Status) : Connection σ :=
  { connection with debouncer := JobKeeper.cancelAll connection.debouncer, status }

/-- The last message to a client that is there says what went wrong. -/
def abort (connection : Connection σ) (fault : ServiceFault) : Step σ :=
  if connection.connected then
    let last := connection.send (.fatal fault)
    match last.fault with
    | none => { connection := last.connection.close .closed, sent := last.sent }
    | some fault => { connection := last.connection.close (.crashed fault), sent := last.sent }
  else { connection := connection.close .closed }

/-! ## Receiving -/

inductive DocumentEvent
  | opened
  | changed
  | saved
  deriving DecidableEq, Repr

def DocumentEvent.ofName? : String → Option DocumentEvent
  | "open" => some .opened
  | "change" => some .changed
  | "save" => some .saved
  | _ => none

/-- The document of an event. A name that is empty or zero is none. -/
def identify (connection : Connection σ) (uri : Value) : Connection σ × DocumentId :=
  if uri.isFalsy then
    ({ connection with unnamed := connection.unnamed + 1 }, .unnamed connection.unnamed)
  else (connection, .named uri)

def cancel (connection : Connection σ) (key : DocumentKey) : Connection σ :=
  { connection with debouncer := JobKeeper.cancel connection.debouncer key }

def schedule (connection : Connection σ) (key : DocumentKey) (revision : Revision) :
    Connection σ :=
  { connection with debouncer := JobKeeper.schedule connection.debouncer key revision }

/-- A job under no key. -/
def scheduleLoose (connection : Connection σ) (revision : Revision) : Connection σ :=
  { connection with loose := JobKeeper.schedule connection.loose () revision }

/-- An event of a document. A document without a key cannot be told from those that are pending,
and changes of it cannot be kept; where nothing is pending, its text can still be looked at. -/
def handleDocument (connection : Connection σ) (event : DocumentEvent) (revision : Revision) :
    Step σ :=
  match revision.document.key?, event with
  | some key, .changed => { connection := connection.schedule key revision }
  | some key, _ => (connection.cancel key).publish revision
  | none, event =>
    let fault := ServiceFault.notKey revision.document.typeName
    if !JobKeeper.isIdle connection.debouncer then { connection, fault := some fault }
    else match event with
      | .changed => { connection := connection.scheduleLoose revision, fault := some fault }
      | _ => connection.publish revision

def handleRequest (connection : Connection σ) (message : Value) : Step σ :=
  connection.send (.reply (respond connection.host connection.settings message))

def handleFields (connection : Connection σ) (fields : Schema.Fields) : Step σ :=
  match (fields.lookup "type").getD .null with
  | .list _ => { connection, fault := some (.notKey (Value.typeName (.list []))) }
  | .object _ => { connection, fault := some (.notKey (Value.typeName (.object []))) }
  | .text name => match DocumentEvent.ofName? name with
    | some event =>
      let (connection, document) := connection.identify ((fields.lookup "uri").getD .null)
      connection.handleDocument event ⟨document, (fields.lookup "text").getD (.text "")⟩
    | none => connection.handleRequest (.object fields)
  | _ => connection.handleRequest (.object fields)

def handle (connection : Connection σ) : Value → Step σ
  | .object fields => connection.handleFields fields
  | other => { connection, fault := some (.notMessage other.typeName) }

def receive (connection : Connection σ) (message : Value) : Step σ :=
  let step := connection.handle message
  match step.fault with
  | none => step
  | some fault =>
    let last := step.connection.abort fault
    { last with sent := step.sent ++ last.sent }

def callback (connection : Connection σ) (revision : Revision) : Except ServiceFault Unit :=
  match (connection.publish revision).fault with
  | none => .ok ()
  | some fault => .error fault

def pass (connection : Connection σ) (time : Nat) : Step σ :=
  let (debouncer, revisions) :=
    JobKeeper.advance connection.callback connection.debouncer time
  let (loose, looseRevisions) := JobKeeper.advance connection.callback connection.loose time
  { connection with debouncer, loose }.publishAll (revisions ++ looseRevisions)

def step (connection : Connection σ) : Happening → Step σ
  | .receive message => connection.receive message
  | .pass time => connection.pass time
  | .failSends count => { connection := { connection with failures := count } }
  | .drop => { connection := { connection with connected := false } }

def run (connection : Connection σ) : List Happening → Connection σ × List (List Message)
  | [] => (connection.close .closed, [])
  | first :: rest =>
    let step := connection.step first
    if step.connection.status = .running then
      let (last, steps) := step.connection.run rest
      (last, step.sent :: steps)
    else (step.connection, [step.sent])

end Connection

end SolidityLint
