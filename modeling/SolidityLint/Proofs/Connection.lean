import Mathlib.Data.List.Basic
import SolidityLint.Proofs.Debouncing
import SolidityLint.Service.Connection

/-!
# Steps of a connection

What a step of a connection can do, said once for each function of it: which messages it can send,
which jobs are pending after it, and how the connection can end. A document event is read off a
message as a `Notice`; every other message is a request or ends the connection.
-/

namespace SolidityLint

-- ---------------------------------------------------------------------------
-- Document events
-- ---------------------------------------------------------------------------

/-- A document event as a client sends it. A text that is left out is empty. -/
structure Notice where
  event : Connection.DocumentEvent
  uri : Value
  text : Value

namespace Notice

def ofFields? (fields : Schema.Fields) : Option Notice :=
  match fields.lookup "type" with
  | some (.text name) => (Connection.DocumentEvent.ofName? name).map fun event =>
    ⟨event, (fields.lookup "uri").getD .null, (fields.lookup "text").getD (.text "")⟩
  | _ => none

def isOf (uri : String) (notice : Notice) : Bool :=
  match notice.uri with
  | .text name => name == uri
  | _ => false

theorem isOf_iff {uri : String} {notice : Notice} :
    notice.isOf uri ↔ notice.uri = .text uri := by
  unfold isOf
  split <;> simp_all

end Notice

def DocumentId.called (uri : String) : DocumentId := .named (.text uri)

theorem DocumentId.called_key? (uri : String) :
    (called uri).key? = some (.named (.text uri)) := rfl

def Happening.notice? : Happening → Option Notice
  | .receive (.object fields) => Notice.ofFields? fields
  | _ => none

/-- The event of the document called `uri` that is received here. -/
def Happening.noticeOf? (uri : String) (happening : Happening) : Option Notice :=
  happening.notice?.filter (·.isOf uri)

theorem Happening.noticeOf?_eq_some {uri : String} {happening : Happening} {notice : Notice} :
    happening.noticeOf? uri = some notice ↔
      happening.notice? = some notice ∧ notice.uri = .text uri := by
  simp [noticeOf?, Option.filter_eq_some_iff, Notice.isOf_iff]

theorem Happening.noticeOf?_eq_none {uri : String} {happening : Happening} {notice : Notice}
    (h : happening.notice? = some notice) :
    happening.noticeOf? uri = none ↔ notice.uri ≠ .text uri := by
  simp [noticeOf?, h, Option.filter_eq_none_iff, Notice.isOf_iff]

def Happening.ofEvent (name uri text : String) : Happening :=
  .receive (.object [("type", .text name), ("uri", .text uri), ("text", .text text)])

def Message.isAbout (uri : String) : Message → Bool
  | .diagnostics (.named (.text name)) _ => name == uri
  | _ => false

theorem Message.isAbout_iff {uri : String} {message : Message} :
    message.isAbout uri ↔ ∃ findings, message = .diagnostics (.named (.text uri)) findings := by
  unfold isAbout
  split <;> simp_all

namespace Connection

variable {σ : Type → Type → Type} {connection : Connection σ} {message : Message}
  {revision : Revision}

-- ---------------------------------------------------------------------------
-- Sending
-- ---------------------------------------------------------------------------

theorem send_connection (connection : Connection σ) (message : Message) :
    ∃ failures, (connection.send message).connection = { connection with failures } := by
  unfold send
  split
  · exact ⟨connection.failures, rfl⟩
  · exact ⟨_, rfl⟩

theorem send_of_no_failures (h : connection.failures = 0) (message : Message) :
    connection.send message = { connection, sent := [message] } := by
  simp only [send, h]

theorem mem_send {sent : Message} (h : sent ∈ (connection.send message).sent) :
    sent = message := by
  unfold send at h
  split at h
  · exact List.mem_singleton.mp h
  · cases h

theorem publish_connection (connection : Connection σ) (revision : Revision) :
    ∃ failures, (connection.publish revision).connection = { connection with failures } := by
  unfold publish offer
  split
  · exact ⟨connection.failures, rfl⟩
  · split
    · exact send_connection _ _
    · exact ⟨connection.failures, rfl⟩

theorem mem_publish (h : message ∈ (connection.publish revision).sent) :
    ∃ findings, diagnose connection.host connection.settings revision.text = .ok findings ∧
      message = .diagnostics revision.document findings := by
  unfold publish offer at h
  split at h
  · cases h
  · rename_i findings hf
    split at h
    · exact ⟨findings, hf, mem_send h⟩
    · cases h

theorem publishAll_connection (connection : Connection σ) (revisions : List Revision) :
    ∃ failures, (connection.publishAll revisions).connection = { connection with failures } := by
  induction revisions generalizing connection with
  | nil => exact ⟨connection.failures, rfl⟩
  | cons revision revisions ih =>
    obtain ⟨first, hfirst⟩ := connection.publish_connection revision
    obtain ⟨rest, hrest⟩ := ih (connection.publish revision).connection
    exact ⟨rest, by rw [publishAll, hrest, hfirst]⟩

theorem mem_publishAll {revisions : List Revision}
    (h : message ∈ (connection.publishAll revisions).sent) :
    ∃ revision ∈ revisions, ∃ findings,
      diagnose connection.host connection.settings revision.text = .ok findings ∧
        message = .diagnostics revision.document findings := by
  induction revisions generalizing connection with
  | nil => cases h
  | cons revision revisions ih =>
    rcases List.mem_append.mp h with h | h
    · obtain ⟨findings, hf, hm⟩ := mem_publish h
      exact ⟨revision, List.mem_cons_self, findings, hf, hm⟩
    · obtain ⟨later, hl, findings, hf, hm⟩ := ih h
      obtain ⟨failures, hc⟩ := connection.publish_connection revision
      rw [hc] at hf
      exact ⟨later, List.mem_cons_of_mem _ hl, findings, hf, hm⟩

variable [JobKeeper σ]

theorem abort_connection (connection : Connection σ) (fault : ServiceFault) :
    ∃ failures status, status ≠ Status.running ∧
      (connection.abort fault).connection = { connection with failures }.close status := by
  unfold abort
  split
  · obtain ⟨failures, hc⟩ := connection.send_connection (.fatal fault)
    dsimp only
    split
    · exact ⟨failures, .closed, by decide, by rw [hc]⟩
    · exact ⟨failures, .crashed _, nofun, by rw [hc]⟩
  · exact ⟨connection.failures, .closed, by decide, rfl⟩

theorem mem_abort {fault : ServiceFault} (h : message ∈ (connection.abort fault).sent) :
    message = .fatal fault := by
  unfold abort at h
  split at h
  · dsimp only at h
    split at h <;> exact mem_send h
  · cases h

-- ---------------------------------------------------------------------------
-- Receiving
-- ---------------------------------------------------------------------------

theorem handleFields_of_notice {fields : Schema.Fields} {notice : Notice}
    (h : Notice.ofFields? fields = some notice) :
    connection.handleFields fields =
      (connection.identify notice.uri).1.handleDocument notice.event
        ⟨(connection.identify notice.uri).2, notice.text⟩ := by
  unfold Notice.ofFields? at h
  split at h
  · rename_i name hn
    obtain ⟨event, he, rfl⟩ := Option.map_eq_some_iff.mp h
    simp [handleFields, hn, he]
  · cases h

def kindOf (fields : Schema.Fields) : Value := (fields.lookup "type").getD .null

theorem handleFields_of_key {fields : Schema.Fields} (h : Notice.ofFields? fields = none)
    (hk : (kindOf fields).key?.isSome) :
    connection.handleFields fields = connection.handleRequest (.object fields) := by
  unfold handleFields
  unfold kindOf at hk
  split
  · rename_i hl
    simp [hl, Value.key?] at hk
  · rename_i hl
    simp [hl, Value.key?] at hk
  · rename_i name hl
    have hn : fields.lookup "type" = some (.text name) := by
      cases ht : fields.lookup "type" with
      | none => simp [ht] at hl
      | some kind => simpa [ht] using hl
    simp only [Notice.ofFields?, hn, Option.map_eq_none_iff] at h
    simp [h]
  · rfl

theorem handleFields_of_no_key (connection : Connection σ) {fields : Schema.Fields}
    (hk : (kindOf fields).key? = none) :
    connection.handleFields fields =
      { connection, fault := some (.notKey (kindOf fields).typeName) } := by
  unfold handleFields
  unfold kindOf at hk ⊢
  split
  · rename_i hl
    rw [hl]
    rfl
  · rename_i hl
    rw [hl]
    rfl
  · rename_i hl
    simp [hl, Value.key?] at hk
  · rename_i hlist hobject htext
    cases hl : (fields.lookup "type").getD .null with
    | list items => exact absurd hl (hlist _)
    | object fields => exact absurd hl (hobject _)
    | _ => simp [hl, Value.key?] at hk

theorem handleDocument_of_key {event : DocumentEvent} {key : DocumentKey}
    (h : revision.document.key? = some key) :
    connection.handleDocument event revision =
      if event = .changed then { connection := connection.schedule key revision }
      else (connection.cancel key).publish revision := by
  unfold handleDocument
  rw [h]
  cases event <;> rfl

omit [JobKeeper σ] in
theorem identify_connection (connection : Connection σ) (uri : Value) :
    ∃ unnamed, (connection.identify uri).1 = { connection with unnamed } := by
  unfold identify
  split
  · exact ⟨_, rfl⟩
  · exact ⟨connection.unnamed, rfl⟩

omit [JobKeeper σ] in
theorem identify_of_text (connection : Connection σ) {uri : String} (h : uri ≠ "") :
    connection.identify (.text uri) = (connection, .called uri) := by
  have hf : (Value.text uri).isFalsy = false := by simpa [Value.isFalsy] using h
  simp [identify, hf, DocumentId.called]

theorem handle_of_notice (connection : Connection σ) {received text : Value}
    {event : DocumentEvent} {uri : String}
    (h : (Happening.receive received).notice? = some ⟨event, .text uri, text⟩) (hu : uri ≠ "") :
    connection.handle received =
      if event = .changed then
        { connection := connection.schedule (.named (.text uri)) ⟨.called uri, text⟩ }
      else (connection.cancel (.named (.text uri))).publish ⟨.called uri, text⟩ := by
  cases received with
  | object fields =>
    rw [handle, handleFields_of_notice h, identify_of_text _ hu]
    exact handleDocument_of_key (DocumentId.called_key? uri)
  | _ => cases h

/-- What an event of a document comes to: the document is kept for later, looked at right away, or a
fault, and one whose change has no key is kept in spite of the fault. -/
theorem handleDocument_cases (connection : Connection σ) (event : DocumentEvent)
    (revision : Revision) :
    (∃ debouncer, connection.handleDocument event revision =
      { connection := { connection with debouncer } }) ∨
    (∃ debouncer, connection.handleDocument event revision =
      { connection with debouncer }.publish revision) ∨
    (∃ fault, connection.handleDocument event revision =
      { connection, fault := some fault }) ∨
    event = .changed ∧ revision.document.key? = none ∧
      ∃ fault, connection.handleDocument event revision =
        { connection := connection.scheduleLoose revision, fault := some fault } := by
  cases hk : revision.document.key? with
  | some key =>
    rw [handleDocument_of_key hk]
    split
    · exact .inl ⟨_, rfl⟩
    · exact .inr (.inl ⟨_, rfl⟩)
  | none =>
    unfold handleDocument
    rw [hk]
    dsimp only
    split
    · exact .inr (.inr (.inl ⟨_, rfl⟩))
    · split
      · exact .inr (.inr (.inr ⟨rfl, rfl, _, rfl⟩))
      · exact .inr (.inl ⟨connection.debouncer, rfl⟩)

/-- A message is an event of a document, a request, or a fault. -/
theorem handle_cases (connection : Connection σ) (received : Value) :
    (∃ notice, (Happening.receive received).notice? = some notice ∧
      connection.handle received =
        (connection.identify notice.uri).1.handleDocument notice.event
          ⟨(connection.identify notice.uri).2, notice.text⟩) ∨
    connection.handle received = connection.handleRequest received ∨
    ∃ fault, connection.handle received = { connection, fault := some fault } := by
  cases received with
  | object fields =>
    cases hn : Notice.ofFields? fields with
    | some notice => exact .inl ⟨notice, hn, handleFields_of_notice hn⟩
    | none =>
      cases hk : (kindOf fields).key? with
      | some key => exact .inr (.inl (handleFields_of_key hn (by simp [hk])))
      | none => exact .inr (.inr ⟨_, connection.handleFields_of_no_key hk⟩)
  | _ => exact .inr (.inr ⟨_, rfl⟩)

theorem handleDocument_connection (connection : Connection σ) (event : DocumentEvent)
    (revision : Revision) :
    ∃ debouncer loose failures, (connection.handleDocument event revision).connection =
      { connection with debouncer, loose, failures } := by
  obtain ⟨debouncer, h⟩ | ⟨debouncer, h⟩ | ⟨fault, h⟩ | ⟨-, -, fault, h⟩ :=
    connection.handleDocument_cases event revision
  · exact ⟨debouncer, _, _, by rw [h]⟩
  · obtain ⟨failures, hc⟩ := { connection with debouncer }.publish_connection revision
    exact ⟨debouncer, _, failures, by rw [h, hc]⟩
  · exact ⟨_, _, _, by rw [h]⟩
  · exact ⟨_, _, _, by rw [h]; rfl⟩

theorem handle_connection (connection : Connection σ) (message : Value) :
    ∃ debouncer loose failures unnamed, (connection.handle message).connection =
      { connection with debouncer, loose, failures, unnamed } := by
  obtain ⟨notice, -, h⟩ | h | ⟨fault, h⟩ := connection.handle_cases message
  · obtain ⟨unnamed, hi⟩ := connection.identify_connection notice.uri
    obtain ⟨debouncer, loose, failures, hc⟩ :=
      (connection.identify notice.uri).1.handleDocument_connection notice.event
        ⟨(connection.identify notice.uri).2, notice.text⟩
    exact ⟨debouncer, loose, failures, unnamed, by rw [h, hc, hi]⟩
  · obtain ⟨failures, hc⟩ :=
      connection.send_connection (.reply (respond connection.host connection.settings message))
    exact ⟨_, _, failures, _, by rw [h, handleRequest, hc]⟩
  · exact ⟨_, _, _, _, by rw [h]⟩

theorem receive_cases (connection : Connection σ) (message : Value) :
    (connection.handle message).fault = none ∧
        connection.receive message = connection.handle message ∨
      ∃ fault, (connection.handle message).fault = some fault ∧
        (connection.receive message).connection =
          ((connection.handle message).connection.abort fault).connection ∧
        (connection.receive message).sent = (connection.handle message).sent ++
          ((connection.handle message).connection.abort fault).sent := by
  unfold receive
  dsimp only
  split
  · rename_i hf
    exact .inl ⟨hf, rfl⟩
  · rename_i fault hf
    exact .inr ⟨fault, hf, rfl, rfl⟩

theorem receive_of_no_fault {received : Value} (h : (connection.handle received).fault = none) :
    connection.receive received = connection.handle received := by
  rcases connection.receive_cases received with ⟨-, hr⟩ | ⟨fault, hf, -⟩
  · exact hr
  · cases h.symm.trans hf

theorem receive_of_request {fields : Schema.Fields} (hf : connection.failures = 0)
    (hn : Notice.ofFields? fields = none) (hk : (kindOf fields).key?.isSome) :
    connection.receive (.object fields) =
      { connection
        sent := [.reply (respond connection.host connection.settings (.object fields))] } := by
  have hhandle : connection.handle (.object fields) =
      { connection
        sent := [.reply (respond connection.host connection.settings (.object fields))] } := by
    rw [handle, handleFields_of_key hn hk, handleRequest, send_of_no_failures hf]
  rw [receive_of_no_fault (by rw [hhandle]), hhandle]

-- ---------------------------------------------------------------------------
-- Runs
-- ---------------------------------------------------------------------------

theorem run_cons_of_running {first : Happening} (rest : List Happening)
    (h : (connection.step first).connection.status = .running) :
    connection.run (first :: rest) =
      (((connection.step first).connection.run rest).1,
        (connection.step first).sent :: ((connection.step first).connection.run rest).2) := by
  simp [run, h]

theorem run_cons_of_ended {first : Happening} (rest : List Happening)
    (h : (connection.step first).connection.status ≠ .running) :
    connection.run (first :: rest) =
      ((connection.step first).connection, [(connection.step first).sent]) := by
  simp [run, h]

theorem run_ne_nil (connection : Connection σ) {script : List Happening} (h : script ≠ []) :
    (connection.run script).2 ≠ [] := by
  cases script with
  | nil => exact absurd rfl h
  | cons first rest =>
    by_cases hr : (connection.step first).connection.status = .running
    · simp [run_cons_of_running rest hr]
    · simp [run_cons_of_ended rest hr]

/-- Where a run comes to a step, a connection has come there that keeps what the steps keep, and
whatever happens from there on is up to this connection. -/
theorem run_reaches {Keeps : Connection σ → Prop} {script : List Happening}
    (hkeeps : ∀ happening ∈ script, ∀ connection : Connection σ, Keeps connection →
      (connection.step happening).connection.status = .running →
        Keeps (connection.step happening).connection)
    (h : Keeps connection) {step : Nat} (hstep : step < (connection.run script).2.length) :
    ∃ here sent, Keeps here ∧ sent.length = step ∧
      ∀ rest, connection.run (script.take step ++ rest) =
        ((here.run rest).1, sent ++ (here.run rest).2) := by
  induction step generalizing connection script with
  | zero => exact ⟨connection, [], h, rfl, fun _ => rfl⟩
  | succ step ih =>
    cases script with
    | nil => simp [run] at hstep
    | cons first later =>
      by_cases hr : (connection.step first).connection.status = .running
      · rw [run_cons_of_running later hr, List.length_cons] at hstep
        obtain ⟨here, sent, hhere, hlength, hrest⟩ :=
          ih (fun happening hm => hkeeps happening (List.mem_cons_of_mem _ hm))
            (hkeeps first List.mem_cons_self connection h hr) (Nat.lt_of_succ_lt_succ hstep)
        refine ⟨here, (connection.step first).sent :: sent, hhere, by simp [hlength], ?_⟩
        intro rest
        rw [List.take_succ_cons, List.cons_append, run_cons_of_running _ hr, hrest]
        rfl
      · rw [run_cons_of_ended later hr] at hstep
        simp at hstep

/-- What each step keeps and each step's messages have is so for a whole run: for what was received
up to a step, and for the connection when the run ends. -/
theorem run_invariant (Keeps : List Happening → Connection σ → Prop)
    (Sends : List Happening → List Message → Prop)
    (hstep : ∀ received connection happening, connection.status = .running →
      Keeps received connection →
        Keeps (received ++ [happening]) (connection.step happening).connection ∧
          Sends (received ++ [happening]) (connection.step happening).sent)
    (received : List Happening) (hrun : connection.status = .running)
    (h : Keeps received connection) (script : List Happening) :
    (∀ step messages, (connection.run script).2[step]? = some messages →
      Sends (received ++ script.take (step + 1)) messages) ∧
    ∃ all last, Keeps all last ∧
      ((connection.run script).1 = last ∧ last.status ≠ .running ∨
        (connection.run script).1 = last.close .closed) := by
  induction script generalizing connection received with
  | nil => exact ⟨by simp [run], received, connection, h, .inr rfl⟩
  | cons first rest ih =>
    obtain ⟨hkeeps, hsends⟩ := hstep received connection first hrun h
    rw [run]
    dsimp only
    split
    · rename_i hstatus
      obtain ⟨hsteps, hlast⟩ := ih (received ++ [first]) hstatus hkeeps
      refine ⟨fun step messages hm => ?_, hlast⟩
      cases step with
      | zero =>
        obtain rfl : (connection.step first).sent = messages := by simpa using hm
        simpa using hsends
      | succ step => simpa using hsteps step messages (by simpa using hm)
    · rename_i hstatus
      refine ⟨fun step messages hm => ?_, _, _, hkeeps, .inl ⟨rfl, hstatus⟩⟩
      cases step with
      | zero =>
        obtain rfl : (connection.step first).sent = messages := by simpa using hm
        simpa using hsends
      | succ step => simp at hm

-- ---------------------------------------------------------------------------
-- Jobs with a debouncer
-- ---------------------------------------------------------------------------

section
variable {connection : Connection Debouncer}

theorem debouncer_cancel (connection : Connection Debouncer) (key : DocumentKey) :
    (connection.cancel key).debouncer = connection.debouncer.cancel key := rfl

theorem debouncer_schedule (connection : Connection Debouncer) (key : DocumentKey)
    (revision : Revision) :
    (connection.schedule key revision).debouncer = connection.debouncer.schedule key revision := rfl

theorem pass_eq (connection : Connection Debouncer) (time : Nat) :
    connection.pass time =
      { connection with
        debouncer := (connection.debouncer.advance time).1
        loose := (connection.loose.advance time).1 }.publishAll
          ((connection.debouncer.advance time).2 ++ (connection.loose.advance time).2) := rfl

theorem pass_connection (connection : Connection Debouncer) (time : Nat) :
    ∃ failures, (connection.pass time).connection =
      { connection with
        debouncer := (connection.debouncer.advance time).1
        loose := (connection.loose.advance time).1
        failures } :=
  publishAll_connection _ _

theorem mem_pass {time : Nat} (h : message ∈ (connection.pass time).sent) :
    ∃ revision findings,
      ((∃ job ∈ connection.debouncer.pending, job.task = revision) ∨
        ∃ job ∈ connection.loose.pending, job.task = revision) ∧
      diagnose connection.host connection.settings revision.text = .ok findings ∧
        message = .diagnostics revision.document findings := by
  obtain ⟨revision, hr, findings, hf, hm⟩ := mem_publishAll h
  refine ⟨revision, findings, ?_, hf, hm⟩
  rcases List.mem_append.mp hr with hr | hr
  · exact .inl (Debouncer.mem_tasks_advance hr)
  · exact .inr (Debouncer.mem_tasks_advance hr)

theorem start?_eq_some {host : Host} {settings : Settings}
    (h : start? host settings = some connection) :
    connection = { host, settings
                   debouncer := { delay := settings.debounceMs.toNat }
                   loose := { delay := settings.debounceMs.toNat } } := by
  simp only [start?, JobKeeper.ofDelay?, Debouncer.ofDelay?] at h
  split at h
  · exact (Option.some.inj h).symm
  · cases h

theorem step_running_or_idle (connection : Connection Debouncer) (happening : Happening) :
    (connection.step happening).connection.status = connection.status ∨
      (connection.step happening).connection.debouncer.pending = [] := by
  cases happening with
  | receive message =>
    obtain ⟨_, _, _, _, hc⟩ := connection.handle_connection message
    rcases connection.receive_cases message with ⟨-, hr⟩ | ⟨fault, -, hr, -⟩
    · exact .inl (by rw [step, hr, hc])
    · obtain ⟨_, _, -, ha⟩ := (connection.handle message).connection.abort_connection fault
      exact .inr (by rw [step, hr, ha]; rfl)
  | pass time =>
    obtain ⟨_, hc⟩ := connection.pass_connection time
    exact .inl (by rw [step, hc])
  | failSends count => exact .inl rfl
  | drop => exact .inl rfl

theorem run_idle (hrun : connection.status = .running) (script : List Happening) :
    (connection.run script).1.debouncer.pending = [] := by
  obtain ⟨-, -, last, hlast, h⟩ := run_invariant
    (fun _ connection => connection.status = .running ∨ connection.debouncer.pending = [])
    (fun _ _ => True)
    (fun _ connection happening hr _ => ⟨hr ▸ connection.step_running_or_idle happening, trivial⟩)
    [] hrun (.inl hrun) script
  rcases h with ⟨he, hs⟩ | he
  · rw [he]
    exact hlast.resolve_left hs
  · rw [he]
    rfl

end

end Connection

end SolidityLint
