import SolidityLint.Proofs.Cap
import SolidityLint.Proofs.Schedule

/-!
# Connections publish on schedule

For a script of document events, requests and time that passes, a connection sends the diagnostics
that are due in each step and no others (`run_publishes_on_schedule`): it follows an agenda, with a
pending job for each change that waits.
-/

namespace SolidityLint

open Connection

-- ---------------------------------------------------------------------------
-- Findings on a text
-- ---------------------------------------------------------------------------

def Message.isDiagnostics : Message → Bool
  | .diagnostics _ _ => true
  | _ => false

namespace Publication

def revision (publication : Publication) : Revision :=
  ⟨.called publication.uri, .text publication.text⟩

def job (publication : Publication) : Job DocumentKey Revision :=
  ⟨.named (.text publication.uri), publication.time, publication.revision⟩

def message (findings : String → List Finding) (publication : Publication) : Message :=
  .diagnostics (.called publication.uri) (findings publication.text)

end Publication

theorem filter_isDiagnostics (findings : String → List Finding) (due : List Publication) :
    (due.map (Publication.message findings)).filter Message.isDiagnostics =
      due.map (Publication.message findings) := by
  simp [List.filter_map, Function.comp_def, Publication.message, Message.isDiagnostics]

/-- A connection to a client that is there and gets every message, with a pending job for each
change that waits. -/
structure Follows (host : Host) (settings : Settings) (agenda : Agenda)
    (connection : Connection Debouncer) : Prop where
  host_eq : connection.host = host
  settings_eq : connection.settings = settings
  connected : connection.connected = true
  failures_eq : connection.failures = 0
  running : connection.status = .running
  delay_eq : connection.debouncer.delay = settings.debounceMs.toNat
  now_eq : connection.debouncer.now = agenda.clock
  pending_eq : connection.debouncer.pending = agenda.waiting.map Publication.job
  loose_eq : connection.loose.pending = []

section Steps

variable {host : Host} {settings : Settings} {findings : String → List Finding} {agenda : Agenda}
  {connection : Connection Debouncer}

theorem Follows.cancel (h : Follows host settings agenda connection) (uri : String) (step : Nat) :
    Follows host settings
      { agenda with step, waiting := agenda.waiting.filter (·.uri ≠ uri) }
      (connection.cancel (.named (.text uri))) := by
  refine ⟨h.host_eq, h.settings_eq, h.connected, h.failures_eq, h.running, h.delay_eq, h.now_eq, ?_,
    h.loose_eq⟩
  rw [debouncer_cancel, Debouncer.pending_cancel, h.pending_eq, List.filter_map]
  congr 1
  refine List.filter_congr fun publication _ => ?_
  by_cases hp : publication.uri = uri <;> simp [Publication.job, hp]

theorem Follows.request {fields : Schema.Fields} (h : Follows host settings agenda connection)
    (hn : (Happening.receive (.object fields)).notice? = none)
    (hk : (kindOf fields).key?.isSome) :
    Follows host settings { agenda with step := agenda.step + 1 }
        (connection.step (.receive (.object fields))).connection ∧
      (connection.step (.receive (.object fields))).sent =
        [.reply (respond host settings (.object fields))] := by
  rw [Connection.step, receive_of_request h.failures_eq hn hk, h.host_eq, h.settings_eq]
  exact ⟨⟨h.host_eq, h.settings_eq, h.connected, h.failures_eq, h.running, h.delay_eq, h.now_eq,
    h.pending_eq, h.loose_eq⟩, rfl⟩

variable (hfindings : ∀ text, diagnose host settings (.text text) = .ok (findings text))

include hfindings

theorem Follows.publish (h : Follows host settings agenda connection) (publication : Publication) :
    connection.publish publication.revision =
      { connection, sent := [publication.message findings] } := by
  simp only [Connection.publish, Publication.revision, h.host_eq, h.settings_eq, hfindings, offer,
    h.connected, send_of_no_failures h.failures_eq]
  rfl

theorem Follows.publishAll (h : Follows host settings agenda connection)
    (publications : List Publication) :
    connection.publishAll (publications.map Publication.revision) =
      { connection, sent := publications.map (Publication.message findings) } := by
  induction publications with
  | nil => rfl
  | cons first rest ih =>
    simp only [List.map_cons, Connection.publishAll, h.publish hfindings, ih, List.singleton_append]

theorem Follows.event {message : Value} {event : DocumentEvent} {uri text : String}
    (h : Follows host settings agenda connection)
    (hn : (Happening.receive message).notice? = some ⟨event, .text uri, .text text⟩)
    (hu : uri ≠ "") :
    Follows host settings (agenda.next settings.debounceMs.toNat (.receive message)).1
        (connection.step (.receive message)).connection ∧
      (connection.step (.receive message)).sent =
        (agenda.next settings.debounceMs.toNat (.receive message)).2.map
          (Publication.message findings) := by
  -- Whatever the event, the job that is pending for its document is dropped first.
  have hcancel := h.cancel uri (agenda.step + 1)
  have hhandle := connection.handle_of_notice hn hu
  rw [Agenda.next_of_notice hn, Connection.step]
  split
  · rename_i hchanged
    rw [if_pos hchanged] at hhandle
    rw [receive_of_no_fault (by rw [hhandle]), hhandle]
    refine ⟨⟨h.host_eq, h.settings_eq, h.connected, h.failures_eq, h.running, h.delay_eq,
      h.now_eq, ?_, h.loose_eq⟩, rfl⟩
    rw [List.map_append, ← hcancel.pending_eq, debouncer_schedule, Debouncer.pending_schedule,
      h.now_eq, h.delay_eq]
    rfl
  · rename_i hevent
    have hpublish := hcancel.publish hfindings ⟨agenda.step, agenda.clock, uri, text⟩
    rw [if_neg hevent] at hhandle
    replace hhandle := hhandle.trans hpublish
    rw [receive_of_no_fault (by rw [hhandle]), hhandle]
    exact ⟨hcancel, rfl⟩

theorem Follows.pass (h : Follows host settings agenda connection) (time : Nat) :
    Follows host settings (agenda.next settings.debounceMs.toNat (.pass time)).1
        (connection.pass time).connection ∧
      (connection.pass time).sent =
        (agenda.next settings.debounceMs.toNat (.pass time)).2.map
          (Publication.message findings) := by
  have hpassed : Follows host settings (agenda.next settings.debounceMs.toNat (.pass time)).1
      { connection with
        debouncer := (connection.debouncer.advance time).1
        loose := (connection.loose.advance time).1 } := by
    refine ⟨h.host_eq, h.settings_eq, h.connected, h.failures_eq, h.running, ?_, ?_, ?_, ?_⟩
    · rw [Debouncer.delay_advance, h.delay_eq]
    · rw [Debouncer.now_advance, h.now_eq]
      rfl
    · rw [Debouncer.pending_advance, h.pending_eq, h.now_eq, List.filter_map, Agenda.next]
      congr 1
      refine List.filter_congr fun publication _ => ?_
      by_cases hp : publication.time ≤ agenda.clock + time
      · simp [Publication.job, hp, Nat.not_lt_of_le hp]
      · simp [Publication.job, hp, Nat.lt_of_not_le hp]
    · rw [Debouncer.pending_advance, h.loose_eq]
      rfl
  have htasks : (connection.debouncer.advance time).2 ++ (connection.loose.advance time).2 =
      (agenda.next settings.debounceMs.toNat (.pass time)).2.map Publication.revision := by
    rw [Debouncer.tasks_advance, Debouncer.tasks_advance, h.loose_eq, h.pending_eq, h.now_eq,
      List.filter_map, List.map_map]
    exact List.append_nil _
  have hall := hpassed.publishAll hfindings (agenda.next settings.debounceMs.toNat (.pass time)).2
  rw [pass_eq, htasks, hall]
  exact ⟨hpassed, rfl⟩

theorem Follows.step {happening : Happening} (h : Follows host settings agenda connection)
    (ho : happening.Orderly) :
    Follows host settings (agenda.next settings.debounceMs.toNat happening).1
        (connection.step happening).connection ∧
      (connection.step happening).sent.filter Message.isDiagnostics =
        (agenda.next settings.debounceMs.toNat happening).2.map (Publication.message findings) := by
  cases ho with
  | event hn hu =>
    obtain ⟨hfollows, hsent⟩ := h.event hfindings hn hu
    exact ⟨hfollows, hsent ▸ filter_isDiagnostics _ _⟩
  | request hn hk =>
    obtain ⟨hfollows, hsent⟩ := h.request hn hk
    rw [Agenda.next_of_request hn, hsent]
    exact ⟨hfollows, rfl⟩
  | pass time =>
    obtain ⟨hfollows, hsent⟩ := h.pass hfindings time
    exact ⟨hfollows, (congrArg _ hsent).trans (filter_isDiagnostics _ _)⟩

/-- A run sends what the agenda says, and leaves no job behind. -/
theorem Follows.run (h : Follows host settings agenda connection) {script : List Happening}
    (ho : ∀ happening ∈ script, happening.Orderly) :
    (connection.run script).2.map (·.filter Message.isDiagnostics) =
        (agenda.run settings.debounceMs.toNat script).map
          (·.map (Publication.message findings)) ∧
      (connection.run script).1.loose.pending = [] := by
  induction script generalizing agenda connection with
  | nil => exact ⟨rfl, h.loose_eq⟩
  | cons first rest ih =>
    obtain ⟨hfollows, hsent⟩ := h.step hfindings (ho first List.mem_cons_self)
    obtain ⟨hrest, hloose⟩ := ih hfollows fun other hm => ho other (List.mem_cons_of_mem _ hm)
    simp only [Connection.run, hfollows.running, if_true, List.map_cons, hsent, hrest, Agenda.run,
      hloose, and_self]

end Steps

theorem follows_start {host : Host} {settings : Settings} {connection : Connection Debouncer}
    (h : start? host settings = some connection) : Follows host settings {} connection := by
  rw [start?_eq_some h]
  exact ⟨rfl, rfl, rfl, rfl, rfl, rfl, rfl, rfl, rfl⟩

end SolidityLint
