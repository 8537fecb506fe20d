import SolidityLint.Proofs.Connection
import SolidityLint.Proofs.EventLoop

/-!
# Connections on an event loop

A connection that keeps its jobs as tasks of an event loop does what a connection with a debouncer
does: with the tasks that are not stopped as its jobs, the one connection is the other
(`Connection.Mirrors`). Each step keeps it so and sends the same messages (`Mirrors.step`), and so
does a whole run (`run_on_tasks`).
-/

namespace SolidityLint

-- ---------------------------------------------------------------------------
-- Jobs
-- ---------------------------------------------------------------------------

/-- With its tasks as jobs the loop is the debouncer. -/
structure EventLoop.Mirrors {κ α : Type} (loop : EventLoop κ α) (debouncer : Debouncer κ α) :
    Prop where
  wellFormed : loop.WellFormed
  toDebouncer_eq : loop.toDebouncer = debouncer

namespace EventLoop.Mirrors

variable {κ α : Type} {loop : EventLoop κ α} {debouncer : Debouncer κ α}

theorem isIdle (h : loop.Mirrors debouncer) :
    JobKeeper.isIdle loop = JobKeeper.isIdle debouncer := by
  obtain ⟨hwell, rfl⟩ := h
  change loop.table.isEmpty = loop.toDebouncer.pending.isEmpty
  rw [hwell.table_eq, List.isEmpty_map]
  exact List.isEmpty_map.symm

variable [DecidableEq κ]

theorem cancel (h : loop.Mirrors debouncer) (key : κ) :
    (JobKeeper.cancel loop key).Mirrors (JobKeeper.cancel debouncer key) := by
  obtain ⟨hwell, rfl⟩ := h
  exact ⟨hwell.cancel key, hwell.toDebouncer_cancel key⟩

theorem cancelAll (h : loop.Mirrors debouncer) :
    (JobKeeper.cancelAll loop).Mirrors (JobKeeper.cancelAll debouncer) := by
  obtain ⟨hwell, rfl⟩ := h
  exact ⟨hwell.cancelAll.1, hwell.cancelAll.2⟩

theorem schedule (h : loop.Mirrors debouncer) (key : κ) (task : α) :
    (JobKeeper.schedule loop key task).Mirrors (JobKeeper.schedule debouncer key task) := by
  obtain ⟨hwell, rfl⟩ := h
  exact ⟨hwell.schedule key task, hwell.toDebouncer_schedule key task⟩

/-- Jobs may run differently, since no task waits for another one. -/
theorem advance {ε : Type} (h : loop.Mirrors debouncer) (run other : α → Except ε Unit)
    (time : Nat) :
    (JobKeeper.advance run loop time).1.Mirrors (JobKeeper.advance other debouncer time).1 ∧
      (JobKeeper.advance run loop time).2 = (JobKeeper.advance other debouncer time).2 := by
  obtain ⟨hwell, rfl⟩ := h
  exact ⟨⟨hwell.advance run time, hwell.toDebouncer_advance run time⟩, hwell.advance_snd run time⟩

end EventLoop.Mirrors

theorem EventLoop.mirrors_start {κ α : Type} {delay : Int} {loop : EventLoop κ α}
    (h : JobKeeper.ofDelay? delay = some loop) :
    ∃ debouncer : Debouncer κ α, JobKeeper.ofDelay? delay = some debouncer ∧
      loop.Mirrors debouncer := by
  obtain ⟨debouncer, hd, rfl⟩ := Option.map_eq_some_iff.mp h
  refine ⟨debouncer, hd, wellFormed_start _, ?_⟩
  simp only [Debouncer.ofDelay?] at hd
  split at hd
  · cases hd
    rfl
  · cases hd

-- ---------------------------------------------------------------------------
-- Connections
-- ---------------------------------------------------------------------------

structure Connection.Mirrors (connection : Connection EventLoop) (other : Connection Debouncer) :
    Prop where
  host : connection.host = other.host
  settings : connection.settings = other.settings
  connected : connection.connected = other.connected
  failures : connection.failures = other.failures
  unnamed : connection.unnamed = other.unnamed
  status : connection.status = other.status
  debouncer : connection.debouncer.Mirrors other.debouncer
  loose : connection.loose.Mirrors other.loose

structure Step.Mirrors (step : Step EventLoop) (other : Step Debouncer) : Prop where
  connection : step.connection.Mirrors other.connection
  sent : step.sent = other.sent
  fault : step.fault = other.fault

namespace Connection

namespace Mirrors

variable {connection : Connection EventLoop} {other : Connection Debouncer}

theorem send (h : connection.Mirrors other) (message : Message) :
    (connection.send message).Mirrors (other.send message) := by
  unfold Connection.send
  rw [h.failures]
  split
  · exact ⟨h, rfl, rfl⟩
  · exact ⟨{ h with failures := rfl }, rfl, rfl⟩

theorem offer (h : connection.Mirrors other) (message : Message) :
    (connection.offer message).Mirrors (other.offer message) := by
  obtain ⟨hsend, hsent, -⟩ := h.send message
  unfold Connection.offer
  rw [h.connected]
  split
  · exact ⟨hsend, hsent, rfl⟩
  · exact ⟨h, rfl, rfl⟩

theorem publish (h : connection.Mirrors other) (revision : Revision) :
    (connection.publish revision).Mirrors (other.publish revision) := by
  unfold Connection.publish
  rw [h.host, h.settings]
  split
  · exact ⟨h, rfl, rfl⟩
  · exact h.offer _

theorem publishAll (h : connection.Mirrors other) (revisions : List Revision) :
    (connection.publishAll revisions).Mirrors (other.publishAll revisions) := by
  induction revisions generalizing connection other with
  | nil => exact ⟨h, rfl, rfl⟩
  | cons revision revisions ih =>
    obtain ⟨hfirst, hsent, -⟩ := h.publish revision
    obtain ⟨hrest, hlater, -⟩ := ih hfirst
    refine ⟨hrest, ?_, rfl⟩
    rw [Connection.publishAll, Connection.publishAll, hsent, hlater]

theorem close (h : connection.Mirrors other) (status : Status) :
    (connection.close status).Mirrors (other.close status) :=
  { h with status := rfl, debouncer := h.debouncer.cancelAll }

theorem abort (h : connection.Mirrors other) (fault : ServiceFault) :
    (connection.abort fault).Mirrors (other.abort fault) := by
  obtain ⟨hsend, hsent, hfault⟩ := h.send (.fatal fault)
  unfold Connection.abort
  dsimp only
  rw [h.connected, hfault]
  split
  · split
    · exact ⟨hsend.close .closed, hsent, rfl⟩
    · exact ⟨hsend.close _, hsent, rfl⟩
  · exact ⟨h.close .closed, rfl, rfl⟩

theorem handleDocument (h : connection.Mirrors other) (event : DocumentEvent)
    (revision : Revision) :
    (connection.handleDocument event revision).Mirrors (other.handleDocument event revision) := by
  cases hk : revision.document.key? with
  | some key =>
    rw [handleDocument_of_key hk, handleDocument_of_key hk]
    split
    · exact ⟨{ h with debouncer := h.debouncer.schedule key revision }, rfl, rfl⟩
    · have hcancelled : (connection.cancel key).Mirrors (other.cancel key) :=
        { h with debouncer := h.debouncer.cancel key }
      exact hcancelled.publish revision
  | none =>
    simp only [Connection.handleDocument, hk, h.debouncer.isIdle]
    split
    · exact ⟨h, rfl, rfl⟩
    · cases event with
      | changed => exact ⟨{ h with loose := h.loose.schedule () revision }, rfl, rfl⟩
      | opened | saved => exact h.publish revision

theorem identify (h : connection.Mirrors other) (uri : Value) :
    (connection.identify uri).1.Mirrors (other.identify uri).1 ∧
      (connection.identify uri).2 = (other.identify uri).2 := by
  unfold Connection.identify
  rw [h.unnamed]
  split
  · exact ⟨{ h with unnamed := rfl }, rfl⟩
  · exact ⟨h, rfl⟩

theorem handleRequest (h : connection.Mirrors other) (message : Value) :
    (connection.handleRequest message).Mirrors (other.handleRequest message) := by
  unfold Connection.handleRequest
  rw [h.host, h.settings]
  exact h.send _

theorem handle (h : connection.Mirrors other) (message : Value) :
    (connection.handle message).Mirrors (other.handle message) := by
  cases message with
  | object fields =>
    cases hn : Notice.ofFields? fields with
    | some notice =>
      obtain ⟨hidentified, hdocument⟩ := h.identify notice.uri
      rw [Connection.handle, Connection.handle, handleFields_of_notice hn,
        handleFields_of_notice hn, hdocument]
      exact hidentified.handleDocument _ _
    | none =>
      cases hk : (kindOf fields).key? with
      | some key =>
        have hsome : (kindOf fields).key?.isSome := by rw [hk]; rfl
        rw [Connection.handle, Connection.handle, handleFields_of_key hn hsome,
          handleFields_of_key hn hsome]
        exact h.handleRequest _
      | none =>
        rw [Connection.handle, Connection.handle, handleFields_of_no_key connection hk,
          handleFields_of_no_key other hk]
        exact ⟨h, rfl, rfl⟩
  | _ => exact ⟨h, rfl, rfl⟩

theorem receive (h : connection.Mirrors other) (message : Value) :
    (connection.receive message).Mirrors (other.receive message) := by
  obtain ⟨hhandle, hsent, hfault⟩ := h.handle message
  unfold Connection.receive
  dsimp only
  rw [hfault]
  split
  · exact ⟨hhandle, hsent, hfault⟩
  · obtain ⟨habort, hlast, hended⟩ := hhandle.abort ‹_›
    exact ⟨habort, by simp only [hsent, hlast], hended⟩

theorem pass (h : connection.Mirrors other) (time : Nat) :
    (connection.pass time).Mirrors (other.pass time) := by
  obtain ⟨hdebouncer, hrevisions⟩ := h.debouncer.advance connection.callback other.callback time
  obtain ⟨hloose, hlate⟩ := h.loose.advance connection.callback other.callback time
  have hpassed : Mirrors
      { connection with
        debouncer := (JobKeeper.advance connection.callback connection.debouncer time).1
        loose := (JobKeeper.advance connection.callback connection.loose time).1 }
      { other with
        debouncer := (JobKeeper.advance other.callback other.debouncer time).1
        loose := (JobKeeper.advance other.callback other.loose time).1 } :=
    { h with debouncer := hdebouncer, loose := hloose }
  unfold Connection.pass
  dsimp only
  rw [hrevisions, hlate]
  exact hpassed.publishAll _

theorem step (h : connection.Mirrors other) (happening : Happening) :
    (connection.step happening).Mirrors (other.step happening) := by
  cases happening with
  | receive message => exact h.receive message
  | pass time => exact h.pass time
  | failSends count => exact ⟨{ h with failures := rfl }, rfl, rfl⟩
  | drop => exact ⟨{ h with connected := rfl }, rfl, rfl⟩

theorem run (h : connection.Mirrors other) (script : List Happening) :
    (connection.run script).1.Mirrors (other.run script).1 ∧
      (connection.run script).2 = (other.run script).2 := by
  induction script generalizing connection other with
  | nil => exact ⟨h.close .closed, rfl⟩
  | cons first rest ih =>
    obtain ⟨hstep, hsent, -⟩ := h.step first
    obtain ⟨hlast, hsteps⟩ := ih hstep
    simp only [Connection.run, hstep.status, hsent]
    split
    · exact ⟨hlast, by rw [hsteps]⟩
    · exact ⟨hstep, rfl⟩

end Mirrors

theorem mirrors_start {host : Host} {settings : Settings} {connection : Connection EventLoop}
    (h : start? host settings = some connection) :
    ∃ other : Connection Debouncer, start? host settings = some other ∧
      connection.Mirrors other := by
  simp only [start?, Option.bind_eq_bind, Option.bind_eq_some_iff] at h
  obtain ⟨debouncer, hdebouncer, loose, hloose, h⟩ := h
  cases h
  obtain ⟨jobs, hjobs, hmirrors⟩ := EventLoop.mirrors_start hdebouncer
  obtain ⟨late, hlate, hmirrors'⟩ := EventLoop.mirrors_start hloose
  refine ⟨{ host, settings, debouncer := jobs, loose := late }, ?_, ?_⟩
  · simp [start?, hjobs, hlate]
  · exact ⟨rfl, rfl, rfl, rfl, rfl, rfl, hmirrors, hmirrors'⟩

end Connection

/-- A connection on an event loop sends the messages of a connection with a debouncer in each step
of a script, and after its end. -/
theorem run_on_tasks {host : Host} {settings : Settings} {connection : Connection EventLoop}
    (hstart : Connection.start? host settings = some connection) (script : List Happening) :
    ∃ other : Connection Debouncer, Connection.start? host settings = some other ∧
      (connection.run script).2 = (other.run script).2 ∧
      (connection.run script).1.status = (other.run script).1.status ∧
      ∀ time,
        ((connection.run script).1.pass time).sent = ((other.run script).1.pass time).sent := by
  obtain ⟨other, hother, hmirrors⟩ := Connection.mirrors_start hstart
  obtain ⟨hlast, hsent⟩ := hmirrors.run script
  exact ⟨other, hother, hsent, hlast.status, fun time => (hlast.pass time).sent⟩

end SolidityLint
