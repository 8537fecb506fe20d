import SolidityLint.Proofs.Connection

/-!
# Requests are answered

A request that can be routed is answered in the step in which it comes, and leaves no other trace:
without it the connection would run the same way (`run_answers_requests`). What is no object, or an
object whose kind is no key, is never routed; it ends the connection.
-/

namespace SolidityLint

open Connection

/-- The client stays, and no message to it gets lost. -/
def Happening.isSteady : Happening → Bool
  | .failSends count => count == 0
  | .drop => false
  | _ => true

def Value.isRoutable : Value → Bool
  | .object fields => (kindOf fields).key?.isSome
  | _ => false

namespace Connection

variable {host : Host} {settings : Settings} {connection : Connection Debouncer}

-- ---------------------------------------------------------------------------
-- A client that is there and gets every message
-- ---------------------------------------------------------------------------

structure Serves (host : Host) (settings : Settings) (connection : Connection Debouncer) :
    Prop where
  host_eq : connection.host = host
  settings_eq : connection.settings = settings
  connected : connection.connected = true
  failures_eq : connection.failures = 0
  running : connection.status = .running

namespace Serves

theorem publish_connection (h : Serves host settings connection) (revision : Revision) :
    (connection.publish revision).connection = connection := by
  unfold Connection.publish offer
  split
  · rfl
  · rw [if_pos h.connected, send_of_no_failures h.failures_eq]

theorem publishAll_connection (h : Serves host settings connection) (revisions : List Revision) :
    (connection.publishAll revisions).connection = connection := by
  induction revisions with
  | nil => rfl
  | cons revision revisions ih => rw [Connection.publishAll, h.publish_connection, ih]

theorem alter (h : Serves host settings connection) (debouncer : Debouncer DocumentKey Revision)
    (loose : Debouncer Unit Revision) (unnamed : Nat) :
    Serves host settings { connection with debouncer, loose, unnamed } :=
  ⟨h.host_eq, h.settings_eq, h.connected, h.failures_eq, h.running⟩

theorem handleDocument (h : Serves host settings connection) (event : DocumentEvent)
    (revision : Revision) :
    Serves host settings (connection.handleDocument event revision).connection := by
  obtain ⟨debouncer, hd⟩ | ⟨debouncer, hd⟩ | ⟨fault, hd⟩ | ⟨-, -, fault, hd⟩ :=
    connection.handleDocument_cases event revision
  · rw [hd]
    exact h.alter _ _ _
  · have hkept : Serves host settings { connection with debouncer } := h.alter _ _ _
    rwa [hd, hkept.publish_connection]
  · rwa [hd]
  · rw [hd]
    exact h.alter _ _ _

theorem handle (h : Serves host settings connection) (message : Value) :
    Serves host settings (connection.handle message).connection := by
  obtain ⟨notice, -, hd⟩ | hd | ⟨fault, hd⟩ := connection.handle_cases message
  · obtain ⟨unnamed, hi⟩ := connection.identify_connection notice.uri
    have hidentified : Serves host settings (connection.identify notice.uri).1 := by
      rw [hi]
      exact h.alter _ _ _
    rw [hd]
    exact hidentified.handleDocument _ _
  · rwa [hd, handleRequest, send_of_no_failures h.failures_eq]
  · rwa [hd]

theorem step {happening : Happening} (h : Serves host settings connection) (hs : happening.isSteady)
    (hr : (connection.step happening).connection.status = .running) :
    Serves host settings (connection.step happening).connection := by
  cases happening with
  | receive message =>
    rw [Connection.step] at hr ⊢
    rcases connection.receive_cases message with ⟨-, he⟩ | ⟨fault, -, hc, -⟩
    · rw [he]
      exact h.handle message
    · obtain ⟨failures, status, hstatus, ha⟩ :=
        (connection.handle message).connection.abort_connection fault
      rw [hc, ha] at hr
      exact absurd hr hstatus
  | pass time =>
    have hpassed := h.alter (connection.debouncer.advance time).1
      (connection.loose.advance time).1 connection.unnamed
    have hc : (connection.step (.pass time)).connection = _ := hpassed.publishAll_connection _
    rwa [hc]
  | failSends count =>
    have hzero : count = 0 := by simpa [Happening.isSteady] using hs
    exact ⟨h.host_eq, h.settings_eq, h.connected, hzero, h.running⟩
  | drop => cases hs

/-- A request that can be routed is answered, and the connection stays as it was. -/
theorem step_of_routable {message : Value} (h : Serves host settings connection)
    (hn : (Happening.receive message).notice? = none) (hm : message.isRoutable) :
    connection.step (.receive message) =
      { connection, sent := [.reply (respond host settings message)] } := by
  cases message with
  | object fields =>
    rw [Connection.step, receive_of_request h.failures_eq hn hm, h.host_eq, h.settings_eq]
  | _ => cases hm

/-- What cannot be routed is a fault, and the fault is the last message. -/
theorem step_of_not_routable {message : Value} (h : Serves host settings connection)
    (hm : message.isRoutable = false) :
    ∃ fault, connection.step (.receive message) =
      { connection := connection.close .closed, sent := [.fatal fault] } := by
  have hhandle : ∃ fault, connection.handle message = { connection, fault := some fault } := by
    cases message with
    | object fields =>
      exact ⟨_, connection.handleFields_of_no_key (by simpa [Value.isRoutable] using hm)⟩
    | _ => exact ⟨_, rfl⟩
  obtain ⟨fault, hf⟩ := hhandle
  have habort : connection.abort fault =
      { connection := connection.close .closed, sent := [.fatal fault] } := by
    simp only [abort, h.connected, send_of_no_failures h.failures_eq, if_true]
  refine ⟨fault, ?_⟩
  rw [Connection.step, receive, hf]
  dsimp only
  rw [habort]
  rfl

end Serves

theorem serves_start (h : start? host settings = some connection) :
    Serves host settings connection := by
  rw [start?_eq_some h]
  exact ⟨rfl, rfl, rfl, rfl, rfl⟩

end Connection

/-- A request that can be routed is answered with one message, the next step is taken, and all other
steps are those of a run without the request. What cannot be routed is the last that is received,
and the last message says what was wrong with it. -/
theorem run_answers_requests {host : Host} {settings : Settings} {connection : Connection Debouncer}
    (hstart : start? host settings = some connection) (script : List Happening)
    (hsteady : ∀ happening ∈ script, happening.isSteady) (step : Nat) (message : Value)
    (hs : script[step]? = some (.receive message))
    (hn : (Happening.receive message).notice? = none)
    (hreached : step < (connection.run script).2.length) :
    if message.isRoutable then
      (connection.run script).2[step]? = some [.reply (respond host settings message)] ∧
        (step + 1 < script.length → step + 1 < (connection.run script).2.length) ∧
        connection.run (script.eraseIdx step) =
          ((connection.run script).1, (connection.run script).2.eraseIdx step)
    else
      ∃ fault, (connection.run script).2[step]? = some [.fatal fault] ∧
        (connection.run script).2.length = step + 1 := by
  obtain ⟨here, sent, hhere, rfl, hrun⟩ := run_reaches
    (fun happening hm _ h => h.step (hsteady happening hm)) (serves_start hstart) hreached
  obtain ⟨hlt, hget⟩ := List.getElem?_eq_some_iff.mp hs
  have hscript : script.take sent.length ++ .receive message :: script.drop (sent.length + 1) =
      script := by
    rw [← hget, List.getElem_cons_drop, List.take_append_drop]
  have hall := hrun (.receive message :: script.drop (sent.length + 1))
  rw [hscript] at hall
  split
  · rename_i hm
    have hstep := hhere.step_of_routable hn hm
    have hrunning : (here.step (.receive message)).connection.status = .running := by
      rw [hstep, hhere.running]
    rw [run_cons_of_running _ hrunning, hstep] at hall
    dsimp only at hall
    refine ⟨by simp [hall], fun hnext => ?_, ?_⟩
    · have hne : script.drop (sent.length + 1) ≠ [] := by simpa using hnext
      have hlater := List.length_pos_iff.mpr (here.run_ne_nil hne)
      simp only [hall, List.length_append, List.length_cons]
      omega
    · rw [List.eraseIdx_eq_take_drop_succ, hrun, hall,
        List.eraseIdx_append_of_length_le (Nat.le_refl _), Nat.sub_self]
      rfl
  · rename_i hm
    obtain ⟨fault, hstep⟩ := hhere.step_of_not_routable (by simpa using hm)
    have hended : (here.step (.receive message)).connection.status ≠ .running := by
      rw [hstep]
      nofun
    rw [run_cons_of_ended _ hended, hstep] at hall
    exact ⟨fault, by simp [hall], by simp [hall]⟩

/-- A list and a request with a list for its kind are not answered, though the router has an answer
for both. -/
theorem run_ends_at_list_and_kind :
    let request : Value := .object [("type", .list []), ("request_id", .text "1"),
      ("action", .text "rules"), ("payload", .object [])]
    ∃ connection : Connection Debouncer, start? {} {} = some connection ∧
      (connection.run [.receive (.list []), .pass 1]).2 = [[.fatal (.notMessage "list")]] ∧
      (connection.run [.receive request, .pass 1]).2 = [[.fatal (.notKey "list")]] ∧
      answer {} {} (.list []) = .error (.internalError (.notMapping "list")) ∧
      answer {} {} request = .ok (.rules Rules.allOn.entries) := by
  intro request
  obtain ⟨connection, hstart⟩ :
      ∃ connection : Connection Debouncer, start? {} {} = some connection :=
    Option.isSome_iff_exists.mp (by decide +kernel)
  refine ⟨connection, hstart, ?_, ?_, rfl, ?_⟩
  · rw [start?_eq_some hstart]
    rfl
  · rw [start?_eq_some hstart]
    rfl
  · rfl

/-- A document waits while a request is answered. -/
theorem run_answers_requests_between_events :
    let request : Value := .object [("request_id", .text "1"), ("action", .text "format"),
      ("payload", .object [])]
    let script : List Happening :=
      [.ofEvent "change" "a.sol" "", .receive request, .pass 400]
    ∃ connection : Connection Debouncer, start? {} {} = some connection ∧
      (connection.run script).2.length = 3 ∧
      (connection.run script).2[1]? = some [.reply ⟨.text "1", .error (.unknownAction "format")⟩] ∧
      connection.run [.ofEvent "change" "a.sol" "", .pass 400] =
        ((connection.run script).1, (connection.run script).2.eraseIdx 1) := by
  intro request script
  obtain ⟨connection, hstart⟩ :
      ∃ connection : Connection Debouncer, start? {} {} = some connection :=
    Option.isSome_iff_exists.mp (by decide +kernel)
  have hlength : (connection.run script).2.length = 3 := by
    rw [start?_eq_some hstart]
    decide +kernel
  obtain ⟨hreply, -, herase⟩ := run_answers_requests hstart script (by decide) 1 request rfl
    rfl (by rw [hlength]; decide)
  exact ⟨connection, hstart, hlength, hreply, herase⟩

end SolidityLint
