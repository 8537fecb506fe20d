import SolidityLint.Proofs.Connection

/-!
# Connections end for good

However a connection ends, it has no pending job then, and a fatal error is the last of its messages
(`run_ends_for_good`). Only one job can outlive it: the change of a document without a key cannot be
kept under a key, which ends the connection, but it was scheduled before.
-/

namespace SolidityLint

open Connection

def Message.isFatal : Message → Bool
  | .fatal _ => true
  | _ => false

/-- The change of a document without a key. -/
def Happening.LeavesBehind (revision : Revision) (happening : Happening) : Prop :=
  ∃ notice, happening.notice? = some notice ∧ notice.event = .changed ∧
    notice.uri.key? = none ∧ revision = ⟨.named notice.uri, notice.text⟩

namespace Connection

variable {connection : Connection Debouncer} {message : Message} {revision : Revision}

-- ---------------------------------------------------------------------------
-- Fatal errors
-- ---------------------------------------------------------------------------

theorem isFatal_of_mem_publish (h : message ∈ (connection.publish revision).sent) :
    message.isFatal = false := by
  obtain ⟨findings, -, rfl⟩ := mem_publish h
  rfl

theorem isFatal_of_mem_pass {time : Nat} (h : message ∈ (connection.pass time).sent) :
    message.isFatal = false := by
  obtain ⟨revision, findings, -, -, rfl⟩ := mem_pass h
  rfl

theorem isFatal_of_mem_handle {received : Value}
    (h : message ∈ (connection.handle received).sent) : message.isFatal = false := by
  obtain ⟨notice, -, hd⟩ | hd | ⟨fault, hd⟩ := connection.handle_cases received
  · rw [hd] at h
    obtain ⟨debouncer, hd⟩ | ⟨debouncer, hd⟩ | ⟨fault, hd⟩ | ⟨-, -, fault, hd⟩ :=
      (connection.identify notice.uri).1.handleDocument_cases notice.event
        ⟨(connection.identify notice.uri).2, notice.text⟩
    · rw [hd] at h
      cases h
    · rw [hd] at h
      exact isFatal_of_mem_publish h
    · rw [hd] at h
      cases h
    · rw [hd] at h
      cases h
  · rw [hd] at h
    rw [mem_send h]
    rfl
  · rw [hd] at h
    cases h

theorem send_dropLast (connection : Connection Debouncer) (message : Message) :
    (connection.send message).sent.dropLast = [] := by
  unfold send
  split <;> rfl

theorem abort_dropLast (connection : Connection Debouncer) (fault : ServiceFault) :
    (connection.abort fault).sent.dropLast = [] := by
  unfold abort
  split
  · dsimp only
    split <;> exact send_dropLast _ _
  · rfl

theorem mem_dropLast_append {α : Type} {item : α} {first second : List α}
    (h : item ∈ (first ++ second).dropLast) : item ∈ first ∨ item ∈ second.dropLast := by
  rw [List.dropLast_append] at h
  split at h
  · exact .inl (List.dropLast_subset _ h)
  · exact List.mem_append.mp h

/-- A step sends no fatal error, or one as its last message, and the connection has ended then. -/
theorem step_sent (connection : Connection Debouncer) (happening : Happening) :
    ∃ quiet last, (connection.step happening).sent = quiet ++ last ∧
      (∀ message ∈ quiet, message.isFatal = false) ∧ last.dropLast = [] ∧
        (last = [] ∨ (connection.step happening).connection.status ≠ .running) := by
  cases happening with
  | receive received =>
    rw [step]
    rcases connection.receive_cases received with ⟨-, hr⟩ | ⟨fault, -, hc, hs⟩
    · exact ⟨_, [], by rw [hr, List.append_nil], fun _ => isFatal_of_mem_handle, rfl, .inl rfl⟩
    · obtain ⟨failures, status, hstatus, ha⟩ :=
        (connection.handle received).connection.abort_connection fault
      refine ⟨_, _, hs, fun _ => isFatal_of_mem_handle, abort_dropLast _ _, .inr ?_⟩
      rwa [hc, ha]
  | pass time =>
    exact ⟨_, [], (List.append_nil _).symm, fun _ => isFatal_of_mem_pass, rfl, .inl rfl⟩
  | failSends count => exact ⟨[], [], rfl, List.forall_mem_nil _, rfl, .inl rfl⟩
  | drop => exact ⟨[], [], rfl, List.forall_mem_nil _, rfl, .inl rfl⟩

theorem run_isFatal {script : List Happening}
    (h : message ∈ (connection.run script).2.flatten.dropLast) : message.isFatal = false := by
  induction script generalizing connection with
  | nil => cases h
  | cons first rest ih =>
    obtain ⟨quiet, last, hsent, hquiet, hlast, hended⟩ := connection.step_sent first
    by_cases hr : (connection.step first).connection.status = .running
    · rw [run_cons_of_running rest hr, List.flatten_cons, hsent,
        hended.resolve_right (not_not_intro hr), List.append_nil] at h
      rcases mem_dropLast_append h with h | h
      · exact hquiet message h
      · exact ih h
    · rw [run_cons_of_ended rest hr, List.flatten_singleton, hsent] at h
      rcases mem_dropLast_append h with h | h
      · exact hquiet message h
      · rw [hlast] at h
        cases h

-- ---------------------------------------------------------------------------
-- Jobs without a key
-- ---------------------------------------------------------------------------

theorem handleDocument_loose (connection : Connection Debouncer) (event : DocumentEvent)
    (revision : Revision) :
    (connection.handleDocument event revision).connection.loose = connection.loose ∨
      event = .changed ∧ revision.document.key? = none ∧
        (∃ fault, (connection.handleDocument event revision).fault = some fault) ∧
        (connection.handleDocument event revision).connection.loose =
          connection.loose.schedule () revision := by
  obtain ⟨debouncer, h⟩ | ⟨debouncer, h⟩ | ⟨fault, h⟩ | ⟨hevent, hk, fault, h⟩ :=
    connection.handleDocument_cases event revision
  · exact .inl (by rw [h])
  · obtain ⟨failures, hc⟩ := { connection with debouncer }.publish_connection revision
    exact .inl (by rw [h, hc])
  · exact .inl (by rw [h])
  · exact .inr ⟨hevent, hk, ⟨fault, by rw [h]⟩, by rw [h]; rfl⟩

theorem document_of_no_key {uri : Value} (h : (connection.identify uri).2.key? = none) :
    (connection.identify uri).2 = .named uri ∧ uri.key? = none := by
  unfold identify at h ⊢
  split at h
  · cases h
  · rename_i hf
    rw [if_neg hf]
    exact ⟨rfl, Option.map_eq_none_iff.mp h⟩

/-- A message leaves the jobs without a key as they are, or adds one and is a fault. -/
theorem handle_loose (connection : Connection Debouncer) (received : Value) :
    (connection.handle received).connection.loose = connection.loose ∨
      ∃ revision, (Happening.receive received).LeavesBehind revision ∧
        (∃ fault, (connection.handle received).fault = some fault) ∧
        (connection.handle received).connection.loose = connection.loose.schedule () revision := by
  obtain ⟨notice, hn, h⟩ | h | ⟨fault, h⟩ := connection.handle_cases received
  · rw [h]
    obtain ⟨unnamed, hi⟩ := connection.identify_connection notice.uri
    have hsame : (connection.identify notice.uri).1.loose = connection.loose := by rw [hi]
    rcases (connection.identify notice.uri).1.handleDocument_loose notice.event
      ⟨(connection.identify notice.uri).2, notice.text⟩ with hl | ⟨hevent, hkey, hfault, hl⟩
    · exact .inl (hl.trans hsame)
    · obtain ⟨hdocument, huri⟩ := document_of_no_key hkey
      refine .inr ⟨_, ⟨notice, hn, hevent, huri, rfl⟩, hfault, ?_⟩
      rw [hl, hsame, hdocument]
  · obtain ⟨failures, hc⟩ :=
      connection.send_connection (.reply (respond connection.host connection.settings received))
    exact .inl (by rw [h, handleRequest, hc])
  · exact .inl (by rw [h])

theorem step_loose {happening : Happening} (h : connection.loose.pending = []) :
    (connection.step happening).connection.loose.pending = [] ∨
      (connection.step happening).connection.status ≠ .running ∧
        ∃ job, happening.LeavesBehind job.task ∧
          (connection.step happening).connection.loose.pending = [job] := by
  cases happening with
  | receive received =>
    rw [step]
    rcases connection.receive_cases received with ⟨hnone, hr⟩ | ⟨fault, -, hc, -⟩
    · rcases connection.handle_loose received with hl | ⟨_, -, ⟨fault, hf⟩, -⟩
      · exact .inl (by rw [hr, hl, h])
      · cases hnone.symm.trans hf
    · obtain ⟨failures, status, hstatus, ha⟩ :=
        (connection.handle received).connection.abort_connection fault
      rw [hc, ha]
      rcases connection.handle_loose received with hl | ⟨revision, hleaves, -, hl⟩
      · exact .inl (by rw [← h, ← hl]; rfl)
      · have hjob := Debouncer.pending_schedule_of_nil h () revision
        exact .inr ⟨hstatus, _, hleaves, (congrArg Debouncer.pending hl).trans hjob⟩
  | pass time =>
    obtain ⟨failures, hc⟩ := connection.pass_connection time
    exact .inl (by rw [step, hc, Debouncer.pending_advance, h]; rfl)
  | failSends count => exact .inl h
  | drop => exact .inl h

theorem run_loose (h : connection.loose.pending = []) (script : List Happening) :
    (connection.run script).1.loose.pending = [] ∨
      ∃ happening job, (script.take (connection.run script).2.length).getLast? = some happening ∧
        happening.LeavesBehind job.task ∧ (connection.run script).1.loose.pending = [job] := by
  induction script generalizing connection with
  | nil => exact .inl h
  | cons first rest ih =>
    rcases connection.step_loose h with hl | ⟨hstatus, job, hleaves, hl⟩
    · by_cases hr : (connection.step first).connection.status = .running
      · rw [run_cons_of_running rest hr]
        rcases ih hl with hnone | ⟨happening, job, hlast, hleaves, hjob⟩
        · exact .inl hnone
        · refine .inr ⟨happening, job, ?_, hleaves, hjob⟩
          rw [List.length_cons, List.take_succ_cons, List.getLast?_cons, hlast]
          rfl
      · rw [run_cons_of_ended rest hr]
        exact .inl hl
    · rw [run_cons_of_ended rest hstatus]
      exact .inr ⟨first, job, rfl, hleaves, hl⟩

-- ---------------------------------------------------------------------------
-- After the end
-- ---------------------------------------------------------------------------

theorem publish_length_le (connection : Connection Debouncer) (revision : Revision) :
    (connection.publish revision).sent.length ≤ 1 := by
  unfold publish offer send
  split
  · exact Nat.zero_le _
  · split
    · split
      · exact Nat.le_refl _
      · exact Nat.zero_le _
    · exact Nat.zero_le _

theorem publishAll_length_le (connection : Connection Debouncer) (revisions : List Revision) :
    (connection.publishAll revisions).sent.length ≤ revisions.length := by
  induction revisions generalizing connection with
  | nil => exact Nat.le_refl _
  | cons revision revisions ih =>
    have hfirst := connection.publish_length_le revision
    have hrest := ih (connection.publish revision).connection
    simp only [publishAll, List.length_append, List.length_cons]
    omega

theorem pass_length_le (connection : Connection Debouncer) (time : Nat) :
    (connection.pass time).sent.length ≤
      connection.debouncer.pending.length + connection.loose.pending.length := by
  have hsent : (connection.pass time).sent.length ≤
      ((connection.debouncer.advance time).2 ++ (connection.loose.advance time).2).length :=
    publishAll_length_le _ _
  rw [List.length_append, Debouncer.tasks_advance, Debouncer.tasks_advance, List.length_map,
    List.length_map] at hsent
  exact Nat.le_trans hsent
    (Nat.add_le_add (List.length_filter_le _ _) (List.length_filter_le _ _))

theorem step_settings (connection : Connection Debouncer) (happening : Happening) :
    (connection.step happening).connection.host = connection.host ∧
      (connection.step happening).connection.settings = connection.settings := by
  cases happening with
  | receive received =>
    obtain ⟨_, _, _, _, hh⟩ := connection.handle_connection received
    rw [step]
    rcases connection.receive_cases received with ⟨-, hr⟩ | ⟨fault, -, hc, -⟩
    · rw [hr, hh]
      exact ⟨rfl, rfl⟩
    · obtain ⟨_, _, -, ha⟩ := (connection.handle received).connection.abort_connection fault
      rw [hc, ha, hh]
      exact ⟨rfl, rfl⟩
  | pass time =>
    obtain ⟨_, hc⟩ := connection.pass_connection time
    rw [step, hc]
    exact ⟨rfl, rfl⟩
  | failSends count => exact ⟨rfl, rfl⟩
  | drop => exact ⟨rfl, rfl⟩

theorem run_settings (connection : Connection Debouncer) (script : List Happening) :
    (connection.run script).1.host = connection.host ∧
      (connection.run script).1.settings = connection.settings := by
  induction script generalizing connection with
  | nil => exact ⟨rfl, rfl⟩
  | cons first rest ih =>
    obtain ⟨hhost, hsettings⟩ := connection.step_settings first
    by_cases hr : (connection.step first).connection.status = .running
    · rw [run_cons_of_running rest hr]
      exact ⟨(ih _).1.trans hhost, (ih _).2.trans hsettings⟩
    · rw [run_cons_of_ended rest hr]
      exact ⟨hhost, hsettings⟩

theorem run_status (connection : Connection Debouncer) (script : List Happening) :
    (connection.run script).1.status ≠ .running := by
  induction script generalizing connection with
  | nil => nofun
  | cons first rest ih =>
    by_cases hr : (connection.step first).connection.status = .running
    · rw [run_cons_of_running rest hr]
      exact ih _
    · rwa [run_cons_of_ended rest hr]

end Connection

/-- Nothing is pending when a connection has ended, and a fatal error is sent once and as the last
message of its steps. What is sent afterwards is one message, on a document without a key whose
change was the last that happened. -/
theorem run_ends_for_good {host : Host} {settings : Settings} {connection : Connection Debouncer}
    (hstart : start? host settings = some connection) (script : List Happening) :
    (connection.run script).1.status ≠ .running ∧
    (connection.run script).1.debouncer.pending = [] ∧
    (∀ fault, .fatal fault ∉ (connection.run script).2.flatten.dropLast) ∧
    ∀ time message, message ∈ ((connection.run script).1.pass time).sent →
      ((connection.run script).1.pass time).sent = [message] ∧
      ∃ notice findings,
        (script.take (connection.run script).2.length).getLast?.bind Happening.notice? =
          some notice ∧
        notice.event = .changed ∧ notice.uri.key? = none ∧
        diagnose host settings notice.text = .ok findings ∧
        message = .diagnostics (.named notice.uri) findings := by
  have hconnection := start?_eq_some hstart
  have hrunning : connection.status = .running := by rw [hconnection]
  have hloose : connection.loose.pending = [] := by rw [hconnection]
  have hidle := run_idle hrunning script
  refine ⟨run_status connection script, hidle, ?_, ?_⟩
  · intro fault hm
    cases run_isFatal hm
  · intro time message hm
    obtain ⟨revision, findings, hr, hf, rfl⟩ := mem_pass hm
    rcases run_loose hloose script with hnone | ⟨happening, job, hlast, hleaves, hjob⟩
    · simp [hidle, hnone] at hr
    · obtain rfl : job.task = revision := by simpa [hidle, hjob] using hr
      obtain ⟨notice, hn, hevent, huri, htask⟩ := hleaves
      have hlength := pass_length_le (connection.run script).1 time
      rw [hidle, hjob] at hlength
      refine ⟨?_, notice, findings, by rw [hlast]; exact hn, hevent, huri, ?_, by rw [htask]⟩
      · obtain ⟨only, honly⟩ :=
          List.length_eq_one_iff.mp (Nat.le_antisymm hlength (List.length_pos_of_mem hm))
        rw [honly] at hm ⊢
        rw [List.mem_singleton.mp hm]
      · obtain ⟨hhost, hsettings⟩ := run_settings connection script
        rw [hhost, hsettings, htask, hconnection] at hf
        exact hf

/-- The change of a document with a list for its name ends the connection, and is still looked at
when its time has come. -/
theorem run_outlived_by_change :
    let script : List Happening := [.receive (.object [("type", .text "change"),
      ("uri", .list [.text "a.sol"]), ("text", .text "")])]
    ∃ connection : Connection Debouncer, start? {} {} = some connection ∧
      (connection.run script).2 = [[.fatal (.notKey "list")]] ∧
      ((connection.run script).1.pass 300).sent =
        [.diagnostics (.named (.list [.text "a.sol"])) []] := by
  intro script
  obtain ⟨connection, hstart⟩ :
      ∃ connection : Connection Debouncer, start? {} {} = some connection :=
    Option.isSome_iff_exists.mp (by decide +kernel)
  refine ⟨connection, hstart, ?_, ?_⟩
  · rw [start?_eq_some hstart]
    rfl
  · have hdiagnose : diagnose (connection.run script).1.host (connection.run script).1.settings
        (.text "") = .ok [] := by
      obtain ⟨hhost, hsettings⟩ := run_settings connection script
      rw [hhost, hsettings, start?_eq_some hstart]
      decide +kernel
    rw [start?_eq_some hstart] at hdiagnose ⊢
    show (publishAll _ [⟨.named (.list [.text "a.sol"]), .text ""⟩]).sent = _
    simp only [publishAll, publish, hdiagnose]
    rfl

/-- A document waits when a message comes that cannot be read. -/
theorem run_ends_for_good_at_list :
    let script : List Happening := [.ofEvent "change" "a.sol" "", .receive (.list []), .pass 400]
    ∃ connection : Connection Debouncer, start? {} {} = some connection ∧
      (connection.run script).2 = [[], [.fatal (.notMessage "list")]] ∧
      (connection.run script).1.debouncer.pending = [] ∧
      ∀ time, ((connection.run script).1.pass time).sent = [] := by
  intro script
  obtain ⟨connection, hstart⟩ :
      ∃ connection : Connection Debouncer, start? {} {} = some connection :=
    Option.isSome_iff_exists.mp (by decide +kernel)
  have hsent : (connection.run script).2 = [[], [.fatal (.notMessage "list")]] := by
    rw [start?_eq_some hstart]
    rfl
  obtain ⟨-, hpending, -, hlater⟩ := run_ends_for_good hstart script
  refine ⟨connection, hstart, hsent, hpending, fun time => ?_⟩
  refine List.eq_nil_iff_forall_not_mem.mpr fun message hm => ?_
  obtain ⟨-, notice, findings, hn, -⟩ := hlater time message hm
  rw [hsent] at hn
  cases hn

end SolidityLint
