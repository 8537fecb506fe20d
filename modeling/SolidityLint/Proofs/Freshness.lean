import Mathlib.Data.List.Basic
import SolidityLint.Proofs.Connection

/-!
# Diagnostics are fresh

Whatever a connection sends about a document is what is found in the text of the last event of that
document (`run_diagnostics_fresh`). The invariant ties the pending jobs to what was received: a job
that is pending for a document has the text of the last event of that document, since each event
drops the job before.
-/

namespace SolidityLint

open Connection

def lastNotice? (uri : String) (received : List Happening) : Option Notice :=
  received.reverse.findSome? (Happening.noticeOf? uri)

variable {uri : String} {received : List Happening} {happening : Happening}

theorem lastNotice?_of_some {notice : Notice} (h : happening.noticeOf? uri = some notice) :
    lastNotice? uri (received ++ [happening]) = some notice := by
  simp [lastNotice?, h]

theorem lastNotice?_of_none (h : happening.noticeOf? uri = none) :
    lastNotice? uri (received ++ [happening]) = lastNotice? uri received := by
  simp [lastNotice?, h]

-- ---------------------------------------------------------------------------
-- Documents and their keys
-- ---------------------------------------------------------------------------

theorem uri_of_identify {connection : Connection Debouncer} {value : Value}
    (h : (connection.identify value).2 = .called uri) : value = .text uri := by
  unfold identify at h
  split at h
  · cases h
  · exact DocumentId.named.inj h

-- ---------------------------------------------------------------------------
-- Current revisions
-- ---------------------------------------------------------------------------

/-- The revision of a document with a name has the text of the last event of the document. -/
def Revision.Current (received : List Happening) (revision : Revision) : Prop :=
  ∀ uri, uri ≠ "" → revision.document = .called uri →
    (lastNotice? uri received).map (·.text) = some revision.text

theorem Revision.current_of_no_key {revision : Revision} (h : revision.document.key? = none) :
    revision.Current received := by
  intro uri _ hd
  rw [hd, DocumentId.called_key?] at h
  cases h

theorem Revision.current_of_notice (received : List Happening) (connection : Connection Debouncer)
    {notice : Notice} (h : happening.notice? = some notice) :
    Revision.Current (received ++ [happening])
      ⟨(connection.identify notice.uri).2, notice.text⟩ := by
  intro uri _ hd
  rw [lastNotice?_of_some (Happening.noticeOf?_eq_some.mpr ⟨h, uri_of_identify hd⟩)]
  rfl

theorem Revision.Current.append {revision : Revision} (h : revision.Current received)
    (hother : ∀ uri, uri ≠ "" → revision.document = .called uri →
      happening.noticeOf? uri = none) :
    revision.Current (received ++ [happening]) := by
  intro uri hne hd
  rw [lastNotice?_of_none (hother uri hne hd)]
  exact h uri hne hd

-- ---------------------------------------------------------------------------
-- The invariant
-- ---------------------------------------------------------------------------

variable {host : Host} {settings : Settings} {connection : Connection Debouncer}

/-- Every pending job stands under the key of its document and is current. Jobs without a key are
jobs of documents that have none. -/
structure Fresh (host : Host) (settings : Settings) (received : List Happening)
    (connection : Connection Debouncer) : Prop where
  host_eq : connection.host = host
  settings_eq : connection.settings = settings
  keyed : ∀ job ∈ connection.debouncer.pending, job.task.document.key? = some job.key
  current : ∀ job ∈ connection.debouncer.pending, job.task.Current received
  loose : ∀ job ∈ connection.loose.pending, job.task.document.key? = none

/-- Diagnostics with a name are those of the document's last text. -/
def SentFresh (host : Host) (settings : Settings) (received : List Happening)
    (messages : List Message) : Prop :=
  ∀ uri, uri ≠ "" → ∀ findings, .diagnostics (.called uri) findings ∈ messages →
    ∃ notice, lastNotice? uri received = some notice ∧
      diagnose host settings notice.text = .ok findings

theorem sentFresh_of_current {messages : List Message}
    (h : ∀ message ∈ messages, ∀ document findings, message = .diagnostics document findings →
      ∃ text, diagnose host settings text = .ok findings ∧
        Revision.Current received ⟨document, text⟩) :
    SentFresh host settings received messages := by
  intro uri hne findings hm
  obtain ⟨text, hf, hc⟩ := h _ hm _ _ rfl
  obtain ⟨notice, hl, rfl⟩ := Option.map_eq_some_iff.mp (hc uri hne rfl)
  exact ⟨notice, hl, hf⟩

theorem sentFresh_nil : SentFresh host settings received [] := by
  intro uri _ findings hm
  cases hm

theorem SentFresh.append {first second : List Message} (h : SentFresh host settings received first)
    (h' : SentFresh host settings received second) :
    SentFresh host settings received (first ++ second) := by
  intro uri hne findings hm
  rcases List.mem_append.mp hm with hm | hm
  · exact h uri hne findings hm
  · exact h' uri hne findings hm

theorem sentFresh_publish {revision : Revision} (hc : revision.Current received) :
    SentFresh connection.host connection.settings received (connection.publish revision).sent := by
  refine sentFresh_of_current fun message hm document findings he => ?_
  obtain ⟨found, hf, rfl⟩ := mem_publish hm
  cases he
  exact ⟨_, hf, hc⟩

theorem sentFresh_abort {fault : ServiceFault} :
    SentFresh host settings received (connection.abort fault).sent := by
  refine sentFresh_of_current fun message hm document findings he => ?_
  cases (mem_abort hm).symm.trans he

/-- Jobs that are dropped do no harm. -/
theorem Fresh.subset {other : Connection Debouncer} (h : Fresh host settings received connection)
    (hh : other.host = connection.host) (hs : other.settings = connection.settings)
    (hp : other.debouncer.pending ⊆ connection.debouncer.pending)
    (hl : other.loose.pending ⊆ connection.loose.pending) : Fresh host settings received other where
  host_eq := hh.trans h.host_eq
  settings_eq := hs.trans h.settings_eq
  keyed job hj := h.keyed job (hp hj)
  current job hj := h.current job (hp hj)
  loose job hj := h.loose job (hl hj)

theorem Fresh.publish {revision : Revision} (h : Fresh host settings received connection)
    (hc : revision.Current received) :
    Fresh host settings received (connection.publish revision).connection ∧
      SentFresh host settings received (connection.publish revision).sent := by
  obtain ⟨failures, he⟩ := connection.publish_connection revision
  refine ⟨?_, h.host_eq ▸ h.settings_eq ▸ sentFresh_publish hc⟩
  rw [he]
  exact h.subset rfl rfl (List.Subset.refl _) (List.Subset.refl _)

theorem Fresh.handleRequest (h : Fresh host settings received connection) (message : Value) :
    Fresh host settings received (connection.handleRequest message).connection ∧
      SentFresh host settings received (connection.handleRequest message).sent := by
  unfold Connection.handleRequest
  refine ⟨?_, sentFresh_of_current fun sent hm document findings he => ?_⟩
  · obtain ⟨failures, hc⟩ :=
      connection.send_connection (.reply (respond connection.host connection.settings message))
    rw [hc]
    exact h.subset rfl rfl (List.Subset.refl _) (List.Subset.refl _)
  · cases (mem_send hm).symm.trans he

theorem Fresh.abort (h : Fresh host settings received connection) (fault : ServiceFault) :
    Fresh host settings received (connection.abort fault).connection := by
  obtain ⟨failures, status, -, he⟩ := connection.abort_connection fault
  rw [he]
  exact h.subset rfl rfl (List.nil_subset _) (List.Subset.refl _)

theorem Fresh.append (h : Fresh host settings received connection)
    (hother : ∀ job ∈ connection.debouncer.pending, ∀ uri, uri ≠ "" →
      job.task.document = .called uri → happening.noticeOf? uri = none) :
    Fresh host settings (received ++ [happening]) connection where
  host_eq := h.host_eq
  settings_eq := h.settings_eq
  keyed := h.keyed
  current job hj := (h.current job hj).append (hother job hj)
  loose := h.loose

-- ---------------------------------------------------------------------------
-- Steps
-- ---------------------------------------------------------------------------

section Notices

variable {notice : Notice}

theorem identify_of_noticeOf? (h : happening.notice? = some notice) (hne : uri ≠ "")
    (ho : happening.noticeOf? uri ≠ none) : (connection.identify notice.uri).2 = .called uri := by
  obtain ⟨other, ho⟩ := Option.ne_none_iff_exists'.mp ho
  obtain ⟨hn, hu⟩ := Happening.noticeOf?_eq_some.mp ho
  obtain rfl : notice = other := Option.some.inj (h.symm.trans hn)
  rw [hu, identify_of_text _ hne]

theorem Fresh.identify (h : Fresh host settings received connection) (value : Value) :
    Fresh host settings received (connection.identify value).1 := by
  obtain ⟨unnamed, he⟩ := connection.identify_connection value
  rw [he]
  exact h.subset rfl rfl (List.Subset.refl _) (List.Subset.refl _)

/-- An event drops the job that is pending for its document, so that the others stay current. -/
theorem Fresh.cancel_append {key : DocumentKey} {other : Connection Debouncer}
    (h : Fresh host settings received connection)
    (hn : happening.notice? = some notice)
    (hk : (other.identify notice.uri).2.key? = some key) :
    Fresh host settings (received ++ [happening]) (connection.cancel key) := by
  have hcancel : Fresh host settings received (connection.cancel key) :=
    h.subset rfl rfl (fun job hj => (Debouncer.mem_pending_cancel.mp hj).1) (List.Subset.refl _)
  refine hcancel.append fun job hj uri hne hd => ?_
  -- An event of the document of another job would have the key of that job.
  by_contra ho
  obtain ⟨hj, hkey⟩ := Debouncer.mem_pending_cancel.mp hj
  rw [identify_of_noticeOf? hn hne ho] at hk
  have hown := h.keyed job hj
  rw [hd] at hown
  exact hkey (Option.some.inj (hown.symm.trans hk))

theorem Fresh.schedule {key : DocumentKey} {revision : Revision}
    (h : Fresh host settings received (connection.cancel key))
    (hk : revision.document.key? = some key) (hc : revision.Current received) :
    Fresh host settings received (connection.schedule key revision) where
  host_eq := h.host_eq
  settings_eq := h.settings_eq
  keyed job hj := by
    rcases List.mem_append.mp hj with hj | hj
    · exact h.keyed job hj
    · rwa [List.mem_singleton.mp hj]
  current job hj := by
    rcases List.mem_append.mp hj with hj | hj
    · exact h.current job hj
    · rwa [List.mem_singleton.mp hj]
  loose := h.loose

theorem Fresh.scheduleLoose {revision : Revision} (h : Fresh host settings received connection)
    (hk : revision.document.key? = none) :
    Fresh host settings received (connection.scheduleLoose revision) where
  host_eq := h.host_eq
  settings_eq := h.settings_eq
  keyed := h.keyed
  current := h.current
  loose job hj := by
    rcases Debouncer.mem_pending_schedule.mp hj with ⟨hj, -⟩ | rfl
    · exact h.loose job hj
    · exact hk

theorem Fresh.handleDocument (h : Fresh host settings received connection)
    (hn : happening.notice? = some notice) :
    Fresh host settings (received ++ [happening])
        ((connection.identify notice.uri).1.handleDocument notice.event
          ⟨(connection.identify notice.uri).2, notice.text⟩).connection ∧
      SentFresh host settings (received ++ [happening])
        ((connection.identify notice.uri).1.handleDocument notice.event
          ⟨(connection.identify notice.uri).2, notice.text⟩).sent := by
  have hc := Revision.current_of_notice received connection hn
  have hi := h.identify notice.uri
  cases hk : (connection.identify notice.uri).2.key? with
  | some key =>
    rw [handleDocument_of_key hk]
    have hcancel := hi.cancel_append hn hk
    split
    · exact ⟨hcancel.schedule hk hc, sentFresh_nil⟩
    · exact hcancel.publish hc
  | none =>
    have happend :
        Fresh host settings (received ++ [happening]) (connection.identify notice.uri).1 := by
      refine hi.append fun job _ uri hne _ => ?_
      by_contra ho
      rw [identify_of_noticeOf? hn hne ho] at hk
      cases hk
    unfold Connection.handleDocument
    rw [hk]
    dsimp only
    split
    · exact ⟨happend, sentFresh_nil⟩
    · split
      · exact ⟨happend.scheduleLoose hk, sentFresh_nil⟩
      · exact happend.publish hc

end Notices

theorem Fresh.handle (h : Fresh host settings received connection) (message : Value) :
    Fresh host settings (received ++ [.receive message]) (connection.handle message).connection ∧
      SentFresh host settings (received ++ [.receive message])
        (connection.handle message).sent := by
  cases hn : (Happening.receive message).notice? with
  | some notice =>
    cases message with
    | object fields =>
      rw [Connection.handle, handleFields_of_notice hn]
      exact h.handleDocument hn
    | _ => cases hn
  | none =>
    have happend : Fresh host settings (received ++ [.receive message]) connection :=
      h.append fun job _ uri _ _ => by simp [Happening.noticeOf?, hn]
    cases message with
    | object fields =>
      rw [Connection.handle]
      cases hk : (kindOf fields).key? with
      | some key =>
        rw [handleFields_of_key hn (by simp [hk])]
        exact happend.handleRequest _
      | none =>
        rw [handleFields_of_no_key connection hk]
        exact ⟨happend, sentFresh_nil⟩
    | _ => exact ⟨happend, sentFresh_nil⟩

theorem Fresh.pass (h : Fresh host settings received connection) (time : Nat) :
    Fresh host settings received (connection.pass time).connection ∧
      SentFresh host settings received (connection.pass time).sent := by
  refine ⟨?_, sentFresh_of_current fun message hm document findings he => ?_⟩
  · obtain ⟨failures, hc⟩ := connection.pass_connection time
    rw [hc]
    exact h.subset rfl rfl (Debouncer.pending_advance_subset _ _)
      (Debouncer.pending_advance_subset _ _)
  · obtain ⟨revision, found, hr, hf, rfl⟩ := mem_pass hm
    cases he
    refine ⟨revision.text, h.host_eq ▸ h.settings_eq ▸ hf, ?_⟩
    rcases hr with ⟨job, hj, rfl⟩ | ⟨job, hj, rfl⟩
    · exact h.current job hj
    · exact Revision.current_of_no_key (h.loose job hj)

theorem Fresh.step (h : Fresh host settings received connection) (happening : Happening) :
    Fresh host settings (received ++ [happening]) (connection.step happening).connection ∧
      SentFresh host settings (received ++ [happening]) (connection.step happening).sent := by
  have hquiet (hn : happening.notice? = none) :
      Fresh host settings (received ++ [happening]) connection :=
    h.append fun job _ uri _ _ => by simp [Happening.noticeOf?, hn]
  cases happening with
  | receive message =>
    obtain ⟨hfresh, hsent⟩ := h.handle message
    rcases connection.receive_cases message with ⟨-, hr⟩ | ⟨fault, -, hc, hs⟩
    · rw [Connection.step, hr]
      exact ⟨hfresh, hsent⟩
    · rw [Connection.step, hc, hs]
      exact ⟨hfresh.abort fault, hsent.append sentFresh_abort⟩
  | pass time => exact (hquiet rfl).pass time
  | failSends count =>
    exact ⟨(hquiet rfl).subset rfl rfl (List.Subset.refl _) (List.Subset.refl _), sentFresh_nil⟩
  | drop =>
    exact ⟨(hquiet rfl).subset rfl rfl (List.Subset.refl _) (List.Subset.refl _), sentFresh_nil⟩

-- ---------------------------------------------------------------------------
-- Runs
-- ---------------------------------------------------------------------------

theorem fresh_start (h : start? host settings = some connection) :
    Fresh host settings [] connection := by
  rw [start?_eq_some h]
  exact ⟨rfl, rfl, by simp, by simp, by simp⟩

theorem Fresh.silent (h : Fresh host settings received connection)
    (hidle : connection.debouncer.pending = []) (time : Nat) (uri : String)
    (findings : List Finding) :
    .diagnostics (.called uri) findings ∉ (connection.pass time).sent := by
  intro hm
  obtain ⟨revision, found, hr, -, he⟩ := mem_pass hm
  rcases hr with ⟨job, hj, rfl⟩ | ⟨job, hj, rfl⟩
  · rw [hidle] at hj
    cases hj
  · have hk := h.loose job hj
    rw [← (Message.diagnostics.inj he).1] at hk
    cases hk

/-- Diagnostics of a document are those of the text of its last event, and none are sent when the
connection has ended. -/
theorem run_diagnostics_fresh {host : Host} {settings : Settings}
    {connection : Connection Debouncer} (hstart : start? host settings = some connection)
    (script : List Happening) (uri : String) (huri : uri ≠ "") :
    (∀ step messages findings, (connection.run script).2[step]? = some messages →
      .diagnostics (.named (.text uri)) findings ∈ messages →
        ∃ notice, lastNotice? uri (script.take (step + 1)) = some notice ∧
          diagnose host settings notice.text = .ok findings) ∧
    ∀ time findings, .diagnostics (.named (.text uri)) findings ∉
      ((connection.run script).1.pass time).sent := by
  have hrun : connection.status = .running := by rw [start?_eq_some hstart]
  obtain ⟨hsent, all, last, hlast, he⟩ := run_invariant (Fresh host settings)
    (SentFresh host settings) (fun _ _ happening _ h => h.step happening) [] hrun
    (fresh_start hstart) script
  refine ⟨fun step messages findings hs hm => hsent step messages hs uri huri findings hm, ?_⟩
  have hended : Fresh host settings all (connection.run script).1 := by
    rcases he with ⟨he, -⟩ | he
    · rwa [he]
    · rw [he]
      exact hlast.subset rfl rfl (List.nil_subset _) (List.Subset.refl _)
  intro time findings
  exact hended.silent (run_idle hrun script) time uri findings

/-- Two documents change, and the first one changes again before it was looked at. -/
theorem run_diagnostics_fresh_on_second_change :
    let script : List Happening :=
      [.ofEvent "change" "a.sol" "uint x", .ofEvent "change" "b.sol" "", .pass 200,
        .ofEvent "change" "a.sol" "require(tx.origin == owner);", .pass 200, .pass 200]
    ∃ (connection : Connection Debouncer) (findings : List Finding),
      start? {} {} = some connection ∧
      (connection.run script).2[5]? = some [.diagnostics (.named (.text "a.sol")) findings] ∧
      diagnose {} {} (.text "require(tx.origin == owner);") = .ok findings := by
  intro script
  obtain ⟨connection, hstart⟩ :
      ∃ connection : Connection Debouncer, start? {} {} = some connection :=
    Option.isSome_iff_exists.mp (by decide +kernel)
  have hsent : ((connection.run script).2[5]?).map (·.map (·.isAbout "a.sol")) = some [true] := by
    rw [start?_eq_some hstart]
    decide +kernel
  obtain ⟨messages, hm, habout⟩ := Option.map_eq_some_iff.mp hsent
  obtain ⟨message, rfl, hmessage⟩ := List.map_eq_singleton_iff.mp habout
  obtain ⟨findings, rfl⟩ := Message.isAbout_iff.mp hmessage
  refine ⟨connection, findings, hstart, hm, ?_⟩
  obtain ⟨notice, hl, hd⟩ := (run_diagnostics_fresh hstart script "a.sol" (by decide)).1
    5 _ findings hm List.mem_cons_self
  have hlast : lastNotice? "a.sol" (script.take 6) =
      some ⟨.changed, .text "a.sol", .text "require(tx.origin == owner);"⟩ := rfl
  rw [← Option.some.inj (hlast.symm.trans hl)] at hd
  exact hd

end SolidityLint
