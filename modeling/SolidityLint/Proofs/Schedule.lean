import Mathlib.Algebra.Ring.Nat
import Mathlib.Data.List.Basic
import Mathlib.Order.Monotone.Basic
import SolidityLint.Proofs.Connection

/-!
# When documents are published

What a connection has to publish, said of the script of what happens to it: an opened or saved
document in the step of its event, and a changed one in the first step in which the clock reaches
its time, if no event of the document comes before (`Publication.IsDue`). An `Agenda` works this
out step by step (`Agenda.run_isSchedule`), each document on its own (`Agenda.run_apart`).
-/

namespace SolidityLint

-- ---------------------------------------------------------------------------
-- Scripts
-- ---------------------------------------------------------------------------

def Happening.time : Happening → Nat
  | .pass time => time
  | _ => 0

/-- A document event with a name and a text, a request, or time that passes. -/
inductive Happening.Orderly : Happening → Prop
  | event {message : Value} {event : Connection.DocumentEvent} {uri text : String}
    (hn : (Happening.receive message).notice? = some ⟨event, .text uri, .text text⟩)
    (hu : uri ≠ "") : Orderly (.receive message)
  | request {fields : Schema.Fields} (hn : (Happening.receive (.object fields)).notice? = none)
    (hk : (Connection.kindOf fields).key?.isSome) : Orderly (.receive (.object fields))
  | pass (time : Nat) : Orderly (.pass time)

def clockAt (script : List Happening) (step : Nat) : Nat :=
  ((script.take step).map Happening.time).sum

variable {script : List Happening} {happening : Happening} {step : Nat}

theorem clockAt_succ (h : script[step]? = some happening) :
    clockAt script (step + 1) = clockAt script step + happening.time := by
  simp [clockAt, List.take_add_one, h]

theorem clockAt_mono (script : List Happening) : Monotone (clockAt script) := by
  refine monotone_nat_of_le_succ fun step => ?_
  simp [clockAt, List.take_add_one]

/-- The clock is set to a time or past it. -/
def Strikes (script : List Happening) (time step : Nat) : Prop :=
  ∃ passed, script[step]? = some (.pass passed) ∧ time ≤ clockAt script (step + 1)

theorem strikes_pass_iff {time passed : Nat} (h : script[step]? = some (.pass passed)) :
    Strikes script time step ↔ time ≤ clockAt script step + passed := by
  simp [Strikes, h, clockAt_succ h, Happening.time]

theorem not_strikes_receive {time : Nat} {message : Value}
    (h : script[step]? = some (.receive message)) : ¬ Strikes script time step := by
  simp [Strikes, h]

-- ---------------------------------------------------------------------------
-- Publications
-- ---------------------------------------------------------------------------

/-- The findings on a text that are to be published: the step in which the text arrives, and the
time of publication. -/
structure Publication where
  arrival : Nat
  time : Nat
  uri : String
  text : String

namespace Publication

variable {delay : Nat} {publication : Publication}

def ComesWith (script : List Happening) (event : Connection.DocumentEvent)
    (publication : Publication) : Prop :=
  script[publication.arrival]?.bind Happening.notice? =
    some ⟨event, .text publication.uri, .text publication.text⟩

/-- A change that waits when a step begins: there was no event of the document since, and its time
has not come. -/
structure Waiting (delay : Nat) (script : List Happening) (step : Nat) (publication : Publication) :
    Prop where
  changed : publication.ComesWith script .changed
  time_eq : publication.time = clockAt script publication.arrival + delay
  arrival_lt : publication.arrival < step
  quiet : ∀ i, publication.arrival < i → i < step → ∀ happening, script[i]? = some happening →
    happening.noticeOf? publication.uri = none
  early : ∀ i, publication.arrival < i → i < step → ¬ Strikes script publication.time i

/-- What is to be published in a step: the document that is opened or saved in it, and the changes
that wait for a time that comes in it. -/
inductive IsDue (delay : Nat) (script : List Happening) (step : Nat) (publication : Publication) :
    Prop
  | atOnce {event : Connection.DocumentEvent} (hevent : event ≠ .changed)
    (hcomes : publication.ComesWith script event) (harrival : publication.arrival = step)
    (htime : publication.time = clockAt script step)
  | inTime (hwaiting : publication.Waiting delay script step)
    (hstrikes : Strikes script publication.time step)

theorem ComesWith.unique {other : Publication} {event event' : Connection.DocumentEvent}
    (h : publication.ComesWith script event) (h' : other.ComesWith script event')
    (ha : publication.arrival = other.arrival) :
    event = event' ∧ publication.uri = other.uri ∧ publication.text = other.text := by
  unfold ComesWith at h h'
  rw [ha] at h
  have he := Option.some.inj (h.symm.trans h')
  simpa using he

theorem comesWith_iff {event : Connection.DocumentEvent} (h : script[step]? = some happening)
    (ha : publication.arrival = step) :
    publication.ComesWith script event ↔
      happening.notice? = some ⟨event, .text publication.uri, .text publication.text⟩ := by
  simp [ComesWith, ha, h]

/-- A change waits on until there is an event of the document or its time comes. -/
theorem waiting_succ_iff (h : script[step]? = some happening) :
    publication.Waiting delay script (step + 1) ↔
      publication.Waiting delay script step ∧ happening.noticeOf? publication.uri = none ∧
          ¬ Strikes script publication.time step ∨
        publication.arrival = step ∧ publication.ComesWith script .changed ∧
          publication.time = clockAt script step + delay := by
  constructor
  · intro hw
    rcases Nat.lt_succ_iff_lt_or_eq.mp hw.arrival_lt with hlt | heq
    · refine .inl ⟨⟨hw.changed, hw.time_eq, hlt, ?_, ?_⟩, ?_, ?_⟩
      · exact fun i hi his => hw.quiet i hi (Nat.lt_succ_of_lt his)
      · exact fun i hi his => hw.early i hi (Nat.lt_succ_of_lt his)
      · exact hw.quiet step hlt (Nat.lt_succ_self step) happening h
      · exact hw.early step hlt (Nat.lt_succ_self step)
    · exact .inr ⟨heq, hw.changed, heq ▸ hw.time_eq⟩
  · rintro (⟨hw, hquiet, hearly⟩ | ⟨rfl, hchanged, htime⟩)
    · refine ⟨hw.changed, hw.time_eq, Nat.lt_succ_of_lt hw.arrival_lt, ?_, ?_⟩
      · intro i hi his other ho
        rcases Nat.lt_succ_iff_lt_or_eq.mp his with hlt | rfl
        · exact hw.quiet i hi hlt other ho
        · obtain rfl := Option.some.inj (h.symm.trans ho)
          exact hquiet
      · intro i hi his
        rcases Nat.lt_succ_iff_lt_or_eq.mp his with hlt | rfl
        · exact hw.early i hi hlt
        · exact hearly
    · exact ⟨hchanged, htime, Nat.lt_succ_self _, fun i hi his => by omega,
        fun i hi his => by omega⟩

theorem waiting_succ_of_no_notice (h : script[step]? = some happening)
    (hn : happening.notice? = none) :
    publication.Waiting delay script (step + 1) ↔
      publication.Waiting delay script step ∧ ¬ Strikes script publication.time step := by
  have hquiet : happening.noticeOf? publication.uri = none := by
    simp [Happening.noticeOf?, hn]
  rw [waiting_succ_iff h]
  constructor
  · rintro (⟨hw, -, hearly⟩ | ⟨harrival, hcomes, -⟩)
    · exact ⟨hw, hearly⟩
    · rw [comesWith_iff h harrival, hn] at hcomes
      cases hcomes
  · rintro ⟨hw, hearly⟩
    exact .inl ⟨hw, hquiet, hearly⟩

theorem isDue_of_no_notice (h : script[step]? = some happening) (hn : happening.notice? = none) :
    publication.IsDue delay script step ↔
      publication.Waiting delay script step ∧ Strikes script publication.time step := by
  constructor
  · rintro (⟨-, hcomes, harrival, -⟩ | ⟨hw, hstrikes⟩)
    · rw [comesWith_iff h harrival, hn] at hcomes
      cases hcomes
    · exact ⟨hw, hstrikes⟩
  · rintro ⟨hw, hstrikes⟩
    exact .inTime hw hstrikes

section Due

variable {other : Publication} {later : Nat}

end Due

end Publication

-- ---------------------------------------------------------------------------
-- Schedules
-- ---------------------------------------------------------------------------

/-- The list is what is to be published in a step, in order of arrival. -/
structure ListsDue (delay : Nat) (script : List Happening) (step : Nat) (due : List Publication) :
    Prop where
  mem_iff : ∀ publication, publication ∈ due ↔ publication.IsDue delay script step
  sorted : due.Pairwise (·.arrival < ·.arrival)

/-- The changes that wait when a step begins. -/
structure Agenda where
  step : Nat := 0
  clock : Nat := 0
  waiting : List Publication := []

namespace Agenda

variable {delay : Nat} {agenda : Agenda}

def next (delay : Nat) (agenda : Agenda) : Happening → Agenda × List Publication
  | .pass time =>
    ({ step := agenda.step + 1
       clock := agenda.clock + time
       waiting := agenda.waiting.filter (agenda.clock + time < ·.time) },
      agenda.waiting.filter (·.time ≤ agenda.clock + time))
  | happening => match happening.notice? with
    | some ⟨event, .text uri, .text text⟩ =>
      let others := agenda.waiting.filter (·.uri ≠ uri)
      if event = .changed then
        ({ agenda with
           step := agenda.step + 1
           waiting := others ++ [⟨agenda.step, agenda.clock + delay, uri, text⟩] }, [])
      else
        ({ agenda with step := agenda.step + 1, waiting := others },
          [⟨agenda.step, agenda.clock, uri, text⟩])
    | _ => ({ agenda with step := agenda.step + 1 }, [])

theorem next_of_notice {message : Value} {event : Connection.DocumentEvent} {uri text : String}
    (h : (Happening.receive message).notice? = some ⟨event, .text uri, .text text⟩) :
    agenda.next delay (.receive message) =
      if event = .changed then
        ({ agenda with
           step := agenda.step + 1
           waiting := agenda.waiting.filter (·.uri ≠ uri) ++
            [⟨agenda.step, agenda.clock + delay, uri, text⟩] }, [])
      else
        ({ agenda with
           step := agenda.step + 1
           waiting := agenda.waiting.filter (·.uri ≠ uri) },
          [⟨agenda.step, agenda.clock, uri, text⟩]) := by
  simp only [next, h]

theorem next_of_request {message : Value} (h : (Happening.receive message).notice? = none) :
    agenda.next delay (.receive message) = ({ agenda with step := agenda.step + 1 }, []) := by
  simp only [next, h]

theorem step_next (delay : Nat) (agenda : Agenda) (h : happening.Orderly) :
    (agenda.next delay happening).1.step = agenda.step + 1 := by
  cases h with
  | event hn _ => rw [next_of_notice hn]; split <;> rfl
  | request hn _ => rw [next_of_request hn]
  | pass time => rfl

def run (delay : Nat) (agenda : Agenda) : List Happening → List (List Publication)
  | [] => []
  | first :: rest => (agenda.next delay first).2 :: (agenda.next delay first).1.run delay rest

-- ---------------------------------------------------------------------------
-- Agendas keep the changes that wait
-- ---------------------------------------------------------------------------

structure Tracks (delay : Nat) (script : List Happening) (agenda : Agenda) : Prop where
  clock_eq : agenda.clock = clockAt script agenda.step
  mem_iff : ∀ publication,
    publication ∈ agenda.waiting ↔ publication.Waiting delay script agenda.step
  sorted : agenda.waiting.Pairwise (·.arrival < ·.arrival)

theorem Tracks.pass {time : Nat} (h : agenda.Tracks delay script)
    (hs : script[agenda.step]? = some (.pass time)) :
    (agenda.next delay (.pass time)).1.Tracks delay script ∧
      ListsDue delay script agenda.step (agenda.next delay (.pass time)).2 := by
  refine ⟨⟨?_, ?_, h.sorted.filter _⟩, ⟨?_, h.sorted.filter _⟩⟩
  · exact (congrArg (· + time) h.clock_eq).trans (clockAt_succ hs).symm
  · intro publication
    rw [next, Publication.waiting_succ_of_no_notice hs rfl, strikes_pass_iff hs, ← h.clock_eq,
      ← h.mem_iff, List.mem_filter, decide_eq_true_eq, Nat.not_le]
  · intro publication
    rw [next, List.mem_filter, decide_eq_true_eq, h.mem_iff, h.clock_eq, ← strikes_pass_iff hs,
      Publication.isDue_of_no_notice hs rfl]

theorem Tracks.request {message : Value} (h : agenda.Tracks delay script)
    (hs : script[agenda.step]? = some (.receive message))
    (hn : (Happening.receive message).notice? = none) :
    (agenda.next delay (.receive message)).1.Tracks delay script ∧
      ListsDue delay script agenda.step (agenda.next delay (.receive message)).2 := by
  rw [next_of_request hn]
  refine ⟨⟨?_, ?_, h.sorted⟩, ⟨?_, .nil⟩⟩
  · exact h.clock_eq.trans (clockAt_succ hs).symm
  · intro publication
    rw [Publication.waiting_succ_of_no_notice hs hn, ← h.mem_iff]
    simp [not_strikes_receive hs]
  · intro publication
    rw [Publication.isDue_of_no_notice hs hn]
    simp [not_strikes_receive hs]

section Events

variable {message : Value} {event : Connection.DocumentEvent} {uri text : String}

theorem Tracks.mem_others (h : agenda.Tracks delay script)
    (hs : script[agenda.step]? = some (.receive message))
    (hn : (Happening.receive message).notice? = some ⟨event, .text uri, .text text⟩)
    (publication : Publication) :
    publication ∈ agenda.waiting.filter (·.uri ≠ uri) ↔
      publication.Waiting delay script agenda.step ∧
        (Happening.receive message).noticeOf? publication.uri = none ∧
          ¬ Strikes script publication.time agenda.step := by
  simp [h.mem_iff, Happening.noticeOf?_eq_none hn, not_strikes_receive hs, eq_comm (a := uri)]

theorem Tracks.changed (h : agenda.Tracks delay script)
    (hs : script[agenda.step]? = some (.receive message))
    (hn : (Happening.receive message).notice? = some ⟨.changed, .text uri, .text text⟩) :
    (agenda.next delay (.receive message)).1.Tracks delay script ∧
      ListsDue delay script agenda.step (agenda.next delay (.receive message)).2 := by
  rw [next_of_notice hn, if_pos rfl]
  refine ⟨⟨h.clock_eq.trans (clockAt_succ hs).symm, fun publication => ?_, ?_⟩,
    ⟨fun publication => ?_, .nil⟩⟩
  · rw [Publication.waiting_succ_iff hs, List.mem_append, h.mem_others hs hn, List.mem_singleton]
    refine or_congr_right ⟨?_, ?_⟩
    · rintro rfl
      exact ⟨rfl, (Publication.comesWith_iff hs rfl).mpr hn, h.clock_eq ▸ rfl⟩
    · obtain ⟨arrival, time, name, body⟩ := publication
      rintro ⟨rfl, hcomes, rfl⟩
      rw [Publication.comesWith_iff hs rfl, hn] at hcomes
      cases hcomes
      rw [h.clock_eq]
  · refine List.pairwise_append.mpr ⟨h.sorted.filter _, List.pairwise_singleton _ _, ?_⟩
    intro first hf last hl
    obtain rfl := List.mem_singleton.mp hl
    exact ((h.mem_others hs hn first).mp hf).1.arrival_lt
  · constructor
    · intro hp
      cases hp
    · rintro (⟨hevent, hcomes, harrival, -⟩ | ⟨-, hstrikes⟩)
      · rw [Publication.comesWith_iff hs harrival, hn] at hcomes
        cases hcomes
        exact absurd rfl hevent
      · exact absurd hstrikes (not_strikes_receive hs)

theorem Tracks.atOnce (h : agenda.Tracks delay script)
    (hs : script[agenda.step]? = some (.receive message))
    (hn : (Happening.receive message).notice? = some ⟨event, .text uri, .text text⟩)
    (hevent : event ≠ .changed) :
    (agenda.next delay (.receive message)).1.Tracks delay script ∧
      ListsDue delay script agenda.step (agenda.next delay (.receive message)).2 := by
  rw [next_of_notice hn, if_neg hevent]
  refine ⟨⟨h.clock_eq.trans (clockAt_succ hs).symm, fun publication => ?_, h.sorted.filter _⟩,
    ⟨fun publication => ?_, List.pairwise_singleton _ _⟩⟩
  · rw [Publication.waiting_succ_iff hs, h.mem_others hs hn]
    refine ⟨.inl, fun hp => hp.resolve_right ?_⟩
    rintro ⟨harrival, hcomes, -⟩
    rw [Publication.comesWith_iff hs harrival, hn] at hcomes
    cases hcomes
    exact hevent rfl
  · rw [List.mem_singleton]
    constructor
    · rintro rfl
      exact .atOnce hevent ((Publication.comesWith_iff hs rfl).mpr hn) rfl h.clock_eq
    · obtain ⟨arrival, time, name, body⟩ := publication
      rintro (⟨-, hcomes, rfl, rfl⟩ | ⟨-, hstrikes⟩)
      · rw [Publication.comesWith_iff hs rfl, hn] at hcomes
        cases hcomes
        rw [h.clock_eq]
      · exact absurd hstrikes (not_strikes_receive hs)

end Events

theorem Tracks.next (h : agenda.Tracks delay script) (hs : script[agenda.step]? = some happening)
    (ho : happening.Orderly) :
    (agenda.next delay happening).1.Tracks delay script ∧
      ListsDue delay script agenda.step (agenda.next delay happening).2 := by
  cases ho with
  | @event _ event _ _ hn _ =>
    by_cases hevent : event = .changed
    · exact h.changed hs (hevent ▸ hn)
    · exact h.atOnce hs hn hevent
  | request hn _ => exact h.request hs hn
  | pass time => exact h.pass hs

/-- A run of an agenda lists what is to be published in each step. -/
theorem Tracks.run {rest : List Happening} (h : agenda.Tracks delay script)
    (hr : script.drop agenda.step = rest) (ho : ∀ happening ∈ rest, happening.Orderly)
    (i : Nat) (due : List Publication) (hi : (agenda.run delay rest)[i]? = some due) :
    ListsDue delay script (agenda.step + i) due := by
  induction rest generalizing agenda i with
  | nil => simp [Agenda.run] at hi
  | cons first rest ih =>
    have hs : script[agenda.step]? = some first := by
      rw [← List.head?_drop, hr]
      rfl
    have hfirst := ho first List.mem_cons_self
    obtain ⟨htracks, hlists⟩ := h.next hs hfirst
    cases i with
    | zero =>
      obtain rfl : (agenda.next delay first).2 = due := by simpa [Agenda.run] using hi
      exact hlists
    | succ i =>
      have hstep := step_next delay agenda hfirst
      have hdrop : script.drop (agenda.next delay first).1.step = rest := by
        rw [hstep, ← List.drop_drop, hr]
        rfl
      have hlater := ih htracks hdrop (fun other hm => ho other (List.mem_cons_of_mem _ hm)) i
        (by simpa [Agenda.run] using hi)
      rw [hstep] at hlater
      rwa [Nat.add_right_comm] at hlater

end Agenda

-- ---------------------------------------------------------------------------
-- Documents do not disturb each other
-- ---------------------------------------------------------------------------

/-- Time passes, or there is an event of the document called `uri`. -/
def Happening.concerns (uri : String) : Happening → Bool
  | .pass _ => true
  | happening => (happening.noticeOf? uri).isSome

def stepsOf {α : Type} (uri : String) (script : List Happening) (steps : List α) : List α :=
  ((script.zip steps).filter (·.1.concerns uri)).map (·.2)

section Apart

variable {uri : String}

theorem stepsOf_cons {α : Type} (first : α) (steps : List α) :
    stepsOf uri (happening :: script) (first :: steps) =
      if happening.concerns uri then first :: stepsOf uri script steps
      else stepsOf uri script steps := by
  by_cases h : happening.concerns uri = true <;> simp [stepsOf, h]

def ofDocument (uri : String) (publications : List Publication) : List (Nat × String) :=
  (publications.filter (·.uri = uri)).map fun publication => (publication.time, publication.text)

theorem ofDocument_append (first second : List Publication) :
    ofDocument uri (first ++ second) = ofDocument uri first ++ ofDocument uri second := by
  simp [ofDocument]

theorem ofDocument_singleton (publication : Publication) :
    ofDocument uri [publication] =
      if publication.uri = uri then [(publication.time, publication.text)] else [] := by
  by_cases h : publication.uri = uri <;> simp [ofDocument, h]

theorem ofDocument_filter_time (p : Nat → Bool) (publications : List Publication) :
    ofDocument uri (publications.filter fun publication => p publication.time) =
      (ofDocument uri publications).filter fun entry => p entry.1 := by
  simp only [ofDocument, List.filter_map, List.filter_filter, Function.comp_def, Bool.and_comm]

theorem ofDocument_filter_uri (other : String) (publications : List Publication) :
    ofDocument uri (publications.filter (·.uri ≠ other)) =
      if uri = other then [] else ofDocument uri publications := by
  unfold ofDocument
  rw [List.filter_filter]
  split
  · rename_i h
    simp [h]
  · rename_i h
    congr 1
    refine List.filter_congr fun publication _ => ?_
    by_cases hp : publication.uri = uri <;> simp [hp, h]

namespace Agenda

variable {delay : Nat} {agenda other : Agenda}

structure Alike (uri : String) (agenda other : Agenda) : Prop where
  clock_eq : agenda.clock = other.clock
  waiting_eq : ofDocument uri agenda.waiting = ofDocument uri other.waiting

theorem Alike.next_of_concerns (h : Alike uri agenda other) (delay : Nat)
    (ho : happening.Orderly) (hc : happening.concerns uri) :
    Alike uri (agenda.next delay happening).1 (other.next delay happening).1 ∧
      ofDocument uri (agenda.next delay happening).2 =
        ofDocument uri (other.next delay happening).2 := by
  cases ho with
  | event hn _ =>
    rw [next_of_notice hn, next_of_notice hn]
    split
    · refine ⟨⟨h.clock_eq, ?_⟩, rfl⟩
      simp only [ofDocument_append, ofDocument_filter_uri, ofDocument_singleton, h.waiting_eq,
        h.clock_eq]
    · refine ⟨⟨h.clock_eq, ?_⟩, ?_⟩
      · simp only [ofDocument_filter_uri, h.waiting_eq]
      · simp only [ofDocument_singleton, h.clock_eq]
  | request hn _ => simp [Happening.concerns, Happening.noticeOf?, hn] at hc
  | pass time =>
    have hclock : agenda.clock + time = other.clock + time := congrArg (· + time) h.clock_eq
    refine ⟨⟨hclock, ?_⟩, ?_⟩
    · rw [next, next, ofDocument_filter_time (fun t => agenda.clock + time < t),
        ofDocument_filter_time (fun t => other.clock + time < t), h.waiting_eq, hclock]
    · rw [next, next, ofDocument_filter_time (fun t => t ≤ agenda.clock + time),
        ofDocument_filter_time (fun t => t ≤ other.clock + time), h.waiting_eq, hclock]

theorem Alike.next_of_not_concerns (h : Alike uri agenda other) (delay : Nat)
    (ho : happening.Orderly) (hc : happening.concerns uri = false) :
    Alike uri (agenda.next delay happening).1 other ∧
      ofDocument uri (agenda.next delay happening).2 = [] := by
  cases ho with
  | @event message event name text hn _ =>
    have hname : uri ≠ name := by
      have hnone : (Happening.receive message).noticeOf? uri = none := by
        simpa [Happening.concerns] using hc
      rw [Happening.noticeOf?_eq_none hn] at hnone
      exact fun he => hnone (congrArg Value.text he.symm)
    rw [next_of_notice hn]
    split
    · refine ⟨⟨h.clock_eq, ?_⟩, rfl⟩
      rw [ofDocument_append, ofDocument_filter_uri, if_neg hname, h.waiting_eq,
        ofDocument_singleton, if_neg hname.symm, List.append_nil]
    · refine ⟨⟨h.clock_eq, ?_⟩, ?_⟩
      · rw [ofDocument_filter_uri, if_neg hname, h.waiting_eq]
      · rw [ofDocument_singleton, if_neg hname.symm]
  | request hn _ =>
    rw [next_of_request hn]
    exact ⟨⟨h.clock_eq, h.waiting_eq⟩, rfl⟩
  | pass time => cases hc

theorem Alike.run (h : Alike uri agenda other) (ho : ∀ happening ∈ script, happening.Orderly) :
    stepsOf uri script ((agenda.run delay script).map (ofDocument uri)) =
      (other.run delay (script.filter (Happening.concerns uri))).map (ofDocument uri) := by
  induction script generalizing agenda other with
  | nil => rfl
  | cons first rest ih =>
    have hfirst := ho first List.mem_cons_self
    have hrest : ∀ happening ∈ rest, happening.Orderly :=
      fun happening hm => ho happening (List.mem_cons_of_mem _ hm)
    rw [Agenda.run, List.map_cons, stepsOf_cons]
    cases hc : first.concerns uri with
    | true =>
      obtain ⟨halike, hdue⟩ := h.next_of_concerns delay hfirst hc
      rw [List.filter_cons_of_pos hc, Agenda.run, List.map_cons, if_pos rfl, ih halike hrest, hdue]
    | false =>
      obtain ⟨halike, -⟩ := h.next_of_not_concerns delay hfirst hc
      rw [List.filter_cons_of_neg (by simp [hc]), if_neg (by simp), ih halike hrest]

end Agenda

end Apart

end SolidityLint
