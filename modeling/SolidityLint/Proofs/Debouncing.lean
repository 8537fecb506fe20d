import Mathlib.Algebra.Ring.Nat
import Mathlib.Data.Set.Card
import Mathlib.Order.Monotone.Basic
import SolidityLint.Service.Debouncer

/-!
# When debounced tasks run

Said of a list of commands alone: a task runs in the first step that sets the clock to its time or
past it, if no command before takes it away (`Booking.RunsIn`), and its key is pending until then
(`Pends`). The answers of a debouncer say just that, and all tasks run in the order in which they
were scheduled (`Tracks.performAll`, `isExact_of_answers`).
-/

namespace SolidityLint.Debouncer

variable {κ α : Type}

-- ---------------------------------------------------------------------------
-- Pending jobs
-- ---------------------------------------------------------------------------

section Pending

variable {debouncer : Debouncer κ α} {job : Job κ α}

@[simp] theorem now_advance (debouncer : Debouncer κ α) (time : Nat) :
    (debouncer.advance time).1.now = debouncer.now + time := by
  simp [advance]

@[simp] theorem delay_advance (debouncer : Debouncer κ α) (time : Nat) :
    (debouncer.advance time).1.delay = debouncer.delay := by
  simp [advance]

theorem pending_advance (debouncer : Debouncer κ α) (time : Nat) :
    (debouncer.advance time).1.pending =
      debouncer.pending.filter fun job => !decide (job.due ≤ debouncer.now + time) := by
  simp [advance, List.partition_eq_filter_filter, Function.comp_def]

theorem tasks_advance (debouncer : Debouncer κ α) (time : Nat) :
    (debouncer.advance time).2 =
      (debouncer.pending.filter fun job => job.due ≤ debouncer.now + time).map (·.task) := by
  simp [advance, List.partition_eq_filter_filter]

theorem pending_advance_subset (debouncer : Debouncer κ α) (time : Nat) :
    (debouncer.advance time).1.pending ⊆ debouncer.pending := by
  rw [pending_advance]
  exact List.filter_subset_self _

theorem mem_tasks_advance {task : α} {time : Nat} (h : task ∈ (debouncer.advance time).2) :
    ∃ job ∈ debouncer.pending, job.task = task := by
  rw [tasks_advance] at h
  obtain ⟨job, hj, rfl⟩ := List.mem_map.mp h
  exact ⟨job, (List.mem_filter.mp hj).1, rfl⟩

variable [BEq κ]

theorem pending_cancel (debouncer : Debouncer κ α) (key : κ) :
    (debouncer.cancel key).pending = debouncer.pending.filter fun job => !job.key == key := rfl

theorem pending_schedule (debouncer : Debouncer κ α) (key : κ) (task : α) :
    (debouncer.schedule key task).pending =
      (debouncer.cancel key).pending ++ [⟨key, debouncer.now + debouncer.delay, task⟩] := rfl

theorem pending_schedule_of_nil (h : debouncer.pending = []) (key : κ) (task : α) :
    (debouncer.schedule key task).pending =
      [⟨key, debouncer.now + debouncer.delay, task⟩] := by
  rw [pending_schedule, pending_cancel, h]
  rfl

theorem mem_pending_cancel [LawfulBEq κ] {key : κ} :
    job ∈ (debouncer.cancel key).pending ↔ job ∈ debouncer.pending ∧ job.key ≠ key := by
  simp [pending_cancel]

theorem mem_pending_schedule [LawfulBEq κ] {key : κ} {task : α} :
    job ∈ (debouncer.schedule key task).pending ↔
      job ∈ debouncer.pending ∧ job.key ≠ key ∨
        job = ⟨key, debouncer.now + debouncer.delay, task⟩ := by
  simp [pending_schedule, mem_pending_cancel]

end Pending

-- ---------------------------------------------------------------------------
-- Commands
-- ---------------------------------------------------------------------------

def Command.time : Command κ α → Nat
  | .advance time => time
  | _ => 0

def Command.Drops (key : κ) : Command κ α → Prop
  | .schedule other _ => other = key
  | .cancel other => other = key
  | .cancelAll => True
  | .advance _ => False
  | .idle => False

def clockAt (commands : List (Command κ α)) (step : Nat) : Nat :=
  ((commands.take step).map Command.time).sum

variable {commands : List (Command κ α)} {command : Command κ α} {step : Nat}

theorem clockAt_succ (h : commands[step]? = some command) :
    clockAt commands (step + 1) = clockAt commands step + command.time := by
  simp [clockAt, List.take_add_one, h]

theorem clockAt_mono (commands : List (Command κ α)) : Monotone (clockAt commands) := by
  refine monotone_nat_of_le_succ fun step => ?_
  simp [clockAt, List.take_add_one]

-- ---------------------------------------------------------------------------
-- Bookings
-- ---------------------------------------------------------------------------

structure Booking (κ α : Type) where
  start : Nat
  key : κ
  task : α

namespace Booking

variable {delay : Nat} {booking other : Booking κ α}

def time (delay : Nat) (commands : List (Command κ α)) (booking : Booking κ α) : Nat :=
  clockAt commands booking.start + delay

/-- The clock is set to the time of the task or past it. -/
def Strikes (delay : Nat) (commands : List (Command κ α)) (step : Nat) (booking : Booking κ α) :
    Prop :=
  ∃ passed, commands[step]? = some (.advance passed) ∧
    booking.time delay commands ≤ clockAt commands (step + 1)

/-- The task was scheduled, and no command before the step takes it away. -/
structure Stands (commands : List (Command κ α)) (step : Nat) (booking : Booking κ α) : Prop where
  scheduled : commands[booking.start]? = some (.schedule booking.key booking.task)
  start_lt : booking.start < step
  kept : ∀ i, booking.start < i → i < step → ∀ command, commands[i]? = some command →
    ¬ command.Drops booking.key

/-- The clock strikes for the task for the first time, and nothing has taken it away. -/
structure RunsIn (delay : Nat) (commands : List (Command κ α)) (step : Nat)
    (booking : Booking κ α) : Prop where
  stands : booking.Stands commands step
  strikes : booking.Strikes delay commands step
  first : ∀ i, booking.start < i → i < step → ¬ booking.Strikes delay commands i

/-- When the step begins, the task has neither run nor been taken away. -/
structure Waits (delay : Nat) (commands : List (Command κ α)) (step : Nat)
    (booking : Booking κ α) : Prop where
  stands : booking.Stands commands step
  not_run : ∀ i < step, ¬ booking.RunsIn delay commands i

theorem strikes_iff {passed : Nat} (h : commands[step]? = some (.advance passed)) :
    booking.Strikes delay commands step ↔
      booking.time delay commands ≤ clockAt commands step + passed := by
  simp [Strikes, h, clockAt_succ h, Command.time]

theorem not_strikes (h : commands[step]? = some command)
    (hc : ∀ passed, command ≠ .advance passed) : ¬ booking.Strikes delay commands step := by
  rintro ⟨passed, hp, -⟩
  exact hc passed (Option.some.inj (h.symm.trans hp))

theorem Stands.earlier (h : booking.Stands commands step) {i : Nat} (hi : booking.start < i)
    (his : i ≤ step) : booking.Stands commands i :=
  ⟨h.scheduled, hi, fun j hj hji => h.kept j hj (hji.trans_le his)⟩

theorem waits_iff :
    booking.Waits delay commands step ↔
      booking.Stands commands step ∧
        ∀ i, booking.start < i → i < step → ¬ booking.Strikes delay commands i := by
  constructor
  · intro h
    refine ⟨h.stands, fun i => ?_⟩
    -- The first stroke of the clock would have run the task.
    induction i using Nat.strong_induction_on with
    | _ i ih =>
      intro hi his hstrikes
      exact h.not_run i his ⟨h.stands.earlier hi his.le, hstrikes,
        fun j hj hji => ih j hji hj (hji.trans his)⟩
  · rintro ⟨hstands, hearly⟩
    exact ⟨hstands, fun i his hruns => hearly i hruns.stands.start_lt his hruns.strikes⟩

theorem runsIn_iff :
    booking.RunsIn delay commands step ↔
      booking.Waits delay commands step ∧ booking.Strikes delay commands step := by
  rw [waits_iff]
  constructor
  · intro h
    exact ⟨⟨h.stands, h.first⟩, h.strikes⟩
  · rintro ⟨⟨hstands, hfirst⟩, hstrikes⟩
    exact ⟨hstands, hstrikes, hfirst⟩

/-- A task waits on until it is taken away or its time comes. -/
theorem waits_succ_iff (h : commands[step]? = some command) :
    booking.Waits delay commands (step + 1) ↔
      booking.Waits delay commands step ∧ ¬ command.Drops booking.key ∧
          ¬ booking.Strikes delay commands step ∨
        booking.start = step ∧ command = .schedule booking.key booking.task := by
  rw [waits_iff, waits_iff]
  constructor
  · rintro ⟨hstands, hearly⟩
    rcases Nat.lt_succ_iff_lt_or_eq.mp hstands.start_lt with hlt | heq
    · refine .inl ⟨⟨hstands.earlier hlt (Nat.le_succ step), ?_⟩, ?_, ?_⟩
      · exact fun i hi his => hearly i hi (Nat.lt_succ_of_lt his)
      · exact hstands.kept step hlt (Nat.lt_succ_self step) command h
      · exact hearly step hlt (Nat.lt_succ_self step)
    · have hscheduled := hstands.scheduled
      rw [heq, h] at hscheduled
      exact .inr ⟨heq, Option.some.inj hscheduled⟩
  · rintro (⟨⟨hstands, hearly⟩, hkept, hstrikes⟩ | ⟨rfl, rfl⟩)
    · refine ⟨⟨hstands.scheduled, Nat.lt_succ_of_lt hstands.start_lt, ?_⟩, ?_⟩
      · intro i hi his other ho
        rcases Nat.lt_succ_iff_lt_or_eq.mp his with hlt | rfl
        · exact hstands.kept i hi hlt other ho
        · obtain rfl := Option.some.inj (h.symm.trans ho)
          exact hkept
      · intro i hi his
        rcases Nat.lt_succ_iff_lt_or_eq.mp his with hlt | rfl
        · exact hearly i hi hlt
        · exact hstrikes
    · exact ⟨⟨h, Nat.lt_succ_self _, fun i hi his => by omega⟩, fun i hi his => by omega⟩

theorem waits_succ_iff_of_ne (h : commands[step]? = some command)
    (hc : ∀ key task, command ≠ .schedule key task) :
    booking.Waits delay commands (step + 1) ↔
      booking.Waits delay commands step ∧ ¬ command.Drops booking.key ∧
        ¬ booking.Strikes delay commands step := by
  rw [waits_succ_iff h]
  exact ⟨fun hw => hw.resolve_right fun hnew => hc _ _ hnew.2, .inl⟩

theorem Waits.eq_of_key_eq (h : booking.Waits delay commands step)
    (h' : other.Waits delay commands step) (hkey : booking.key = other.key) :
    booking = other := by
  rcases Nat.lt_trichotomy booking.start other.start with hlt | heq | hgt
  · exact absurd hkey.symm
      (h.stands.kept other.start hlt h'.stands.start_lt _ h'.stands.scheduled)
  · have hsame := h.stands.scheduled
    rw [heq, h'.stands.scheduled] at hsame
    obtain ⟨start, key, task⟩ := booking
    obtain ⟨start', key', task'⟩ := other
    cases hsame
    cases heq
    rfl
  · exact absurd hkey
      (h'.stands.kept booking.start hgt h.stands.start_lt _ h.stands.scheduled)

theorem RunsIn.start_lt {later : Nat} (h : booking.RunsIn delay commands step)
    (h' : other.RunsIn delay commands later) (hlt : step < later) :
    booking.start < other.start := by
  by_contra hge
  have hle : other.start ≤ booking.start := Nat.le_of_not_lt hge
  obtain ⟨passed, hp, htime⟩ := h.strikes
  -- The stroke that ran the one would have run the other as well.
  refine h'.first step (hle.trans_lt h.stands.start_lt) hlt ⟨passed, hp, ?_⟩
  calc other.time delay commands ≤ booking.time delay commands :=
        Nat.add_le_add_right (clockAt_mono commands hle) delay
    _ ≤ clockAt commands (step + 1) := htime

end Booking

-- ---------------------------------------------------------------------------
-- Exact answers
-- ---------------------------------------------------------------------------

/-- The latest task of the key has neither run nor been taken away when the step begins. -/
def Pends (delay : Nat) (commands : List (Command κ α)) (step : Nat) (key : κ) : Prop :=
  ∃ booking : Booking κ α, booking.key = key ∧ booking.Waits delay commands step

/-- The answer in a step in which these tasks start. -/
structure IsAnswer (delay : Nat) (commands : List (Command κ α)) (step : Nat)
    (started : List (Booking κ α)) (answer : Answer α) : Prop where
  ran_eq : answer.ran = started.map Booking.task
  mem_iff : ∀ booking, booking ∈ started ↔ booking.RunsIn delay commands step
  sorted : started.Pairwise (·.start < ·.start)
  cancelled_iff : answer.cancelled = true ↔
    ∃ key, commands[step]? = some (.cancel key) ∧ Pends delay commands step key
  pending_eq : (answer.pending : ℕ∞) = {key | Pends delay commands (step + 1) key}.encard

variable {delay : Nat}

def Booking.job (delay : Nat) (commands : List (Command κ α)) (booking : Booking κ α) : Job κ α :=
  ⟨booking.key, booking.time delay commands, booking.task⟩

/-- The debouncer when a step begins. -/
structure Tracks (delay : Nat) (commands : List (Command κ α)) (step : Nat)
    (waiting : List (Booking κ α)) (debouncer : Debouncer κ α) : Prop where
  delay_eq : debouncer.delay = delay
  now_eq : debouncer.now = clockAt commands step
  pending_eq : debouncer.pending = waiting.map (Booking.job delay commands)
  mem_iff : ∀ booking, booking ∈ waiting ↔ booking.Waits delay commands step
  sorted : waiting.Pairwise (·.start < ·.start)

namespace Tracks

variable {waiting : List (Booking κ α)} {debouncer : Debouncer κ α} {key : κ}

theorem pends_iff (h : Tracks delay commands step waiting debouncer) :
    Pends delay commands step key ↔ key ∈ waiting.map Booking.key := by
  simp [Pends, h.mem_iff, and_comm]

theorem nodup_keys (h : Tracks delay commands step waiting debouncer) :
    (waiting.map Booking.key).Nodup := by
  refine List.pairwise_map.mpr (h.sorted.imp_of_mem fun ha hb hlt hkey => ?_)
  obtain rfl := ((h.mem_iff _).mp ha).eq_of_key_eq ((h.mem_iff _).mp hb) hkey
  exact absurd hlt (Nat.lt_irrefl _)

theorem encard_pends [DecidableEq κ] (h : Tracks delay commands step waiting debouncer) :
    (debouncer.pending.length : ℕ∞) = {key | Pends delay commands step key}.encard := by
  have hset : {key | Pends delay commands step key} =
      ((waiting.map Booking.key).toFinset : Set κ) := by
    ext key
    rw [Set.mem_ofPred_eq, h.pends_iff, Finset.mem_coe, List.mem_toFinset]
  rw [hset, Set.encard_coe_eq_coe_finsetCard, List.toFinset_card_of_nodup h.nodup_keys,
    h.pending_eq, List.length_map, List.length_map]

theorem cancelAll (h : Tracks delay commands step waiting debouncer)
    (hs : commands[step]? = some .cancelAll) :
    Tracks delay commands (step + 1) [] debouncer.cancelAll := by
  refine ⟨h.delay_eq, h.now_eq.trans (clockAt_succ hs).symm, rfl, fun booking => ?_, .nil⟩
  rw [Booking.waits_succ_iff_of_ne hs (fun _ _ => nofun)]
  simp [Command.Drops]

theorem advance {time : Nat} (h : Tracks delay commands step waiting debouncer)
    (hs : commands[step]? = some (.advance time)) :
    Tracks delay commands (step + 1)
      (waiting.filter fun booking => !decide (booking.time delay commands ≤ debouncer.now + time))
      (debouncer.advance time).1 := by
  refine ⟨?_, ?_, ?_, fun booking => ?_, h.sorted.filter _⟩
  · rw [delay_advance, h.delay_eq]
  · rw [now_advance, h.now_eq, clockAt_succ hs]
    rfl
  · rw [pending_advance, h.pending_eq, List.filter_map]
    rfl
  · rw [Booking.waits_succ_iff_of_ne hs (fun _ _ => nofun), Booking.strikes_iff hs, ← h.now_eq,
      List.mem_filter, h.mem_iff]
    simp [Command.Drops]

theorem idle (h : Tracks delay commands step waiting debouncer)
    (hs : commands[step]? = some .idle) :
    Tracks delay commands (step + 1) waiting debouncer := by
  refine ⟨h.delay_eq, h.now_eq.trans (clockAt_succ hs).symm, h.pending_eq, fun booking => ?_,
    h.sorted⟩
  have hstrikes : ¬ booking.Strikes delay commands step :=
    Booking.not_strikes hs (fun _ => nofun)
  rw [Booking.waits_succ_iff_of_ne hs (fun _ _ => nofun), h.mem_iff]
  simp [Command.Drops, hstrikes]

variable [DecidableEq κ]

theorem mem_others (h : Tracks delay commands step waiting debouncer)
    (hs : commands[step]? = some command) (hdrops : ∀ other, command.Drops other ↔ key = other)
    (hc : ∀ passed, command ≠ .advance passed) (booking : Booking κ α) :
    booking ∈ waiting.filter (!·.key == key) ↔
      booking.Waits delay commands step ∧ ¬ command.Drops booking.key ∧
        ¬ booking.Strikes delay commands step := by
  have hstrikes : ¬ booking.Strikes delay commands step := Booking.not_strikes hs hc
  simp [h.mem_iff, hdrops, hstrikes, eq_comm (a := key)]

theorem pending_others (h : Tracks delay commands step waiting debouncer) (key : κ) :
    (debouncer.cancel key).pending =
      (waiting.filter (!·.key == key)).map (Booking.job delay commands) := by
  rw [pending_cancel, h.pending_eq, List.filter_map]
  rfl

theorem schedule {task : α} (h : Tracks delay commands step waiting debouncer)
    (hs : commands[step]? = some (.schedule key task)) :
    Tracks delay commands (step + 1) (waiting.filter (!·.key == key) ++ [⟨step, key, task⟩])
      (debouncer.schedule key task) := by
  have hothers := h.mem_others hs (fun _ => Iff.rfl) (fun _ => nofun)
  refine ⟨h.delay_eq, h.now_eq.trans (clockAt_succ hs).symm, ?_, fun booking => ?_, ?_⟩
  · rw [pending_schedule, h.pending_others, List.map_append, h.now_eq, h.delay_eq]
    rfl
  · rw [List.mem_append, hothers, Booking.waits_succ_iff hs, List.mem_singleton]
    refine or_congr_right ⟨?_, ?_⟩
    · rintro rfl
      exact ⟨rfl, rfl⟩
    · obtain ⟨start, other, job⟩ := booking
      rintro ⟨rfl, hsame⟩
      cases hsame
      rfl
  · refine List.pairwise_append.mpr ⟨h.sorted.filter _, List.pairwise_singleton _ _, ?_⟩
    intro first hf last hl
    obtain rfl := List.mem_singleton.mp hl
    exact ((hothers first).mp hf).1.stands.start_lt

theorem cancel (h : Tracks delay commands step waiting debouncer)
    (hs : commands[step]? = some (.cancel key)) :
    Tracks delay commands (step + 1) (waiting.filter (!·.key == key)) (debouncer.cancel key) := by
  refine ⟨h.delay_eq, h.now_eq.trans (clockAt_succ hs).symm, h.pending_others key,
    fun booking => ?_, h.sorted.filter _⟩
  rw [h.mem_others hs (fun _ => Iff.rfl) (fun _ => nofun),
    Booking.waits_succ_iff_of_ne hs (fun _ _ => nofun)]

theorem isAnswer_of_ne {answer : Answer α} {next : Debouncer κ α}
    (hnext : Tracks delay commands (step + 1) waiting next) (hs : commands[step]? = some command)
    (hc : ∀ passed, command ≠ .advance passed) (hran : answer.ran = [])
    (hcancelled : answer.cancelled = true ↔
      ∃ key, command = .cancel key ∧ Pends delay commands step key)
    (hpending : answer.pending = next.pending.length) :
    IsAnswer delay commands step [] answer := by
  refine ⟨hran, fun booking => ?_, .nil, ?_, hpending ▸ hnext.encard_pends⟩
  · have hstrikes : ¬ booking.Strikes delay commands step := Booking.not_strikes hs hc
    simp [Booking.runsIn_iff, hstrikes]
  · simpa [hs] using hcancelled

theorem isPending_iff (h : Tracks delay commands step waiting debouncer) :
    debouncer.isPending key = true ↔ Pends delay commands step key := by
  rw [h.pends_iff, isPending, h.pending_eq]
  simp [Booking.job]

theorem perform (h : Tracks delay commands step waiting debouncer)
    (hs : commands[step]? = some command) :
    ∃ waiting' started, Tracks delay commands (step + 1) waiting' (debouncer.perform command).1 ∧
      IsAnswer delay commands step started (debouncer.perform command).2 := by
  cases command with
  | schedule key task =>
    have hnext := h.schedule hs
    exact ⟨_, [], hnext, hnext.isAnswer_of_ne hs (fun _ => nofun) rfl (by simp [Debouncer.perform])
      rfl⟩
  | cancel key =>
    have hnext := h.cancel hs
    refine ⟨_, [], hnext, hnext.isAnswer_of_ne hs (fun _ => nofun) rfl ?_ rfl⟩
    simpa [Debouncer.perform] using h.isPending_iff
  | cancelAll =>
    have hnext := h.cancelAll hs
    exact ⟨_, [], hnext, hnext.isAnswer_of_ne hs (fun _ => nofun) rfl (by simp [Debouncer.perform])
      rfl⟩
  | advance time =>
    have hnext := h.advance hs
    refine ⟨_, waiting.filter fun booking => booking.time delay commands ≤ debouncer.now + time,
      hnext, ?_, fun booking => ?_, h.sorted.filter _, ?_, hnext.encard_pends⟩
    · show (debouncer.advance time).2 = _
      rw [tasks_advance, h.pending_eq, List.filter_map, List.map_map]
      rfl
    · rw [List.mem_filter, h.mem_iff, decide_eq_true_eq, Booking.runsIn_iff,
        Booking.strikes_iff hs, h.now_eq]
    · simp [hs, Debouncer.perform]
  | idle =>
    have hnext := h.idle hs
    exact ⟨_, [], hnext, hnext.isAnswer_of_ne hs (fun _ => nofun) rfl (by simp [Debouncer.perform])
      rfl⟩

theorem performAll {rest : List (Command κ α)} (h : Tracks delay commands step waiting debouncer)
    (hr : commands.drop step = rest) :
    ∃ starts : List (List (Booking κ α)), starts.length = rest.length ∧
      (debouncer.performAll rest).length = rest.length ∧
      ∀ i started answer, starts[i]? = some started →
        (debouncer.performAll rest)[i]? = some answer →
          IsAnswer delay commands (step + i) started answer := by
  induction rest generalizing step waiting debouncer with
  | nil => exact ⟨[], rfl, rfl, fun i started answer hi => by simp at hi⟩
  | cons first rest ih =>
    have hs : commands[step]? = some first := by
      rw [← List.head?_drop, hr]
      rfl
    have hdrop : commands.drop (step + 1) = rest := by
      rw [← List.drop_drop, hr]
      rfl
    obtain ⟨waiting', started, hnext, hfirst⟩ := h.perform hs
    obtain ⟨starts, hlength, hanswers, hlater⟩ := ih hnext hdrop
    refine ⟨started :: starts, congrArg (· + 1) hlength, congrArg (· + 1) hanswers, ?_⟩
    intro i begun answer hi ha
    cases i with
    | zero =>
      obtain rfl := Option.some.inj hi
      obtain rfl := Option.some.inj ha
      exact hfirst
    | succ i =>
      rw [Nat.add_comm i 1, ← Nat.add_assoc]
      exact hlater i begun answer hi ha

end Tracks

end SolidityLint.Debouncer
