import SolidityLint.Proofs.Debouncing
import SolidityLint.Service.EventLoop

/-!
# An event loop debounces

The table of an event loop has the tasks that are not stopped and no others
(`WellFormed.table_eq`): a stopped task leaves the entry of its successor alone
(`WellFormed.cleanUp_of_stopped`), and a task that wakes takes its own entry away, whether its
callback succeeds or fails (`Task.wake_eq`). With the tasks that are not stopped as its jobs, an
event loop is a debouncer (`toDebouncer`), and each command keeps it the same one
(`WellFormed.perform`).
-/

namespace SolidityLint.EventLoop

variable {κ α ε : Type}

-- ---------------------------------------------------------------------------
-- Tasks and their entries
-- ---------------------------------------------------------------------------

namespace Task

def entry (task : Task κ α) : κ × Nat := (task.key, task.number)

def job (task : Task κ α) : Job κ α := ⟨task.key, task.due, task.callback⟩

@[simp] theorem number_stopIf (number : Nat) (task : Task κ α) :
    (task.stopIf number).number = task.number := by
  unfold stopIf
  split <;> rfl

@[simp] theorem due_stopIf (number : Nat) (task : Task κ α) :
    (task.stopIf number).due = task.due := by
  unfold stopIf
  split <;> rfl

theorem filter_map_stopIf (number : Nat) (tasks : List (Task κ α)) :
    (tasks.map (stopIf number)).filter (!·.stopped) =
      (tasks.filter (!·.stopped)).filter (·.number ≠ number) := by
  induction tasks with
  | nil => rfl
  | cons task tasks ih =>
    by_cases hn : task.number = number <;> by_cases hs : task.stopped <;> simp_all [stopIf]

variable [DecidableEq κ]

theorem wake_eq (run : α → Except ε Unit) (table : Table κ) (task : Task κ α) :
    task.wake run table = task.cleanUp table := by
  unfold wake body
  cases run task.callback <;> rfl

variable {tasks : List (Task κ α)} {task : Task κ α}

theorem erase_entries (tasks : List (Task κ α)) (key : κ) :
    Table.erase (tasks.map entry) key = (tasks.filter (!·.key == key)).map entry :=
  List.filter_map

theorem filter_jobs (tasks : List (Task κ α)) (key : κ) :
    (tasks.map job).filter (!·.key == key) = (tasks.filter (!·.key == key)).map job :=
  List.filter_map

theorem lookup_entries (hk : (tasks.map Task.key).Nodup) (ht : task ∈ tasks) :
    (tasks.map entry).lookup task.key = some task.number := by
  induction tasks with
  | nil => cases ht
  | cons first rest ih =>
    obtain ⟨hfirst, hrest⟩ := List.nodup_cons.mp hk
    rcases List.mem_cons.mp ht with rfl | hmem
    · exact List.lookup_cons_self
    · have hne : task.key ≠ first.key := fun he => hfirst (he ▸ List.mem_map_of_mem hmem)
      rw [List.map_cons, List.lookup_cons, entry, beq_false_of_ne hne]
      exact ih hrest hmem

theorem exists_of_lookup_entries {key : κ} {number : Nat}
    (h : (tasks.map entry).lookup key = some number) :
    ∃ task ∈ tasks, task.key = key ∧ task.number = number := by
  obtain ⟨before, after, hsplit, -⟩ := List.lookup_eq_some_iff.mp h
  have hmem : (key, number) ∈ tasks.map entry := by simp [hsplit]
  obtain ⟨task, ht, hentry⟩ := List.mem_map.mp hmem
  exact ⟨task, ht, congrArg Prod.fst hentry, congrArg Prod.snd hentry⟩

/-- Tasks that wake take their own entries away and no other. -/
theorem foldl_wake (run : α → Except ε Unit) {due : List (Task κ α)}
    (hk : (tasks.map Task.key).Nodup) (hd : (due.map Task.key).Nodup) (hsub : due ⊆ tasks) :
    due.foldl (wake run) (tasks.map entry) =
      (tasks.filter (·.key ∉ due.map Task.key)).map entry := by
  induction due generalizing tasks with
  | nil => simp
  | cons first rest ih =>
    obtain ⟨hfirst, hrest⟩ := List.nodup_cons.mp hd
    have hmem : first ∈ tasks := hsub List.mem_cons_self
    have hwake : wake run (tasks.map entry) first =
        (tasks.filter (!·.key == first.key)).map entry := by
      rw [wake_eq, cleanUp, if_pos (lookup_entries hk hmem), erase_entries]
    rw [List.foldl_cons, hwake, ih (hk.sublist (List.filter_sublist.map _)) hrest ?_,
      List.filter_filter]
    · refine congrArg _ (List.filter_congr fun task _ => ?_)
      by_cases he : task.key = first.key <;> simp [he]
    · intro task ht
      have hne : task.key ≠ first.key := fun he => hfirst (he ▸ List.mem_map_of_mem ht)
      simpa [hne] using hsub (List.mem_cons_of_mem _ ht)

end Task

-- ---------------------------------------------------------------------------
-- The debouncer in an event loop
-- ---------------------------------------------------------------------------

def live (loop : EventLoop κ α) : List (Task κ α) := loop.tasks.filter (!·.stopped)

def toDebouncer (loop : EventLoop κ α) : Debouncer κ α :=
  { delay := loop.delay, now := loop.now, pending := loop.live.map Task.job }

structure WellFormed (loop : EventLoop κ α) : Prop where
  table_eq : loop.table = loop.live.map Task.entry
  keys : (loop.live.map Task.key).Nodup
  numbers : (loop.tasks.map Task.number).Nodup
  number_lt : ∀ task ∈ loop.tasks, task.number < loop.created
  sorted : loop.tasks.Pairwise (·.due ≤ ·.due)
  due_le : ∀ task ∈ loop.tasks, task.due ≤ loop.now + loop.delay

theorem wellFormed_start (delay : Nat) : WellFormed ({ delay } : EventLoop κ α) :=
  ⟨rfl, .nil, .nil, nofun, .nil, nofun⟩

namespace WellFormed

variable [DecidableEq κ] {loop : EventLoop κ α} {key : κ}

omit [DecidableEq κ] in
theorem eq_of_number_eq (h : loop.WellFormed) {task other : Task κ α} (ht : task ∈ loop.tasks)
    (ho : other ∈ loop.tasks) (hn : task.number = other.number) : task = other :=
  List.inj_on_of_nodup_map h.numbers ht ho hn

omit [DecidableEq κ] in
theorem number_eq_iff (h : loop.WellFormed) {task other : Task κ α} (ht : task ∈ loop.live)
    (ho : other ∈ loop.live) : task.number = other.number ↔ task.key = other.key := by
  constructor
  · intro hn
    exact congrArg _ (h.eq_of_number_eq (List.mem_filter.mp ht).1 (List.mem_filter.mp ho).1 hn)
  · intro hk
    exact congrArg _ (List.inj_on_of_nodup_map h.keys ht ho hk)

-- ---------------------------------------------------------------------------
-- Cancelling and scheduling
-- ---------------------------------------------------------------------------

theorem live_stop (h : loop.WellFormed) {task : Task κ α} (ht : task ∈ loop.live) :
    (loop.tasks.map (Task.stopIf task.number)).filter (!·.stopped) =
      loop.live.filter (!·.key == task.key) := by
  rw [Task.filter_map_stopIf]
  refine List.filter_congr fun other ho => ?_
  by_cases he : other.key = task.key <;> simp [h.number_eq_iff ho ht, he]

/-- A key is cancelled if it has an entry. The task of the entry is not stopped yet. -/
theorem cancel_cases (h : loop.WellFormed) (key : κ) :
    key ∉ loop.live.map Task.key ∧ loop.cancel key = (loop, false) ∨
      ∃ task ∈ loop.live, task.key = key ∧
        loop.cancel key =
          ({ loop with
             tasks := loop.tasks.map (Task.stopIf task.number)
             table := loop.table.erase key }, true) := by
  unfold EventLoop.cancel
  split
  · next hlookup =>
    refine .inl ⟨fun hmem => ?_, rfl⟩
    obtain ⟨task, ht, rfl⟩ := List.mem_map.mp hmem
    rw [h.table_eq, Task.lookup_entries h.keys ht] at hlookup
    cases hlookup
  · next number hlookup =>
    rw [h.table_eq] at hlookup
    obtain ⟨task, ht, hkey, rfl⟩ := Task.exists_of_lookup_entries hlookup
    exact .inr ⟨task, ht, hkey, rfl⟩

theorem cancel (h : loop.WellFormed) (key : κ) : (loop.cancel key).1.WellFormed := by
  obtain ⟨-, hcancel⟩ | ⟨task, ht, rfl, hcancel⟩ := h.cancel_cases key
  · rw [hcancel]
    exact h
  · rw [hcancel]
    refine ⟨?_, ?_, ?_, ?_, ?_, ?_⟩
    · show loop.table.erase task.key = List.map _ (List.filter _ _)
      rw [h.live_stop ht, h.table_eq, Task.erase_entries]
    · show (List.map _ (List.filter _ _)).Nodup
      rw [h.live_stop ht]
      exact h.keys.sublist (List.filter_sublist.map _)
    · simpa [Function.comp_def] using h.numbers
    · simpa using h.number_lt
    · simpa [List.pairwise_map] using h.sorted
    · simpa using h.due_le

theorem toDebouncer_cancel (h : loop.WellFormed) (key : κ) :
    (loop.cancel key).1.toDebouncer = loop.toDebouncer.cancel key := by
  obtain ⟨hnot, hcancel⟩ | ⟨task, ht, rfl, hcancel⟩ := h.cancel_cases key
  · have hall : loop.toDebouncer.pending.filter (!·.key == key) = loop.toDebouncer.pending := by
      refine List.filter_eq_self.mpr fun job hj => ?_
      obtain ⟨task, ht, rfl⟩ := List.mem_map.mp hj
      have hne : task.key ≠ key := fun he => hnot (he ▸ List.mem_map_of_mem ht)
      simpa [Task.job] using hne
    rw [hcancel, Debouncer.cancel, hall]
  · rw [hcancel, toDebouncer, live, h.live_stop ht, ← Task.filter_jobs]
    rfl

theorem cancel_snd (h : loop.WellFormed) (key : κ) :
    (loop.cancel key).2 = loop.toDebouncer.isPending key := by
  have hpending : loop.toDebouncer.isPending key = true ↔ key ∈ loop.live.map Task.key := by
    simp [Debouncer.isPending, toDebouncer, Task.job]
  obtain ⟨hnot, hcancel⟩ | ⟨task, ht, rfl, hcancel⟩ := h.cancel_cases key
  · rw [hcancel]
    exact (Bool.eq_false_iff.mpr (mt hpending.mp hnot)).symm
  · rw [hcancel]
    exact (hpending.mpr (List.mem_map_of_mem ht)).symm

theorem foldl_cancel (h : loop.WellFormed) (keys : List κ) :
    (keys.foldl (fun loop key => (loop.cancel key).1) loop).WellFormed ∧
      (keys.foldl (fun loop key => (loop.cancel key).1) loop).toDebouncer =
        { loop.toDebouncer with
          pending := loop.toDebouncer.pending.filter (·.key ∉ keys) } := by
  induction keys generalizing loop with
  | nil => exact ⟨h, by simp⟩
  | cons key keys ih =>
    obtain ⟨hwell, heq⟩ := ih (h.cancel key)
    refine ⟨hwell, ?_⟩
    rw [List.foldl_cons, heq, h.toDebouncer_cancel, Debouncer.pending_cancel, List.filter_filter]
    refine congrArg (fun pending => ({ loop.toDebouncer with pending } : Debouncer κ α))
      (List.filter_congr fun job _ => ?_)
    by_cases he : job.key = key <;> simp [he]

theorem cancelAll (h : loop.WellFormed) :
    loop.cancelAll.WellFormed ∧ loop.cancelAll.toDebouncer = loop.toDebouncer.cancelAll := by
  obtain ⟨hwell, heq⟩ := h.foldl_cancel (loop.table.map Prod.fst)
  refine ⟨hwell, heq.trans ?_⟩
  have hnil : loop.toDebouncer.pending.filter (·.key ∉ loop.table.map Prod.fst) = [] := by
    rw [h.table_eq]
    refine List.filter_eq_nil_iff.mpr fun job hj => ?_
    obtain ⟨task, ht, rfl⟩ := List.mem_map.mp hj
    simpa [Task.entry, Task.job] using ⟨task, ht, rfl⟩
  rw [hnil]
  rfl

omit [DecidableEq κ] in
theorem create (h : loop.WellFormed) (hkey : key ∉ loop.live.map Task.key) (callback : α) :
    WellFormed { loop with
      created := loop.created + 1
      tasks := loop.tasks ++ [⟨loop.created, key, loop.now + loop.delay, callback, false⟩]
      table := loop.table ++ [(key, loop.created)] } := by
  refine ⟨?_, ?_, ?_, ?_, ?_, ?_⟩
  · simp [live, h.table_eq, Task.entry]
  · simp only [live, List.filter_append, List.map_append]
    refine List.nodup_append.mpr ⟨h.keys, List.nodup_singleton _, ?_⟩
    intro other ho new hn hsame
    obtain rfl := List.mem_singleton.mp hn
    exact hkey (hsame ▸ ho)
  · rw [List.map_append]
    refine List.nodup_append.mpr ⟨h.numbers, List.nodup_singleton _, ?_⟩
    intro other ho new hn hsame
    obtain ⟨task, ht, rfl⟩ := List.mem_map.mp ho
    obtain rfl := List.mem_singleton.mp hn
    exact (h.number_lt task ht).ne hsame
  · intro task ht
    rcases List.mem_append.mp ht with hold | hnew
    · exact Nat.lt_succ_of_lt (h.number_lt task hold)
    · rw [List.mem_singleton.mp hnew]
      exact Nat.lt_succ_self _
  · refine List.pairwise_append.mpr ⟨h.sorted, List.pairwise_singleton _ _, ?_⟩
    intro task ht new hn
    rw [List.mem_singleton.mp hn]
    exact h.due_le task ht
  · intro task ht
    rcases List.mem_append.mp ht with hold | hnew
    · exact h.due_le task hold
    · rw [List.mem_singleton.mp hnew]

theorem key_not_mem_cancel (h : loop.WellFormed) (key : κ) :
    key ∉ (loop.cancel key).1.live.map Task.key := by
  intro hmem
  obtain ⟨task, ht, hkey⟩ := List.mem_map.mp hmem
  have hjob : task.job ∈ (loop.cancel key).1.toDebouncer.pending := List.mem_map_of_mem ht
  rw [h.toDebouncer_cancel] at hjob
  exact (Debouncer.mem_pending_cancel.mp hjob).2 hkey

theorem schedule (h : loop.WellFormed) (key : κ) (callback : α) :
    (loop.schedule key callback).WellFormed :=
  (h.cancel key).create (h.key_not_mem_cancel key) callback

theorem toDebouncer_schedule (h : loop.WellFormed) (key : κ) (callback : α) :
    (loop.schedule key callback).toDebouncer = loop.toDebouncer.schedule key callback := by
  have hcancel := h.toDebouncer_cancel key
  have hnow : (loop.cancel key).1.now = loop.now := congrArg Debouncer.now hcancel
  have hdelay : (loop.cancel key).1.delay = loop.delay := congrArg Debouncer.delay hcancel
  rw [Debouncer.schedule, ← hcancel]
  simp [toDebouncer, live, EventLoop.schedule, Task.job, hnow, hdelay]

-- ---------------------------------------------------------------------------
-- Turns and time
-- ---------------------------------------------------------------------------

/-- A stopped task has no entry any more, and leaves that of its successor alone. -/
theorem cleanUp_of_stopped (h : loop.WellFormed) {task : Task κ α} (ht : task ∈ loop.tasks)
    (hs : task.stopped) : task.cleanUp loop.table = loop.table := by
  refine if_neg fun hlookup => ?_
  rw [h.table_eq] at hlookup
  obtain ⟨other, ho, -, hnumber⟩ := Task.exists_of_lookup_entries hlookup
  obtain ⟨homem, hlive⟩ := List.mem_filter.mp ho
  obtain rfl := h.eq_of_number_eq homem ht hnumber
  simp [hs] at hlive

theorem table_turn (h : loop.WellFormed) : loop.turn.table = loop.table := by
  have hkept (stopped : List (Task κ α)) (hs : stopped ⊆ loop.tasks.filter (·.stopped)) :
      stopped.foldl (fun table task => task.cleanUp table) loop.table = loop.table := by
    induction stopped with
    | nil => rfl
    | cons first rest ih =>
      obtain ⟨hfirst, hrest⟩ := List.cons_subset.mp hs
      obtain ⟨hmem, hstopped⟩ := List.mem_filter.mp hfirst
      rw [List.foldl_cons, h.cleanUp_of_stopped hmem hstopped, ih hrest]
  exact hkept _ (List.Subset.refl _)

theorem live_turn (loop : EventLoop κ α) : loop.turn.live = loop.live := by
  simp [live, EventLoop.turn]

theorem turn (h : loop.WellFormed) : loop.turn.WellFormed := by
  refine ⟨?_, ?_, ?_, ?_, ?_, ?_⟩
  · rw [h.table_turn, live_turn, h.table_eq]
  · rw [live_turn]
    exact h.keys
  · exact h.numbers.sublist (List.filter_sublist.map _)
  · exact fun task ht => h.number_lt task (List.mem_filter.mp ht).1
  · exact h.sorted.filter _
  · exact fun task ht => h.due_le task (List.mem_filter.mp ht).1

theorem toDebouncer_turn (loop : EventLoop κ α) : loop.turn.toDebouncer = loop.toDebouncer := by
  rw [toDebouncer, live_turn]
  rfl

theorem foldl_wake_due (h : loop.WellFormed) (run : α → Except ε Unit) (time : Nat) :
    (loop.live.filter (·.due ≤ time)).foldl (Task.wake run) loop.table =
      (loop.live.filter fun task => !decide (task.due ≤ time)).map Task.entry := by
  rw [h.table_eq, Task.foldl_wake run h.keys (h.keys.sublist (List.filter_sublist.map _))
    (List.filter_subset_self _)]
  refine congrArg _ (List.filter_congr fun task ht => ?_)
  have hiff : task.key ∈ (loop.live.filter (·.due ≤ time)).map Task.key ↔ task.due ≤ time := by
    constructor
    · intro hmem
      obtain ⟨other, ho, hkey⟩ := List.mem_map.mp hmem
      obtain ⟨holive, hdue⟩ := List.mem_filter.mp ho
      obtain rfl := List.inj_on_of_nodup_map h.keys holive ht hkey
      exact of_decide_eq_true hdue
    · intro hdue
      exact List.mem_map_of_mem (List.mem_filter.mpr ⟨ht, decide_eq_true hdue⟩)
  simp only [hiff, decide_not]

omit [DecidableEq κ] in
/-- The tasks stand in the order of their times already. -/
theorem mergeSort_due (h : loop.WellFormed) (time : Nat) :
    (loop.live.filter (·.due ≤ time)).mergeSort (·.due ≤ ·.due) =
      loop.live.filter (·.due ≤ time) := by
  refine List.mergeSort_of_pairwise (((h.sorted.filter _).filter _).imp fun hle => ?_)
  exact decide_eq_true hle

theorem advance_eq (h : loop.WellFormed) (run : α → Except ε Unit) (time : Nat) :
    loop.advance run time =
      ({ loop with
         now := loop.now + time
         tasks := loop.live.filter fun task => !decide (task.due ≤ loop.now + time)
         table := (loop.live.filter fun task => !decide (task.due ≤ loop.now + time)).map
          Task.entry },
       (loop.live.filter (·.due ≤ loop.now + time)).map (·.callback)) := by
  have htasks : loop.turn.tasks = loop.live := rfl
  have hnow : loop.turn.now = loop.now := rfl
  simp only [EventLoop.advance, List.partition_eq_filter_filter, htasks, hnow, h.table_turn,
    h.mergeSort_due, h.foldl_wake_due]
  rfl

theorem live_advance (h : loop.WellFormed) (run : α → Except ε Unit) (time : Nat) :
    (loop.advance run time).1.live =
      loop.live.filter fun task => !decide (task.due ≤ loop.now + time) := by
  rw [h.advance_eq]
  refine List.filter_eq_self.mpr fun task ht => ?_
  exact (List.mem_filter.mp (List.mem_filter.mp ht).1).2

theorem advance (h : loop.WellFormed) (run : α → Except ε Unit) (time : Nat) :
    (loop.advance run time).1.WellFormed := by
  have htasks : (loop.advance run time).1.tasks.Sublist loop.tasks := by
    rw [h.advance_eq]
    exact List.filter_sublist.trans List.filter_sublist
  refine ⟨?_, ?_, h.numbers.sublist (htasks.map _), ?_, h.sorted.sublist htasks, ?_⟩
  · rw [h.live_advance, h.advance_eq]
  · rw [h.live_advance]
    exact h.keys.sublist (List.filter_sublist.map _)
  · intro task ht
    rw [h.advance_eq]
    exact h.number_lt task (htasks.subset ht)
  · intro task ht
    rw [h.advance_eq]
    calc task.due ≤ loop.now + loop.delay := h.due_le task (htasks.subset ht)
      _ ≤ loop.now + time + loop.delay := Nat.add_le_add_right (Nat.le_add_right _ _) _

theorem toDebouncer_advance (h : loop.WellFormed) (run : α → Except ε Unit) (time : Nat) :
    (loop.advance run time).1.toDebouncer = (loop.toDebouncer.advance time).1 := by
  rw [toDebouncer, h.live_advance, h.advance_eq]
  simp only [Debouncer.advance, toDebouncer, List.partition_eq_filter_filter, List.filter_map]
  rfl

theorem advance_snd (h : loop.WellFormed) (run : α → Except ε Unit) (time : Nat) :
    (loop.advance run time).2 = (loop.toDebouncer.advance time).2 := by
  rw [h.advance_eq, Debouncer.tasks_advance, toDebouncer, List.filter_map, List.map_map]
  rfl

-- ---------------------------------------------------------------------------
-- Commands
-- ---------------------------------------------------------------------------

omit [DecidableEq κ] in
theorem length_table (h : loop.WellFormed) :
    loop.table.length = loop.toDebouncer.pending.length := by
  simp [h.table_eq, toDebouncer]

theorem perform (h : loop.WellFormed) (run : α → Except ε Unit)
    (command : Debouncer.Command κ α) :
    (loop.perform run command).1.WellFormed ∧
      (loop.perform run command).1.toDebouncer = (loop.toDebouncer.perform command).1 ∧
      (loop.perform run command).2 = (loop.toDebouncer.perform command).2 := by
  cases command with
  | schedule key callback =>
    have hnext := h.schedule key callback
    refine ⟨hnext, h.toDebouncer_schedule key callback, ?_⟩
    simp [EventLoop.perform, Debouncer.perform, hnext.length_table, h.toDebouncer_schedule]
  | cancel key =>
    have hnext := h.cancel key
    refine ⟨hnext, h.toDebouncer_cancel key, ?_⟩
    simp [EventLoop.perform, Debouncer.perform, hnext.length_table, h.toDebouncer_cancel,
      h.cancel_snd]
  | cancelAll =>
    obtain ⟨hnext, heq⟩ := h.cancelAll
    refine ⟨hnext, heq, ?_⟩
    simp [EventLoop.perform, Debouncer.perform, hnext.length_table, heq]
  | advance time =>
    have hnext := h.advance run time
    refine ⟨hnext, h.toDebouncer_advance run time, ?_⟩
    simp [EventLoop.perform, Debouncer.perform, hnext.length_table, h.toDebouncer_advance,
      h.advance_snd]
  | idle =>
    refine ⟨h.turn, toDebouncer_turn loop, ?_⟩
    simp [EventLoop.perform, Debouncer.perform, h.turn.length_table, toDebouncer_turn]

theorem performAll (h : loop.WellFormed) (run : α → Except ε Unit)
    (commands : List (Debouncer.Command κ α)) :
    loop.performAll run commands = loop.toDebouncer.performAll commands := by
  induction commands generalizing loop with
  | nil => rfl
  | cons command rest ih =>
    obtain ⟨hnext, hdebouncer, hanswer⟩ := h.perform run command
    simp only [EventLoop.performAll, Debouncer.performAll, ih hnext, hdebouncer, hanswer]

end WellFormed

end SolidityLint.EventLoop
