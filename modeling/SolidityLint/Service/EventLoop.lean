import SolidityLint.Service.Debouncer

/-!
# Debouncing on an event loop

Each job is a task that sleeps until its time, runs its callback and ends. A table holds the
latest task of each key. The task that takes another's place in it stops the other one, which
ends at the next turn of the loop only. A task that ends takes its entry out of the table, unless
the entry is another task's by then.

It is assumed of the clock that tasks with the same time wake in the order in which they were
created, and that also a task without a delay sleeps until the next `advance`.
-/

namespace SolidityLint

/-- Tasks are told apart by their numbers. -/
structure EventLoop.Task (κ α : Type) where
  number : Nat
  key : κ
  due : Nat
  callback : α
  stopped : Bool := false
  deriving Repr

abbrev EventLoop.Table (κ : Type) : Type := List (κ × Nat)

/-- `tasks` are those that have not ended, in the order in which they were created. -/
structure EventLoop (κ α : Type) where
  delay : Nat
  now : Nat := 0
  created : Nat := 0
  tasks : List (EventLoop.Task κ α) := []
  table : EventLoop.Table κ := []
  deriving Repr

namespace EventLoop

variable {κ α ε : Type} [BEq κ]

omit [BEq κ] in
def ofDelay? (delay : Int) : Option (EventLoop κ α) :=
  (Debouncer.ofDelay? delay : Option (Debouncer κ α)).map fun debouncer =>
    { delay := debouncer.delay }

def Table.erase (table : Table κ) (key : κ) : Table κ :=
  table.filter (!·.1 == key)

namespace Task

def cleanUp (task : Task κ α) (table : Table κ) : Table κ :=
  if table.lookup task.key = some task.number then table.erase task.key else table

/-- What a task does when its time has come. -/
def body (run : α → Except ε Unit) (task : Task κ α) : EStateM ε (Table κ) Unit := do
  try
    MonadExcept.ofExcept (run task.callback)
  finally
    modify task.cleanUp

/-- The table after the task. That the callback failed goes unnoticed. -/
def wake (run : α → Except ε Unit) (table : Table κ) (task : Task κ α) : Table κ :=
  match task.body run table with
  | .ok _ table => table
  | .error _ table => table

omit [BEq κ] in
def stopIf (number : Nat) (task : Task κ α) : Task κ α :=
  if task.number = number then { task with stopped := true } else task

end Task

def cancel (loop : EventLoop κ α) (key : κ) : EventLoop κ α × Bool :=
  match loop.table.lookup key with
  | none => (loop, false)
  | some number =>
    ({ loop with
       tasks := loop.tasks.map (Task.stopIf number)
       table := loop.table.erase key }, true)

def cancelAll (loop : EventLoop κ α) : EventLoop κ α :=
  (loop.table.map Prod.fst).foldl (fun loop key => (loop.cancel key).1) loop

def schedule (loop : EventLoop κ α) (key : κ) (callback : α) : EventLoop κ α :=
  let loop := (loop.cancel key).1
  { loop with
    created := loop.created + 1
    tasks := loop.tasks ++ [⟨loop.created, key, loop.now + loop.delay, callback, false⟩]
    table := loop.table ++ [(key, loop.created)] }

def turn (loop : EventLoop κ α) : EventLoop κ α :=
  { loop with
    tasks := loop.tasks.filter (!·.stopped)
    table := (loop.tasks.filter (·.stopped)).foldl (fun table task => task.cleanUp table)
      loop.table }

/-- Lets time pass. The tasks whose time comes wake in the order of their times. -/
def advance (run : α → Except ε Unit) (loop : EventLoop κ α) (time : Nat) :
    EventLoop κ α × List α :=
  let loop := loop.turn
  let now := loop.now + time
  let (due, later) := loop.tasks.partition (·.due ≤ now)
  let due := due.mergeSort (·.due ≤ ·.due)
  ({ loop with now, tasks := later, table := due.foldl (Task.wake run) loop.table },
    due.map (·.callback))

instance : JobKeeper EventLoop where
  ofDelay? := ofDelay?
  isIdle loop := loop.table.isEmpty
  cancel loop key := (loop.cancel key).1
  cancelAll := cancelAll
  schedule := schedule
  advance := advance

def perform (run : α → Except ε Unit) (loop : EventLoop κ α) :
    Debouncer.Command κ α → EventLoop κ α × Debouncer.Answer α
  | .schedule key callback =>
    let next := loop.schedule key callback
    (next, { pending := next.table.length })
  | .cancel key =>
    let (next, cancelled) := loop.cancel key
    (next, { cancelled, pending := next.table.length })
  | .cancelAll => (loop.cancelAll, { pending := loop.cancelAll.table.length })
  | .advance time =>
    let (next, ran) := loop.advance run time
    (next, { ran, pending := next.table.length })
  | .idle => (loop.turn, { pending := loop.turn.table.length })

def performAll (run : α → Except ε Unit) (loop : EventLoop κ α) :
    List (Debouncer.Command κ α) → List (Debouncer.Answer α)
  | [] => []
  | command :: rest =>
    let (next, answer) := loop.perform run command
    answer :: next.performAll run rest

end EventLoop

end SolidityLint
