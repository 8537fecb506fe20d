import SolidityLint.Value.Double

/-!
# Debouncer

At most one job is pending for each key: a newer one takes the place of the one before. A job is
due a fixed delay after it was scheduled, and runs when the clock passes that time. Times are in
milliseconds.

Two things are assumed about the clock. Jobs that are due at the same time run in the order in which
they were scheduled. And time passes in `advance` only, so a job with a delay of 0 waits for the
next one too, if only for one of no time.
-/

namespace SolidityLint

structure Job (κ α : Type) where
  key : κ
  due : Nat
  task : α
  deriving DecidableEq, Repr

/-- The pending jobs stand in the order in which they were scheduled. -/
structure Debouncer (κ α : Type) where
  delay : Nat
  now : Nat := 0
  pending : List (Job κ α) := []
  deriving DecidableEq, Repr

/-- What keeps jobs until they are due. That a job may fail, as `run` says, must not matter. -/
class JobKeeper (σ : Type → Type → Type) where
  ofDelay? {κ α : Type} (delay : Int) : Option (σ κ α)
  isIdle {κ α : Type} (keeper : σ κ α) : Bool
  cancel {κ α : Type} [BEq κ] (keeper : σ κ α) (key : κ) : σ κ α
  cancelAll {κ α : Type} [BEq κ] (keeper : σ κ α) : σ κ α
  schedule {κ α : Type} [BEq κ] (keeper : σ κ α) (key : κ) (task : α) : σ κ α
  advance {κ α ε : Type} [BEq κ] (run : α → Except ε Unit) (keeper : σ κ α) (time : Nat) :
    σ κ α × List α

namespace Debouncer

variable {κ α : Type}

/-- A negative delay counts as none. A delay must be finite when it is written in seconds as a
double. -/
def ofDelay? (delay : Int) : Option (Debouncer κ α) :=
  if (Double.ofRatio false delay.toNat 1000).isFinite then some { delay := delay.toNat } else none

def delayMessage : String := "integer division result too large for a float"

def cancelAll (debouncer : Debouncer κ α) : Debouncer κ α :=
  { debouncer with pending := [] }

variable [BEq κ]

def isPending (debouncer : Debouncer κ α) (key : κ) : Bool :=
  debouncer.pending.any (·.key == key)

def cancel (debouncer : Debouncer κ α) (key : κ) : Debouncer κ α :=
  { debouncer with pending := debouncer.pending.filter (!·.key == key) }

def schedule (debouncer : Debouncer κ α) (key : κ) (task : α) : Debouncer κ α :=
  let cancelled := debouncer.cancel key
  { cancelled with pending := cancelled.pending ++ [⟨key, debouncer.now + debouncer.delay, task⟩] }

omit [BEq κ] in
def advance (debouncer : Debouncer κ α) (time : Nat) : Debouncer κ α × List α :=
  let now := debouncer.now + time
  let (due, later) := debouncer.pending.partition (·.due ≤ now)
  ({ debouncer with now, pending := later }, due.map (·.task))

instance : JobKeeper Debouncer where
  ofDelay? := ofDelay?
  isIdle debouncer := debouncer.pending.isEmpty
  cancel := cancel
  cancelAll := cancelAll
  schedule := schedule
  advance _ := advance

/-- What is asked of a debouncer. In an idle step no time passes. -/
inductive Command (κ α : Type) where
  | schedule (key : κ) (task : α)
  | cancel (key : κ)
  | cancelAll
  | advance (time : Nat)
  | idle
  deriving DecidableEq, Repr

structure Answer (α : Type) where
  ran : List α := []
  cancelled : Bool := false
  pending : Nat
  deriving DecidableEq, Repr

def perform (debouncer : Debouncer κ α) : Command κ α → Debouncer κ α × Answer α
  | .schedule key task =>
    let next := debouncer.schedule key task
    (next, { pending := next.pending.length })
  | .cancel key =>
    let next := debouncer.cancel key
    (next, { cancelled := debouncer.isPending key, pending := next.pending.length })
  | .cancelAll => (debouncer.cancelAll, { pending := debouncer.cancelAll.pending.length })
  | .advance time =>
    let (next, ran) := debouncer.advance time
    (next, { ran, pending := next.pending.length })
  | .idle => (debouncer, { pending := debouncer.pending.length })

def performAll (debouncer : Debouncer κ α) : List (Command κ α) → List (Answer α)
  | [] => []
  | command :: rest =>
    let (next, answer) := debouncer.perform command
    answer :: next.performAll rest

end Debouncer

end SolidityLint
