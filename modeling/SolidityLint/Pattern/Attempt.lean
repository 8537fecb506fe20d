import SolidityLint.Pattern.Marks
import SolidityLint.Pattern.Place

/-!
# Attempts

A part of a pattern is tried from a place, with a continuation for the rest of the match, and what
is known afterwards is a `Trail`. A trial that fails takes back the marks of the groups that it has
met for the first time, and inside of repeats all its marks. It does not take back the place that
it has reached, and a possessive repeat goes on from there when an iteration fails. The place
reached is the one from which an alternative, a repeat, a look or an atomic group was last begun,
or at which a pattern that is tried for itself has ended; characters and anchors leave it as it is.

In this `takeMore` and `Setting.runTimes` follow the early releases of the engine only. By its
documentation `x*+` is the same as `(?>x*)`, so that a failed iteration leaves the place where it
was, and later releases keep to that.
-/

namespace SolidityLint

open Text

/-! ## Beginnings -/

/-- What a pattern begins with, as far as one look at the next character can tell. -/
inductive Lead
  | literal (code : Nat)
  | member (set : CharSet)
  | other
  deriving DecidableEq, Repr

def CharSet.lead (set : CharSet) : Lead :=
  match set.literal? with
  | some code => .literal code
  | none => if set.isSingle || set.isCased then .other else .member set

namespace Lead

def mayStart (place : Place) : Lead → Bool
  | .literal code => place.after.head?.any (·.toNat == code)
  | .member set => place.after.head?.any set.contains
  | .other => true

/-- As `mayStart`, without a look at sets. -/
def mayFollow (place : Place) : Lead → Bool
  | .literal code => place.after.head?.any (·.toNat == code)
  | _ => true

end Lead

/-- What a pattern begins with, unless it holds nothing at all. -/
def Pattern.lead? : Pattern → Option Lead
  | .empty => none
  | .one set => some set.lead
  | .seq p q => match p.lead? with
    | some lead => some lead
    | none => q.lead?
  | .scoped p => p.lead?
  | _ => some .other

def Pattern.lead (p : Pattern) : Lead := p.lead?.getD .other

/-! ## Trails -/

/-- What is known after a trial, whether it succeeded or not. -/
structure Trail where
  reached : Place
  marks : Marks := []
  deriving DecidableEq, Repr

def Trail.reach (trail : Trail) (place : Place) : Trail :=
  { trail with reached := place }

inductive Attempt
  | success (trail : Trail)
  | failure (trail : Trail)
  deriving DecidableEq, Repr

@[inline]
def Attempt.onFailure (attempt : Attempt) (next : Trail → Attempt) : Attempt :=
  match attempt with
  | .success trail => .success trail
  | .failure trail => next trail

structure Setting where
  /-- In the body of a repeat that can take iterations back. -/
  repeated : Bool := false
  /-- What the part behind begins with. -/
  next : Lead := .other

/-- Marks after a failed trial that began with the marks `saved`. -/
def Setting.takeBack (setting : Setting) (saved marks : Marks) : Marks :=
  if setting.repeated then saved else marks.take saved.length

/-- The rest of a match, from a place to the end of the whole match. -/
abbrev Rest := Place → Trail → Attempt

abbrev Runner := Place → Trail → Rest → Attempt

def settle : Rest := fun place trail => .success (trail.reach place)

def Setting.tryWay (setting : Setting) (lead : Lead) (way : Runner) : Runner :=
  fun place trail rest =>
    if lead.mayStart place then
      (way place (trail.reach place) rest).onFailure fun left =>
        .failure { left with marks := setting.takeBack trail.marks left.marks }
    else .failure trail

/-! ## Repeats of a character -/

def stretch (set : CharSet) (limit : Option Nat) :
    (count pos : Nat) → List Char → List Char → Nat × Place
  | count, pos, before, [] => (count, ⟨pos, before, []⟩)
  | count, pos, before, c :: after =>
    if limit = some count || !set.contains c then (count, ⟨pos, before, c :: after⟩)
    else stretch set limit (count + 1) (pos + 1) (c :: before) after

/-- The rest at a place or at one of up to `spare` places before it, nearest first. `saved` are the
marks with which the repeat began. -/
def Setting.tryBackward (setting : Setting) (saved : Marks) (rest : Rest) :
    Nat → Place → Trail → Attempt
  | spare, place, trail =>
    let attempt :=
      if setting.next.mayFollow place then
        (rest place (trail.reach place)).onFailure fun left =>
          .failure { left with marks := setting.takeBack saved left.marks }
      else .failure trail
    match attempt, spare, place.before with
    | .failure left, spare + 1, c :: before =>
      setting.tryBackward saved rest spare ⟨place.pos - 1, before, c :: place.after⟩ left
    | attempt, _, _ => attempt

/-- The rest at a place or at one of up to `spare` places behind it, nearest first, as long as the
characters between are in the set. -/
def Setting.tryForward (setting : Setting) (set : CharSet) (saved : Marks) (rest : Rest) :
    Nat → Place → Trail → Attempt
  | spare, place, trail =>
    (rest place (trail.reach place)).onFailure fun left =>
      let left : Trail := ⟨place, setting.takeBack saved left.marks⟩
      match place.after with
      | [] => .failure left
      | c :: after =>
        if set.contains c then
          match spare with
          | 0 => .failure (if set.isFolded then left.reach (place.step c after) else left)
          | spare + 1 => setting.tryForward set saved rest spare (place.step c after) left
        else .failure left

def Setting.runSingle (setting : Setting) (set : CharSet) (mode : RepeatMode) (low : Nat)
    (high : Option Nat) : Runner :=
  fun place trail rest =>
    if place.hasLeft low then
      let limit := if mode = .reluctant then some low else high
      let (count, stop) := stretch set limit 0 place.pos place.before place.after
      let here := trail.reach (if set.isFolded then stop else place)
      if count < low then .failure here
      else match mode with
        | .greedy => setting.tryBackward trail.marks rest (count - low) stop here
        | .reluctant =>
          let spare := match high with
            | some high => high - low
            | none => stop.after.length
          setting.tryForward set trail.marks rest spare stop here
        | .possessive => rest stop here
    else .failure trail

/-! ## Other repeats -/

def runExactly (body : Runner) (more : Rest) : Nat → Rest
  | 0, place, trail => more place trail
  | n + 1, place, trail =>
    (body place (trail.reach place) (runExactly body more n)).onFailure fun left =>
      .failure (left.reach place)

def leaveRepeat (rest : Rest) : Rest :=
  fun place trail => (rest place (trail.reach place)).onFailure fun left =>
    .failure (left.reach place)

/-- A body up to `fuel` times, as often as possible first. Another iteration starts only if the
previous one, begun at `last`, has moved on. -/
def runGreedy (body : Runner) (rest : Rest) : Nat → Option Nat → Rest
  | 0, _, place, trail => leaveRepeat rest place trail
  | fuel + 1, last, place, trail =>
    if last = some place.pos then leaveRepeat rest place trail
    else
      (body place (trail.reach place) (runGreedy body rest fuel (some place.pos))).onFailure
        fun _ => leaveRepeat rest place trail

def Setting.runReluctant (setting : Setting) (body : Runner) (rest : Rest) :
    Nat → Option Nat → Rest
  | fuel, last, place, trail =>
    (rest place (trail.reach place)).onFailure fun left =>
      let left : Trail := ⟨place, setting.takeBack trail.marks left.marks⟩
      match fuel with
      | 0 => .failure left
      | fuel + 1 =>
        if last = some place.pos then .failure left
        else
          (body place left (setting.runReluctant body rest fuel (some place.pos))).onFailure
            fun left => .failure (left.reach place)

def takeExactly (body : Runner) : Nat → Trail → Attempt
  | 0, trail => .success trail
  | n + 1, trail => match body trail.reached trail settle with
    | .success trail => takeExactly body n trail
    | .failure left => .failure left

/-- A body up to `fuel` times from the place reached, each time in its first way, as often as it
matches and moves on. The place that a failed iteration has reached stays. -/
def takeMore (body : Runner) : Nat → Option Nat → Trail → Trail
  | 0, _, trail => trail
  | fuel + 1, last, trail =>
    if last = some trail.reached.pos then trail
    else match body trail.reached trail settle with
      | .success next => takeMore body fuel (some trail.reached.pos) next
      | .failure left => { left with marks := trail.marks }

/-- How many iterations beyond `low` can matter. If there is no limit, as many as there are places
are enough, and one that stays where it is. -/
def spareIterations (low : Nat) (high : Option Nat) (place : Place) : Nat :=
  match high with
  | some high => high - low
  | none => place.pos + place.after.length + 1

def Setting.runTimes (setting : Setting) (body : Runner) (mode : RepeatMode) (low : Nat)
    (high : Option Nat) : Runner :=
  fun place trail rest =>
    let spare := spareIterations low high place
    match mode with
    | .greedy => runExactly body (runGreedy body rest spare none) low place trail
    | .reluctant => runExactly body (setting.runReluctant body rest spare none) low place trail
    | .possessive => match takeExactly body low (trail.reach place) with
      | .success trail =>
        let trail := takeMore body spare none trail
        rest trail.reached trail
      | .failure left => .failure (left.reach place)

/-! ## Looks and references -/

/-- A look succeeds where it started. If the body has to match, its groups stay set. -/
def Setting.runLook (setting : Setting) (body : Runner) (direction : LookDirection)
    (negated : Bool) : Runner :=
  fun place trail rest =>
    let origin := match direction with
      | .ahead => some place
      | .behind width => place.back? width
    match origin, negated with
    | none, false => .failure trail
    | none, true => rest place trail
    | some origin, false =>
      match body origin (trail.reach origin) settle with
      | .success trail => rest place trail
      | .failure left => .failure left
    | some origin, true =>
      match body origin (trail.reach origin) settle with
      | .success left => .failure left
      | .failure left => rest place { left with marks := setting.takeBack trail.marks left.marks }

def againLength? (same : Char → Char → Bool) : List Char → List Char → Option Nat
  | [], _ => some 0
  | _ :: _, [] => none
  | a :: word, b :: text => if same a b then (againLength? same word text).map (· + 1) else none

def sameAgain (ignoreCase ascii : Bool) (a b : Char) : Bool :=
  if ignoreCase then smallCode ascii a.toNat == smallCode ascii b.toNat else a == b

def runAgain (index : Nat) (ignoreCase ascii : Bool) : Runner :=
  fun place trail rest => match trail.marks.group? index with
    | none => .failure trail
    | some (first, last) =>
      let word := slice place.text first last
      match againLength? (sameAgain ignoreCase ascii) word place.after with
      | some count => rest (place.skip count) trail
      | none => .failure trail

end SolidityLint
