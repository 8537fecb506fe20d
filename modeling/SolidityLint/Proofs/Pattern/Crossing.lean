import SolidityLint.Proofs.Pattern.MarkOrder
import SolidityLint.Proofs.Pattern.Spans

/-!
# Groups that cross

A match cannot be given back if one of its groups was opened again behind its last end. This takes a
possessive repeat of more than a character (`matchAt?_areCrossed`). On the way to a match a group is
closed behind the place where it was opened. What a failed way leaves behind are marks of groups
further on, which are cut off, and ends of groups that are still open, which will be closed again.
In the body of a repeat groups are opened a second time, but there a failed way takes all its marks
back.
-/

namespace SolidityLint

-- ---------------------------------------------------------------------------
-- Inside and outside of repeats
-- ---------------------------------------------------------------------------

open Marks (Agrees InOrder OpenGroups)

/-- A repeat that began with the marks `saved`. Its groups are those behind `first` up to `last`. -/
structure Repeat where
  opened : OpenGroups
  first : Nat
  last : Nat
  saved : Marks

inductive Zone
  | straight
  | repeated (whole : Repeat)

namespace Zone

variable {zone : Zone} {opened : OpenGroups} {n m : Nat} {saved marks other : Marks}
  {setting : Setting}

def isRepeated : Zone → Bool
  | straight => false
  | repeated _ => true

def bound (zone : Zone) (n : Nat) : Nat :=
  match zone with
  | straight => n
  | repeated whole => whole.last

/-- What a failed way that began with the marks `saved` leaves as it was. -/
def Keeps (zone : Zone) (opened : OpenGroups) (n : Nat) (saved marks : Marks) : Prop :=
  match zone with
  | straight => Agrees opened n saved marks
  | repeated whole => Agrees whole.opened whole.first whole.saved marks

/-- Marks with which a part behind `n` groups can be tried. -/
structure Holds (zone : Zone) (opened : OpenGroups) (n : Nat) (marks : Marks) : Prop where
  inOrder : InOrder opened n (zone.bound n) marks
  keeps : zone.Keeps opened n marks marks

def Spans (zone : Zone) (n m : Nat) : Prop :=
  match zone with
  | straight => True
  | repeated whole => whole.first ≤ n ∧ m ≤ whole.last

theorem Keeps.trans (h : zone.Keeps opened n saved marks) (k : zone.Keeps opened m marks other)
    (hn : n ≤ m) : zone.Keeps opened n saved other := by
  cases zone with
  | straight => exact Agrees.trans h k hn
  | repeated => exact k

theorem Holds.mono (h : zone.Holds opened n marks) (hn : n ≤ m) : zone.Holds opened m marks := by
  cases zone with
  | straight => exact ⟨h.inOrder.mono hn hn, .refl _ _ _⟩
  | repeated => exact ⟨h.inOrder.mono hn (Nat.le_refl _), h.keeps⟩

theorem Keeps.set {k pos : Nat} (h : zone.Keeps opened n saved marks) (hz : zone.Spans n m)
    (hk : 2 * n ≤ k) : zone.Keeps opened n saved (marks.set k pos) := by
  cases zone with
  | straight => exact Agrees.set h hk
  | repeated => exact Agrees.set h (Nat.le_trans (Nat.mul_le_mul_left 2 hz.1) hk)

theorem Holds.openGroup (h : zone.Holds opened n marks) (hz : zone.Spans n m) (hn : n < m)
    (pos : Nat) :
    zone.Holds ((n, pos) :: opened) (n + 1) (marks.openGroup (n + 1) pos) := by
  cases zone with
  | straight =>
    have hmore : InOrder opened n (n + 1) marks := h.inOrder.mono (Nat.le_refl n) (Nat.le_succ n)
    exact ⟨hmore.openGroup (Nat.lt_succ_self n) pos, .refl _ _ _⟩
  | repeated =>
    exact ⟨h.inOrder.openGroup (Nat.lt_of_lt_of_le hn hz.2) pos,
      Agrees.set h.keeps (by have := hz.1; omega)⟩

theorem Holds.closeGroup {start stop : Nat} (h : zone.Holds ((n, start) :: opened) m marks)
    (hz : zone.Spans n m) (ho : ∀ group ∈ opened, group.1 < n) (hn : n < m)
    (hle : start ≤ stop) : zone.Holds opened m (marks.closeGroup (n + 1) stop) := by
  cases zone with
  | straight => exact ⟨h.inOrder.closeGroup ho hn hle, .refl _ _ _⟩
  | repeated =>
    exact ⟨h.inOrder.closeGroup ho (Nat.lt_of_lt_of_le hn hz.2) hle,
      Agrees.set h.keeps (by have := hz.1; omega)⟩

theorem Keeps.openGroup {pos : Nat} (h : zone.Keeps ((n, pos) :: opened) (n + 1)
    (saved.openGroup (n + 1) pos) marks) : zone.Keeps opened n saved marks := by
  cases zone with
  | straight => exact Agrees.openGroup h
  | repeated => exact h

theorem Keeps.closeGroup {start stop : Nat}
    (h : zone.Keeps opened m (marks.closeGroup (n + 1) stop) other) :
    zone.Keeps ((n, start) :: opened) m marks other := by
  cases zone with
  | straight => exact Agrees.closeGroup h
  | repeated => exact h

theorem Holds.takeBack (h : zone.Holds opened n saved)
    (hs : setting.repeated = zone.isRepeated) (hk : zone.Keeps opened n saved marks) :
    zone.Holds opened n (setting.takeBack saved marks) ∧
      zone.Keeps opened n saved (setting.takeBack saved marks) := by
  unfold Setting.takeBack
  rw [hs]
  cases zone with
  | straight => exact ⟨⟨h.inOrder.take hk, .refl _ _ _⟩, Agrees.take hk⟩
  | repeated => exact ⟨h, h.keeps⟩

end Zone

/-- What is known after a success and after a failure. -/
def Attempt.Ends (good : Trail → Prop) (kept : Marks → Prop) : Attempt → Prop
  | .success trail => good trail
  | .failure trail => kept trail.marks

/-- The rest behind `m` groups of a match, for a part that began behind `n` groups at `pos`. -/
def Rest.IsOrderly (rest : Rest) (zone : Zone) (opened : OpenGroups) (n m : Nat) (saved : Marks)
    (pos : Nat) (good : Trail → Prop) : Prop :=
  ∀ place trail, pos ≤ place.pos → zone.Holds opened m trail.marks →
    zone.Keeps opened n saved trail.marks →
    (rest place trail).Ends good (zone.Keeps opened m trail.marks)

def Runner.IsOrderly (body : Runner) (zone : Zone) (opened : OpenGroups) (n m : Nat) : Prop :=
  ∀ place trail rest good, zone.Holds opened n trail.marks →
    Rest.IsOrderly rest zone opened n m trail.marks place.pos good →
    (body place trail rest).Ends good (zone.Keeps opened n trail.marks)

section
variable {zone : Zone} {opened : OpenGroups} {n m : Nat} {saved : Marks} {setting : Setting}
  {set : CharSet} {rest : Rest} {body : Runner} {attempt : Attempt} {good : Trail → Prop}
  {kept left : Marks → Prop} {place : Place} {trail : Trail} {pos : Nat}

theorem Attempt.Ends.mono (h : attempt.Ends good kept) (hk : ∀ marks, kept marks → left marks) :
    attempt.Ends good left := by
  cases attempt with
  | success final => exact h
  | failure trail => exact hk trail.marks h

theorem Attempt.Ends.onFailure {next : Trail → Attempt} (h : attempt.Ends good kept)
    (hn : ∀ trail, kept trail.marks → (next trail).Ends good left) :
    (attempt.onFailure next).Ends good left := by
  cases attempt with
  | success final => exact h
  | failure trail => exact hn trail h

theorem Rest.IsOrderly.ends (h : Rest.IsOrderly rest zone opened n m saved pos good) (hn : n ≤ m)
    (hp : pos ≤ place.pos) (hholds : zone.Holds opened m trail.marks)
    (hkeeps : zone.Keeps opened n saved trail.marks) :
    (rest place trail).Ends good (zone.Keeps opened n saved) :=
  (h place trail hp hholds hkeeps).mono fun _ hk => hkeeps.trans hk hn

theorem Attempt.Ends.takeBack (h : attempt.Ends good (zone.Keeps opened n saved))
    (hs : setting.repeated = zone.isRepeated) (hholds : zone.Holds opened n saved) :
    (attempt.onFailure fun left =>
      .failure { left with marks := setting.takeBack saved left.marks }).Ends good
        fun marks => zone.Holds opened n marks ∧ zone.Keeps opened n saved marks :=
  h.onFailure fun _ hk => hholds.takeBack hs hk

theorem Setting.tryWay_ends {lead : Lead} (hs : setting.repeated = zone.isRepeated)
    (hb : Runner.IsOrderly body zone opened n m) (hholds : zone.Holds opened n trail.marks)
    (hrest : Rest.IsOrderly rest zone opened n m trail.marks place.pos good) :
    (setting.tryWay lead body place trail rest).Ends good
      fun marks => zone.Holds opened n marks ∧ zone.Keeps opened n trail.marks marks := by
  unfold tryWay
  split
  · exact (hb place (trail.reach place) rest good hholds hrest).takeBack hs hholds
  · exact ⟨hholds, hholds.keeps⟩

-- ---------------------------------------------------------------------------
-- Repeats of a character
-- ---------------------------------------------------------------------------

theorem Setting.tryHere_ends (hs : setting.repeated = zone.isRepeated) (hn : n ≤ m)
    (hsaved : zone.Holds opened n saved)
    (hrest : Rest.IsOrderly rest zone opened n m saved pos good) (hp : pos ≤ place.pos)
    (hholds : zone.Holds opened n trail.marks) (hkeeps : zone.Keeps opened n saved trail.marks) :
    let attempt :=
      if setting.next.mayFollow place then
        (rest place (trail.reach place)).onFailure fun left =>
          .failure { left with marks := setting.takeBack saved left.marks }
      else .failure trail
    attempt.Ends good fun marks => zone.Holds opened n marks ∧ zone.Keeps opened n saved marks := by
  have hhere : (rest place (trail.reach place)).Ends good (zone.Keeps opened n saved) :=
    hrest.ends hn hp (hholds.mono hn) hkeeps
  split
  · exact hhere.takeBack hs hsaved
  · exact ⟨hholds, hkeeps⟩

theorem Setting.tryBackward_ends (hs : setting.repeated = zone.isRepeated) (hn : n ≤ m)
    (hsaved : zone.Holds opened n saved)
    (hrest : Rest.IsOrderly rest zone opened n m saved pos good) {spare : Nat}
    (hp : pos + spare ≤ place.pos) (hholds : zone.Holds opened n trail.marks)
    (hkeeps : zone.Keeps opened n saved trail.marks) :
    (setting.tryBackward saved rest spare place trail).Ends good (zone.Keeps opened n saved) := by
  induction spare generalizing place trail with
  | zero =>
    have hhere := setting.tryHere_ends hs hn hsaved hrest hp hholds hkeeps
    unfold tryBackward
    dsimp only
    split
    · contradiction
    · exact hhere.mono fun _ hk => hk.2
  | succ spare ih =>
    have hle : pos ≤ place.pos := by omega
    have hhere := setting.tryHere_ends hs hn hsaved hrest hle hholds hkeeps
    unfold tryBackward
    revert hhere
    generalize (if setting.next.mayFollow place then _ else _) = attempt
    intro hhere
    dsimp only
    split
    · rename_i left spare' x before he hb
      obtain rfl := Nat.succ.inj he
      refine ih ?_ hhere.1 hhere.2
      dsimp only
      omega
    · exact hhere.mono fun _ hk => hk.2

theorem Setting.tryForward_ends (hs : setting.repeated = zone.isRepeated) (hn : n ≤ m)
    (hsaved : zone.Holds opened n saved)
    (hrest : Rest.IsOrderly rest zone opened n m saved pos good) {spare : Nat}
    (hp : pos ≤ place.pos) (hholds : zone.Holds opened n trail.marks)
    (hkeeps : zone.Keeps opened n saved trail.marks) :
    (setting.tryForward set saved rest spare place trail).Ends good
      (zone.Keeps opened n saved) := by
  have hhere (place : Place) (trail : Trail) (hp : pos ≤ place.pos)
      (hholds : zone.Holds opened n trail.marks) (hkeeps : zone.Keeps opened n saved trail.marks) :
      (rest place (trail.reach place)).Ends good (zone.Keeps opened n saved) :=
    hrest.ends hn hp (hholds.mono hn) hkeeps
  induction spare generalizing place trail with
  | zero =>
    unfold tryForward
    refine (hhere place trail hp hholds hkeeps).onFailure fun left hk => ?_
    obtain ⟨-, hback⟩ := hsaved.takeBack hs hk
    dsimp only
    split
    · exact hback
    · split
      · split <;> exact hback
      · exact hback
  | succ spare ih =>
    unfold tryForward
    refine (hhere place trail hp hholds hkeeps).onFailure fun left hk => ?_
    obtain ⟨hmore, hback⟩ := hsaved.takeBack hs hk
    dsimp only
    split
    · exact hback
    · split
      · exact ih (Nat.le_succ_of_le hp) hmore hback
      · exact hback

theorem Setting.runSingle_isOrderly {mode : RepeatMode} {low : Nat} {high : Option Nat}
    (hs : setting.repeated = zone.isRepeated) (hn : n ≤ m) :
    Runner.IsOrderly (setting.runSingle set mode low high) zone opened n m := by
  intro place trail rest good hholds hrest
  unfold runSingle
  split
  · dsimp only
    generalize hlimit : (if mode = .reluctant then some low else high) = limit
    obtain ⟨read, hcount, hr, -, -⟩ := stretch_reads set limit 0 place.pos place.before place.after
    have hpos := hr.pos
    split
    · exact hholds.keeps
    · cases mode with
      | greedy =>
        refine tryBackward_ends hs hn hholds hrest ?_ hholds hholds.keeps
        dsimp only at hpos
        omega
      | reluctant =>
        refine tryForward_ends hs hn hholds hrest ?_ hholds hholds.keeps
        dsimp only at hpos
        omega
      | possessive =>
        refine hrest.ends hn ?_ (hholds.mono hn) hholds.keeps
        dsimp only at hpos
        omega
  · exact hholds.keeps

end

-- ---------------------------------------------------------------------------
-- Other repeats
-- ---------------------------------------------------------------------------

def Rest.IsLoop (rest : Rest) (zone : Zone) (opened : OpenGroups) (n : Nat) (pos : Nat)
    (good : Trail → Prop) : Prop :=
  ∀ place trail, pos ≤ place.pos → zone.Holds opened n trail.marks →
    (rest place trail).Ends good (zone.Keeps opened n trail.marks)

section
variable {whole : Repeat} {opened : OpenGroups} {n m pos : Nat} {body : Runner} {rest more : Rest}
  {good : Trail → Prop} {place : Place}

theorem Zone.Holds.rewind {marks : Marks}
    (h : (Zone.repeated whole).Holds opened m marks)
    (ho : ∀ group ∈ opened, group.1 < n) :
    (Zone.repeated whole).Holds opened n marks :=
  ⟨⟨h.inOrder.length_le, ho, h.inOrder.start, h.inOrder.ordered⟩, h.keeps⟩

theorem Rest.IsLoop.isOrderly {saved : Marks}
    (h : Rest.IsLoop rest (.repeated whole) opened n pos good)
    (ho : ∀ group ∈ opened, group.1 < n) (hp : pos ≤ place.pos) :
    Rest.IsOrderly rest (.repeated whole) opened n m saved place.pos good :=
  fun next trail hnext hholds _ => h next trail (Nat.le_trans hp hnext) (hholds.rewind ho)

theorem runExactly_isLoop (hb : Runner.IsOrderly body (.repeated whole) opened n m)
    (ho : ∀ group ∈ opened, group.1 < n)
    (hm : Rest.IsLoop more (.repeated whole) opened n pos good) (count : Nat) :
    Rest.IsLoop (runExactly body more count) (.repeated whole) opened n pos
      good := by
  induction count with
  | zero => exact hm
  | succ count ih =>
    intro place trail hp hholds
    unfold runExactly
    have hround := hb place (trail.reach place) (runExactly body more count) good hholds
      (ih.isOrderly ho hp)
    exact hround.onFailure fun left hk => hk

theorem leaveRepeat_isLoop
    (hrest : Rest.IsLoop rest (.repeated whole) opened n pos good) :
    Rest.IsLoop (leaveRepeat rest) (.repeated whole) opened n pos good :=
  fun place trail hp hholds =>
    (hrest place (trail.reach place) hp hholds).onFailure fun _ hk => hk

theorem runGreedy_isLoop (hb : Runner.IsOrderly body (.repeated whole) opened n m)
    (ho : ∀ group ∈ opened, group.1 < n)
    (hrest : Rest.IsLoop rest (.repeated whole) opened n pos good) (fuel : Nat)
    (since : Option Nat) :
    Rest.IsLoop (runGreedy body rest fuel since) (.repeated whole) opened n pos
      good := by
  induction fuel generalizing since with
  | zero => exact leaveRepeat_isLoop hrest
  | succ fuel ih =>
    intro place trail hp hholds
    have hleave := leaveRepeat_isLoop hrest place trail hp hholds
    unfold runGreedy
    split
    · exact hleave
    · have hround := hb place (trail.reach place) _ good hholds
        ((ih (some place.pos)).isOrderly ho hp)
      exact hround.onFailure fun _ _ => hleave

theorem Setting.runReluctant_isLoop {setting : Setting}
    (hb : Runner.IsOrderly body (.repeated whole) opened n m)
    (ho : ∀ group ∈ opened, group.1 < n)
    (hrest : ∀ place trail, pos ≤ place.pos →
      (Zone.repeated whole).Holds opened n trail.marks →
      (rest place trail).Ends good fun marks =>
        (Zone.repeated whole).Holds opened n
          (setting.takeBack trail.marks marks))
    (fuel : Nat) (since : Option Nat) :
    Rest.IsLoop (setting.runReluctant body rest fuel since) (.repeated whole)
      opened n pos good := by
  induction fuel generalizing since with
  | zero =>
    intro place trail hp hholds
    unfold runReluctant
    exact (hrest place (trail.reach place) hp hholds).onFailure fun left hk => hk.keeps
  | succ fuel ih =>
    intro place trail hp hholds
    unfold runReluctant
    refine (hrest place (trail.reach place) hp hholds).onFailure fun left hk => ?_
    dsimp only
    split
    · exact hk.keeps
    · have hround := hb place ⟨place, setting.takeBack trail.marks left.marks⟩ _ good hk
        ((ih (some place.pos)).isOrderly ho hp)
      exact hround.onFailure fun _ hk => hk

/-- The zone in which the body of a repeat is tried, and the rest as seen from there. -/
theorem Zone.exists_inner {zone : Zone} {setting : Setting} {saved : Marks}
    (hs : setting.repeated = zone.isRepeated) (hn : n ≤ m) (hz : zone.Spans n m)
    (hholds : zone.Holds opened n saved)
    (hrest : Rest.IsOrderly rest zone opened n m saved pos good) :
    ∃ whole, (Zone.repeated whole).Spans n m ∧
      (Zone.repeated whole).Holds opened n saved ∧
      (∀ marks, (Zone.repeated whole).Keeps opened n saved marks →
        zone.Keeps opened n saved marks) ∧
      ∀ place trail, pos ≤ place.pos →
        (Zone.repeated whole).Holds opened n trail.marks →
        (rest place trail).Ends good fun marks =>
          (Zone.repeated whole).Holds opened n
              (setting.takeBack trail.marks marks) ∧
            (Zone.repeated whole).Keeps opened n trail.marks marks := by
  cases zone with
  | straight =>
    refine ⟨⟨opened, n, m, saved⟩, ⟨Nat.le_refl n, Nat.le_refl m⟩,
      ⟨hholds.inOrder.mono (Nat.le_refl n) hn, .refl _ _ _⟩, fun _ hk => hk, ?_⟩
    intro place trail hp hinner
    have hbehind : straight.Holds opened m trail.marks :=
      ⟨hinner.inOrder.mono hn (Nat.le_refl m), .refl _ _ _⟩
    refine (hrest place trail hp hbehind hinner.keeps).mono fun marks hk => ?_
    obtain ⟨hback, hagrees⟩ := hbehind.takeBack hs hk
    refine ⟨⟨⟨hback.inOrder.length_le, hholds.inOrder.before, hback.inOrder.start,
      hback.inOrder.ordered⟩, ?_⟩, ?_⟩
    · exact Agrees.trans hinner.keeps hagrees hn
    · exact Agrees.trans hinner.keeps hk hn
  | repeated whole =>
    refine ⟨whole, hz, hholds, fun _ hk => hk, fun place trail hp hinner => ?_⟩
    refine (hrest place trail hp (hinner.mono hn) hinner.keeps).mono fun marks hk => ?_
    exact ⟨(hinner.takeBack hs hk).1, hk⟩

theorem Setting.runTimes_isOrderly {zone : Zone} {setting : Setting} {mode : RepeatMode} {low : Nat}
    {high : Option Nat} (hs : setting.repeated = zone.isRepeated) (hmode : mode ≠ .possessive)
    (hn : n ≤ m) (hz : zone.Spans n m)
    (hb : ∀ inner : Zone, inner.isRepeated = true → inner.Spans n m →
      Runner.IsOrderly body inner opened n m) :
    Runner.IsOrderly (setting.runTimes body mode low high) zone opened n m := by
  intro place trail rest good hholds hrest
  have ho := hholds.inOrder.before
  obtain ⟨whole, hspans, hinner, hkeeps, hleave⟩ :=
    Zone.exists_inner hs hn hz hholds hrest
  have hbody := hb _ rfl hspans
  have hloop : Rest.IsLoop rest (.repeated whole) opened n place.pos good :=
    fun next left hp hh => (hleave next left hp hh).mono fun _ hk => hk.2
  cases mode with
  | greedy =>
    have hrun := runExactly_isLoop hbody ho (runGreedy_isLoop hbody ho hloop
      (spareIterations low high place) none) low place trail (Nat.le_refl _) hinner
    exact hrun.mono hkeeps
  | reluctant =>
    have hmore := setting.runReluctant_isLoop hbody ho
      (fun next left hp hh => (hleave next left hp hh).mono fun _ hk => hk.1)
      (spareIterations low high place) none
    exact (runExactly_isLoop hbody ho hmore low place trail (Nat.le_refl _) hinner).mono hkeeps
  | possessive => exact absurd rfl hmode

end

section
variable {zone : Zone} {opened : OpenGroups} {n m k pos : Nat} {rest : Rest} {saved : Marks}
  {good : Trail → Prop}

theorem Place.pos_le_skip (place : Place) (count : Nat) : place.pos ≤ (place.skip count).pos := by
  induction count generalizing place with
  | zero => exact Nat.le_refl _
  | succ count ih =>
    unfold skip
    split
    · exact Nat.le_refl _
    · rename_i c after _
      exact Nat.le_trans (Nat.le_succ _) (ih (place.step c after))

theorem Zone.Spans.split (h : zone.Spans n m) (hn : n ≤ k) (hm : k ≤ m) :
    zone.Spans n k ∧ zone.Spans k m := by
  cases zone with
  | straight => exact ⟨trivial, trivial⟩
  | repeated => exact ⟨⟨h.1, Nat.le_trans hm h.2⟩, Nat.le_trans h.1 hn, h.2⟩

theorem Rest.IsOrderly.of_le (h : Rest.IsOrderly rest zone opened n m saved pos good)
    (hk : k ≤ m) : Rest.IsOrderly rest zone opened n k saved pos good :=
  fun place trail hp hholds hkeeps =>
    (h place trail hp (hholds.mono hk) hkeeps).mono fun _ hleft => hholds.keeps.trans hleft hk

theorem Rest.IsOrderly.of_keeps {marks : Marks} {next : Nat}
    (h : Rest.IsOrderly rest zone opened n m saved pos good) (hn : n ≤ k)
    (hkeeps : zone.Keeps opened n saved marks) (hp : pos ≤ next) :
    Rest.IsOrderly rest zone opened k m marks next good :=
  fun place trail hplace hholds hmarks =>
    h place trail (Nat.le_trans hp hplace) hholds (hkeeps.trans hmarks hn)

end

-- ---------------------------------------------------------------------------
-- Whole patterns
-- ---------------------------------------------------------------------------

namespace Pattern

/-- The number of the last group, if there are `n` groups before the pattern and its own are
numbered in the order in which they are opened. -/
def lastGroup? : Pattern → Nat → Option Nat
  | .empty, n | .one _, n | .anchor _, n | .again _ _ _, n => some n
  | .seq p q, n | .alt p q, n | .given _ p q, n => (p.lastGroup? n).bind q.lastGroup?
  | .group index p, n => if index = n + 1 then p.lastGroup? index else none
  | .times _ _ _ p, n | .scoped p, n | .look _ _ p, n | .atomic p, n => p.lastGroup? n

def isYielding : Pattern → Bool
  | .empty | .one _ | .anchor _ | .again _ _ _ => true
  | .seq p q | .alt p q | .given _ p q => p.isYielding && q.isYielding
  | .times mode _ _ p => p.single?.isSome || mode != .possessive && p.isYielding
  | .group _ p | .scoped p | .look _ _ p | .atomic p => p.isYielding

variable {p : Pattern} {n m : Nat} {zone : Zone} {opened : OpenGroups} {setting : Setting}

theorem lastGroup?_le (h : p.lastGroup? n = some m) : n ≤ m := by
  induction p generalizing n m with
  | empty | one | anchor | again => exact Nat.le_of_eq (Option.some.inj h)
  | seq p q ihp ihq | alt p q ihp ihq | given _ p q ihp ihq =>
    obtain ⟨k, hp, hq⟩ := Option.bind_eq_some_iff.mp h
    exact Nat.le_trans (ihp hp) (ihq hq)
  | group index p ih =>
    obtain ⟨rfl, hp⟩ := Option.ite_none_right_eq_some.mp h
    exact Nat.le_of_succ_le (ih hp)
  | times _ _ _ p ih | look _ _ p ih | atomic p ih => exact ih h
  | _ =>
    rename_i ih
    exact ih h

theorem run_alt_isOrderly {q : Pattern} {k : Nat} (hs : setting.repeated = zone.isRepeated)
    (hnk : n ≤ k) (hkm : k ≤ m)
    (hp : Runner.IsOrderly (p.run { setting with next := .other }) zone opened n k)
    (hq : Runner.IsOrderly (q.run { setting with next := .other }) zone opened k m) :
    Runner.IsOrderly ((alt p q).run setting) zone opened n m := by
  intro place trail rest good hholds hrest
  unfold run
  refine Attempt.Ends.onFailure (Setting.tryWay_ends hs hp hholds (hrest.of_le hkm))
    fun left hleft => ?_
  obtain ⟨hnow, hkeeps⟩ := hleft
  have hsecond := hrest.of_keeps hnk hkeeps (Nat.le_refl _)
  split
  · exact (hq place left rest good (hnow.mono hnk) hsecond).mono fun _ hk => hkeeps.trans hk hnk
  · exact (Setting.tryWay_ends hs hq (hnow.mono hnk) hsecond).mono fun _ hk =>
      hkeeps.trans hk.2 hnk

theorem run_group_isOrderly (hz : zone.Spans n m) (hn : n < m)
    (hp : ∀ pos, Runner.IsOrderly (p.run { setting with next := .other }) zone
      ((n, pos) :: opened) (n + 1) m) :
    Runner.IsOrderly ((group (n + 1) p).run setting) zone opened n m := by
  intro place trail rest good hholds hrest
  unfold run
  refine (hp place.pos place _ _ good (hholds.openGroup hz hn place.pos)
    fun next left hnext hnow hkeeps => ?_).mono fun _ hk => hk.openGroup
  have hclosed := hnow.closeGroup hz hholds.inOrder.before hn hnext
  exact (hrest next _ hnext hclosed (hkeeps.openGroup.set hz (Nat.le_succ _))).mono fun _ hk =>
    hk.closeGroup

theorem runAgain_isOrderly {index : Nat} {ignoreCase ascii : Bool} :
    Runner.IsOrderly (runAgain index ignoreCase ascii) zone opened n n := by
  intro place trail rest good hholds hrest
  unfold runAgain
  split
  · exact hholds.keeps
  · dsimp only
    split
    · exact hrest _ trail (place.pos_le_skip _) hholds hholds.keeps
    · exact hholds.keeps

theorem settle_ends {body : Runner} {trail : Trail} (hb : Runner.IsOrderly body zone opened n m)
    (hholds : zone.Holds opened n trail.marks) (origin : Place) :
    (body origin (trail.reach origin) settle).Ends
      (fun final => origin.pos ≤ final.reached.pos ∧ zone.Holds opened m final.marks ∧
        zone.Keeps opened n trail.marks final.marks)
      (zone.Keeps opened n trail.marks) :=
  hb origin (trail.reach origin) settle _ hholds fun _ _ hnext hnow hkeeps => ⟨hnext, hnow, hkeeps⟩

theorem Setting.runLook_isOrderly {body : Runner} {direction : LookDirection} {negated : Bool}
    (hs : setting.repeated = zone.isRepeated) (hn : n ≤ m)
    (hb : Runner.IsOrderly body zone opened n m) :
    Runner.IsOrderly (setting.runLook body direction negated) zone opened n m := by
  intro place trail rest good hholds hrest
  unfold Setting.runLook
  dsimp only
  split
  · exact hholds.keeps
  · exact hrest.ends hn (Nat.le_refl _) (hholds.mono hn) hholds.keeps
  · rename_i origin _
    have hlook := settle_ends hb hholds origin
    split
    · rename_i final hrun
      rw [hrun] at hlook
      exact hrest.ends hn (Nat.le_refl _) hlook.2.1 hlook.2.2
    · rename_i left hrun
      rw [hrun] at hlook
      exact hlook
  · rename_i origin _
    have hlook := settle_ends hb hholds origin
    split
    · rename_i final hrun
      rw [hrun] at hlook
      exact hlook.2.2
    · rename_i left hrun
      rw [hrun] at hlook
      obtain ⟨hnow, hkeeps⟩ := hholds.takeBack hs hlook
      exact hrest.ends hn (Nat.le_refl _) (hnow.mono hn) hkeeps

theorem run_atomic_isOrderly (hn : n ≤ m)
    (hp : Runner.IsOrderly (p.run { setting with next := .other }) zone opened n m) :
    Runner.IsOrderly ((atomic p).run setting) zone opened n m := by
  intro place trail rest good hholds hrest
  have hbody := settle_ends hp hholds place
  unfold run
  split
  · rename_i final hrun
    rw [hrun] at hbody
    obtain ⟨hreached, hnow, hkeeps⟩ := hbody
    exact hrest.ends hn hreached hnow hkeeps
  · rename_i left hrun
    rw [hrun] at hbody
    exact hbody

theorem run_isOrderly (h : p.lastGroup? n = some m) (hy : p.isYielding = true)
    (hz : zone.Spans n m) (hs : setting.repeated = zone.isRepeated) :
    Runner.IsOrderly (p.run setting) zone opened n m := by
  induction p generalizing n m zone opened setting with
  | empty =>
    cases h
    exact fun place trail rest good hholds hrest =>
      hrest place trail (Nat.le_refl _) hholds hholds.keeps
  | one set =>
    cases h
    intro place trail rest good hholds hrest
    unfold run
    split
    · exact hholds.keeps
    · split
      · exact hrest _ trail (Nat.le_succ _) hholds hholds.keeps
      · exact hholds.keeps
  | anchor condition =>
    cases h
    intro place trail rest good hholds hrest
    unfold run
    split
    · exact hrest place trail (Nat.le_refl _) hholds hholds.keeps
    · exact hholds.keeps
  | seq p q ihp ihq =>
    obtain ⟨k, hp, hq⟩ := Option.bind_eq_some_iff.mp h
    obtain ⟨hyp, hyq⟩ := Bool.and_eq_true_iff.mp hy
    have hnk := lastGroup?_le hp
    obtain ⟨hzp, hzq⟩ := hz.split hnk (lastGroup?_le hq)
    intro place trail rest good hholds hrest
    unfold run
    refine ihp hp hyp hzp (by exact hs) place trail _ good hholds
      fun next left hnext hnow hkeeps => ?_
    exact ihq hq hyq hzq hs next left rest good hnow (hrest.of_keeps hnk hkeeps hnext)
  | alt p q ihp ihq =>
    obtain ⟨k, hp, hq⟩ := Option.bind_eq_some_iff.mp h
    obtain ⟨hyp, hyq⟩ := Bool.and_eq_true_iff.mp hy
    have hnk := lastGroup?_le hp
    have hkm := lastGroup?_le hq
    obtain ⟨hzp, hzq⟩ := hz.split hnk hkm
    exact run_alt_isOrderly hs hnk hkm (ihp hp hyp hzp hs) (ihq hq hyq hzq hs)
  | times mode low high p ih =>
    have hn := lastGroup?_le h
    intro place trail rest good hholds hrest
    unfold run
    split
    · exact Setting.runSingle_isOrderly hs hn place trail rest good hholds hrest
    · rename_i hsingle
      have hbody : mode ≠ .possessive ∧ p.isYielding = true := by
        simpa [isYielding, hsingle] using hy
      refine Setting.runTimes_isOrderly hs hbody.1 hn hz (fun inner hinner hspans => ?_) place trail
        rest good hholds hrest
      refine ih h hbody.2 hspans ?_
      simp [hinner, hbody.1]
  | group index p ih =>
    obtain ⟨rfl, hp⟩ := Option.ite_none_right_eq_some.mp h
    have hn : n < m := lastGroup?_le hp
    obtain ⟨-, hzp⟩ := hz.split (Nat.le_succ n) hn
    exact run_group_isOrderly hz hn fun pos => ih hp hy hzp hs
  | again index ignoreCase ascii =>
    cases h
    exact runAgain_isOrderly
  | given index p q ihp ihq =>
    obtain ⟨k, hp, hq⟩ := Option.bind_eq_some_iff.mp h
    obtain ⟨hyp, hyq⟩ := Bool.and_eq_true_iff.mp hy
    have hnk := lastGroup?_le hp
    have hkm := lastGroup?_le hq
    obtain ⟨hzp, hzq⟩ := hz.split hnk hkm
    intro place trail rest good hholds hrest
    unfold run
    split
    · refine ihp hp hyp hzp ?_ place trail rest good hholds (hrest.of_le hkm)
      split <;> exact hs
    · have hsecond := hrest.of_keeps hnk hholds.keeps (Nat.le_refl _)
      exact (ihq hq hyq hzq hs place trail rest good (hholds.mono hnk) hsecond).mono fun _ hk =>
        hholds.keeps.trans hk hnk
  | look direction negated p ih =>
    exact Setting.runLook_isOrderly hs (lastGroup?_le h) (ih h hy hz (by exact hs))
  | atomic p ih => exact run_atomic_isOrderly (lastGroup?_le h) (ih h hy hz hs)
  | _ =>
    rename_i ih
    exact ih h hy hz hs

/-- Where only characters are repeated possessively, no group of a match was opened again behind its
last end. -/
theorem matchAt?_areCrossed {a : Place} {found : Match} (h : (p.lastGroup? 0).isSome = true)
    (hy : p.isYielding = true) (hm : p.matchAt? a = some found) :
    found.marks.areCrossed = false := by
  obtain ⟨last, hlast⟩ := Option.isSome_iff_exists.mp h
  obtain ⟨final, hrun, rfl⟩ := matchAt?_eq_some hm
  have hbegin : Zone.straight.Holds [] 0 [] :=
    ⟨⟨Nat.le_refl 0, List.forall_mem_nil _, List.forall_mem_nil _, fun _ _ _ _ h => nomatch h⟩,
      .refl _ _ _⟩
  have hspans : Zone.straight.Spans 0 last := trivial
  have hs : Setting.repeated {} = Zone.straight.isRepeated := rfl
  have hends := run_isOrderly hlast hy hspans hs a ⟨a, []⟩ settle
    (fun final => final.marks.areCrossed = false) hbegin
    fun place trail _ hholds _ => hholds.inOrder.areCrossed
  rwa [hrun] at hends

theorem FoundIn.areCrossed {text : List Char} {found : Match} (hf : p.FoundIn text found)
    (h : (p.lastGroup? 0).isSome = true) (hy : p.isYielding = true) :
    found.marks.areCrossed = false := by
  obtain ⟨a, -, hm⟩ := hf
  exact matchAt?_areCrossed h hy hm

theorem lastGroup?_of_isPlain (h : p.isPlain = true) (n : Nat) : p.lastGroup? n = some n := by
  induction p with
  | empty | one | anchor => rfl
  | seq p q ihp ihq | alt p q ihp ihq =>
    obtain ⟨hp, hq⟩ := Bool.and_eq_true_iff.mp h
    rw [lastGroup?, ihp hp]
    exact ihq hq
  | times mode low high p ih =>
    cases mode with
    | greedy => exact ih (Bool.and_eq_true_iff.mp h).2
    | reluctant | possessive => cases h
  | look direction negated p ih =>
    match direction, p with
    | .ahead, .one set => rfl
  | group | again | given | atomic => cases h
  | _ =>
    rename_i ih
    exact ih h

theorem isYielding_of_isPlain (h : p.isPlain = true) : p.isYielding = true := by
  induction p with
  | empty | one | anchor => rfl
  | seq p q ihp ihq | alt p q ihp ihq =>
    obtain ⟨hp, hq⟩ := Bool.and_eq_true_iff.mp h
    rw [isYielding, ihp hp, ihq hq]
    rfl
  | times mode low high p ih =>
    cases mode with
    | greedy =>
      rw [isYielding, ih (Bool.and_eq_true_iff.mp h).2]
      exact Bool.or_true _
    | reluctant | possessive => cases h
  | look direction negated p ih =>
    match direction, p with
    | .ahead, .one set => rfl
  | group | again | given | atomic => cases h
  | _ =>
    rename_i ih
    exact ih h

end Pattern

end SolidityLint
