import SolidityLint.Pattern.Marks

/-!
# Marks in order

Marks by their number, and what it is for them to be in order: every group that is not open ends
behind its beginning (`InOrder`). Opening and closing groups keeps marks in order, and so does
cutting off what a failed way has left behind, if it agrees with the marks that were there before.
-/

namespace SolidityLint

-- ---------------------------------------------------------------------------
-- Marks by their number
-- ---------------------------------------------------------------------------

namespace Marks

variable {marks saved : Marks} {n m i k pos : Nat}

def value? (marks : Marks) (i : Nat) : Option Nat := marks[i]?.join

theorem value?_of_length_le (h : marks.length ≤ i) : marks.value? i = none := by
  rw [value?, List.getElem?_eq_none h]
  rfl

theorem lt_length_of_value? (h : marks.value? i = some pos) : i < marks.length := by
  refine Nat.lt_of_not_le fun hle => ?_
  rw [value?_of_length_le hle] at h
  cases h

theorem value?_take (marks : Marks) (n i : Nat) :
    value? (marks.take n) i = if i < n then marks.value? i else none := by
  rw [value?, List.getElem?_take]
  split <;> rfl

theorem value?_set (marks : Marks) (k pos i : Nat) :
    (marks.set k pos).value? i = if i = k then some pos else marks.value? i := by
  unfold set value?
  split
  · rename_i hk
    rw [List.getElem?_set]
    split
    · rename_i he
      rw [if_pos he.symm]
      rfl
    · rename_i he
      rw [if_neg (Ne.symm he)]
  · rename_i hk
    rw [List.append_assoc, List.getElem?_append]
    split
    · rename_i hi
      rw [if_neg (by omega)]
    · rename_i hi
      rw [List.getElem?_eq_none (Nat.not_lt.mp hi), List.getElem?_append]
      split
      · rename_i hr
        rw [List.length_replicate] at hr
        rw [List.getElem?_replicate, if_pos hr, if_neg (by omega)]
        rfl
      · rename_i hr
        rw [List.length_replicate] at hr ⊢
        split
        · rename_i he
          have : i - marks.length - (k - marks.length) = 0 := by omega
          rw [this]
          rfl
        · rename_i he
          rw [List.getElem?_eq_none (by rw [List.length_singleton]; omega)]

theorem length_set (marks : Marks) (k pos : Nat) :
    (marks.set k pos).length = max marks.length (k + 1) := by
  unfold set
  split
  · rw [List.length_set]
    omega
  · simp only [List.length_append, List.length_replicate, List.length_singleton]
    omega

theorem areCrossed_eq_false (h : ∀ k first last, marks.value? (2 * k) = some first →
    marks.value? (2 * k + 1) = some last → first ≤ last) : marks.areCrossed = false := by
  induction marks using areCrossed.induct with
  | case1 first last rest ih =>
    have hrest : areCrossed rest = false :=
      ih fun k first last hf hl => h (k + 1) first last hf hl
    cases first with
    | none => simpa [areCrossed] using hrest
    | some first =>
      cases last with
      | none => simpa [areCrossed] using hrest
      | some last => simpa [areCrossed, hrest] using h 0 first last rfl rfl
  | case2 marks hshort =>
    unfold areCrossed
    split
    · exact absurd rfl (hshort _ _ _)
    · rfl

-- ---------------------------------------------------------------------------
-- Marks on the way to a match
-- ---------------------------------------------------------------------------

/-- Groups that are open, each by the number of groups before it, with where they were opened. -/
abbrev OpenGroups := List (Nat × Nat)

/-- Marks in front of the group with `n` groups before it, where no mark is behind that of the
group `bound`: the groups that are not open end behind their beginning. -/
structure InOrder (opened : OpenGroups) (n bound : Nat) (marks : Marks) : Prop where
  length_le : marks.length ≤ 2 * bound
  before : ∀ group ∈ opened, group.1 < n
  start : ∀ group ∈ opened, marks.value? (2 * group.1) = some group.2
  ordered : ∀ k first last, (∀ group ∈ opened, k ≠ group.1) → marks.value? (2 * k) = some first →
    marks.value? (2 * k + 1) = some last → first ≤ last

/-- The marks of the first `n` groups are the same, but for the ends of groups that are open. -/
def Agrees (opened : OpenGroups) (n : Nat) (saved marks : Marks) : Prop :=
  ∀ i < 2 * n, (∀ group ∈ opened, i ≠ 2 * group.1 + 1) → marks.value? i = saved.value? i

variable {opened : OpenGroups} {bound : Nat} {other : Marks}

theorem InOrder.mono (h : InOrder opened n bound marks) (hn : n ≤ m) {most : Nat}
    (hb : bound ≤ most) : InOrder opened m most marks where
  length_le := Nat.le_trans h.length_le (Nat.mul_le_mul_left 2 hb)
  before group hg := Nat.lt_of_lt_of_le (h.before group hg) hn
  start := h.start
  ordered := h.ordered

theorem InOrder.areCrossed (h : InOrder [] n bound marks) : marks.areCrossed = false :=
  areCrossed_eq_false fun k first last => h.ordered k first last (List.forall_mem_nil _)

theorem Agrees.refl (opened : OpenGroups) (n : Nat) (marks : Marks) :
    Agrees opened n marks marks := fun _ _ _ => rfl

theorem Agrees.trans (h : Agrees opened n saved marks) (k : Agrees opened m marks other)
    (hn : n ≤ m) : Agrees opened n saved other := fun i hi ho =>
  (k i (by omega) ho).trans (h i hi ho)

/-- Cut off behind the marks that were there, what a failed way leaves is in order again. -/
theorem InOrder.take (h : InOrder opened n n saved) (ha : Agrees opened n saved marks) :
    InOrder opened n n (marks.take saved.length) where
  length_le := Nat.le_trans (List.length_take_le _ _) h.length_le
  before := h.before
  start group hg := by
    have hset := h.start group hg
    have hbefore := h.before group hg
    rw [value?_take, if_pos (lt_length_of_value? hset),
      ha _ (by omega) fun other _ => by omega, hset]
  ordered k first last hk hfirst hlast := by
    rw [value?_take] at hfirst hlast
    split at hfirst
    · split at hlast
      · have hlength := h.length_le
        rw [ha _ (by omega) fun other _ => by omega] at hfirst
        rw [ha _ (by omega) fun other ho he => hk other ho (by omega)] at hlast
        exact h.ordered k first last hk hfirst hlast
      · cases hlast
    · cases hfirst

theorem Agrees.take (h : Agrees opened n saved marks) :
    Agrees opened n saved (marks.take saved.length) := by
  intro i hi ho
  rw [value?_take]
  split
  · exact h i hi ho
  · rename_i hge
    exact (value?_of_length_le (Nat.not_lt.mp hge)).symm

theorem InOrder.openGroup (h : InOrder opened n bound marks) (hn : n < bound) (pos : Nat) :
    InOrder ((n, pos) :: opened) (n + 1) bound (marks.openGroup (n + 1) pos) where
  length_le := by
    have hlength := h.length_le
    rw [Marks.openGroup, length_set, Nat.add_sub_cancel]
    omega
  before group hg := by
    rcases List.mem_cons.mp hg with rfl | hg
    · exact Nat.lt_succ_self n
    · exact Nat.lt_succ_of_lt (h.before group hg)
  start group hg := by
    rw [Marks.openGroup, value?_set, Nat.add_sub_cancel]
    rcases List.mem_cons.mp hg with rfl | hg
    · exact if_pos rfl
    · have hbefore := h.before group hg
      rw [if_neg (by omega)]
      exact h.start group hg
  ordered k first last hk hfirst hlast := by
    have hne : k ≠ n := hk (n, pos) List.mem_cons_self
    rw [Marks.openGroup, value?_set, Nat.add_sub_cancel, if_neg (by omega)] at hfirst hlast
    exact h.ordered k first last (fun group hg => hk group (List.mem_cons_of_mem _ hg)) hfirst hlast

theorem InOrder.closeGroup {start stop : Nat} (h : InOrder ((n, start) :: opened) m bound marks)
    (ho : ∀ group ∈ opened, group.1 < n) (hn : n < bound) (hle : start ≤ stop) :
    InOrder opened m bound (marks.closeGroup (n + 1) stop) where
  length_le := by
    have hlength := h.length_le
    rw [Marks.closeGroup, length_set, Nat.add_sub_cancel]
    omega
  before group hg := h.before group (List.mem_cons_of_mem _ hg)
  start group hg := by
    rw [Marks.closeGroup, value?_set, if_neg (by omega)]
    exact h.start group (List.mem_cons_of_mem _ hg)
  ordered k first last hk hfirst hlast := by
    rw [Marks.closeGroup, value?_set, Nat.add_sub_cancel] at hfirst hlast
    rw [if_neg (by omega)] at hfirst
    split at hlast
    · cases hlast
      obtain rfl : k = n := by omega
      cases (h.start (k, start) List.mem_cons_self).symm.trans hfirst
      exact hle
    · refine h.ordered k first last (fun group hg => ?_) hfirst hlast
      rcases List.mem_cons.mp hg with rfl | hg
      · dsimp only
        omega
      · exact hk group hg

theorem Agrees.openGroup {pos : Nat} (h : Agrees ((n, pos) :: opened) (n + 1)
    (saved.openGroup (n + 1) pos) marks) : Agrees opened n saved marks := by
  intro i hi ho
  rw [h i (by omega), Marks.openGroup, value?_set, Nat.add_sub_cancel, if_neg (by omega)]
  intro group hg
  rcases List.mem_cons.mp hg with rfl | hg
  · dsimp only
    omega
  · exact ho group hg

theorem Agrees.closeGroup {start stop : Nat}
    (h : Agrees opened m (marks.closeGroup (n + 1) stop) other) :
    Agrees ((n, start) :: opened) m marks other := by
  intro i hi ho
  have hne : i ≠ 2 * n + 1 := ho (n, start) List.mem_cons_self
  rw [h i hi fun group hg => ho group (List.mem_cons_of_mem _ hg), Marks.closeGroup, value?_set,
    Nat.add_sub_cancel, if_neg hne]

theorem Agrees.set (h : Agrees opened n saved marks) (hk : 2 * n ≤ k) :
    Agrees opened n saved (marks.set k pos) := by
  intro i hi ho
  rw [value?_set, if_neg (by omega)]
  exact h i hi ho

end Marks

end SolidityLint
