import SolidityLint.Pattern.Match
import SolidityLint.Pattern.Width

/-!
# What patterns take

`Takes p a b` says that a pattern can lead from one place to another, with no word on which of
several ways a match goes. A pattern takes a stretch of the text that is at least as long as its
least width (`Takes.reads`).
-/

namespace SolidityLint

-- ---------------------------------------------------------------------------
-- Reading from place to place
-- ---------------------------------------------------------------------------

namespace Place

/-- `b` is where one stands after reading `read` from `a` on. -/
structure Reads (a : Place) (read : List Char) (b : Place) : Prop where
  after : a.after = read ++ b.after
  before : b.before = read.reverse ++ a.before
  pos : b.pos = a.pos + read.length

structure In (place : Place) (text : List Char) : Prop where
  text : place.text = text
  pos : place.pos = place.before.length

variable {a b c : Place} {read first second text : List Char}

theorem Reads.refl (a : Place) : a.Reads [] a := ⟨rfl, rfl, rfl⟩

theorem Reads.trans (h : a.Reads first b) (k : b.Reads second c) :
    a.Reads (first ++ second) c where
  after := by rw [h.after, k.after, List.append_assoc]
  before := by rw [k.before, h.before, List.reverse_append, List.append_assoc]
  pos := by rw [k.pos, h.pos, List.length_append]; omega

theorem Reads.step {x : Char} {rest : List Char} (h : a.after = x :: rest) :
    a.Reads [x] (a.step x rest) :=
  ⟨h, rfl, rfl⟩

theorem Reads.eq_of_nil (h : a.Reads [] b) : b = a := by
  obtain ⟨pos, before, after⟩ := a
  obtain ⟨ha, hb, hp⟩ := h
  cases b
  simp_all

theorem Reads.of_cons {x : Char} (h : a.Reads (x :: read) b) :
    ∃ rest, a.after = x :: rest ∧ (a.step x rest).Reads read b := by
  refine ⟨read ++ b.after, h.after, rfl, ?_, ?_⟩
  · simpa [Place.step] using h.before
  · simpa [Place.step, Nat.add_comm, Nat.add_left_comm] using h.pos

theorem Reads.unstep {x y : Char} {before : List Char} (h : a.Reads (read ++ [y]) b)
    (hb : b.before = x :: before) : a.Reads read ⟨b.pos - 1, before, x :: b.after⟩ := by
  have he : x :: before = y :: (read.reverse ++ a.before) := by
    rw [← hb, h.before, List.reverse_append]
    rfl
  obtain ⟨rfl, hrest⟩ := List.cons.inj he
  refine ⟨?_, hrest, ?_⟩
  · simpa using h.after
  · simp [h.pos]

theorem Reads.in (h : a.Reads read b) (ha : a.In text) : b.In text where
  text := by
    rw [← ha.text, Place.text, Place.text, h.before, h.after]
    simp
  pos := by
    rw [h.pos, ha.pos, h.before]
    simp [Nat.add_comm]

theorem In.of_start (text : List Char) : In { after := text } text := ⟨rfl, rfl⟩

theorem In.of_append (front back : List Char) :
    In ⟨front.length, front.reverse, back⟩ (front ++ back) :=
  ⟨by rw [Place.text, List.reverse_reverse], List.length_reverse.symm⟩

theorem In.pos_add_length (h : a.In text) : a.pos + a.after.length = text.length := by
  rw [← h.text, h.pos, Place.text]
  simp

theorem In.pos_le (h : a.In text) : a.pos ≤ text.length := by
  have := h.pos_add_length
  omega

theorem In.getElem?_pos (h : a.In text) : text[a.pos]? = a.after.head? := by
  rw [← h.text, Place.text, h.pos, ← List.length_reverse,
    List.getElem?_append_right (Nat.le_refl _), Nat.sub_self, ← List.head?_eq_getElem?]

theorem In.length_le_pos {front back : List Char} {c : Char} (h : a.In (front ++ back))
    (hhead : a.after.head? = some c) (hc : c ∉ front) : front.length ≤ a.pos := by
  refine Nat.le_of_not_lt fun hlt => ?_
  have hget := h.getElem?_pos.trans hhead
  rw [List.getElem?_append_left hlt] at hget
  exact hc (List.mem_of_getElem? hget)

end Place

-- ---------------------------------------------------------------------------
-- Meanings of patterns
-- ---------------------------------------------------------------------------

def Iterated {α : Type} (R : α → α → Prop) : Nat → α → α → Prop
  | 0, a, b => b = a
  | n + 1, a, c => ∃ b, R a b ∧ Iterated R n b c

theorem Iterated.add {α : Type} {R : α → α → Prop} {m n : Nat} {a b c : α}
    (h : Iterated R m a b) (k : Iterated R n b c) : Iterated R (m + n) a c := by
  induction m generalizing a with
  | zero =>
    cases h
    rwa [Nat.zero_add]
  | succ m ih =>
    obtain ⟨next, hr, h⟩ := h
    rw [Nat.succ_add]
    exact ⟨next, hr, ih h⟩

theorem Iterated.split {α : Type} {R : α → α → Prop} {m n : Nat} {a c : α}
    (h : Iterated R (m + n) a c) : ∃ b, Iterated R m a b ∧ Iterated R n b c := by
  induction m generalizing a with
  | zero =>
    rw [Nat.zero_add] at h
    exact ⟨a, rfl, h⟩
  | succ m ih =>
    rw [Nat.succ_add] at h
    obtain ⟨next, hr, h⟩ := h
    obtain ⟨b, hfirst, hsecond⟩ := ih h
    exact ⟨b, ⟨next, hr, hfirst⟩, hsecond⟩

namespace Pattern

/-- From where to where a pattern can lead. References, conditions on groups and atomic groups have
no meaning here. -/
def Takes : Pattern → Place → Place → Prop
  | .empty => fun a b => b = a
  | .one set => fun a b =>
    ∃ x rest, a.after = x :: rest ∧ set.contains x = true ∧ b = a.step x rest
  | .anchor condition => fun a b => condition.holds a = true ∧ b = a
  | .seq p q => fun a c => ∃ b, p.Takes a b ∧ q.Takes b c
  | .alt p q => fun a b => p.Takes a b ∨ q.Takes a b
  | .times _ low high p => fun a b =>
    ∃ n, low ≤ n ∧ (∀ limit ∈ high, n ≤ limit) ∧ Iterated p.Takes n a b
  | .group _ p | .scoped p => p.Takes
  | .look _ negated p => fun a b => b = a ∧ (negated = true ↔ ¬∃ c, p.Takes a c)
  | .again .. | .given .. | .atomic _ => fun _ _ => False

variable {p q : Pattern} {ps : List Pattern} {a b c : Place}

theorem Iterated.reads {n least : Nat}
    (hp : ∀ {a b}, p.Takes a b → ∃ read, a.Reads read b ∧ least ≤ read.length)
    (h : Iterated p.Takes n a b) : ∃ read, a.Reads read b ∧ n * least ≤ read.length := by
  induction n generalizing a with
  | zero =>
    cases h
    exact ⟨[], .refl _, by simp⟩
  | succ n ih =>
    obtain ⟨next, hr, h⟩ := h
    obtain ⟨first, hf, hfl⟩ := hp hr
    obtain ⟨second, hs, hsl⟩ := ih h
    refine ⟨first ++ second, hf.trans hs, ?_⟩
    rw [List.length_append, Nat.succ_mul]
    omega

theorem Takes.reads (h : p.Takes a b) :
    ∃ read, a.Reads read b ∧ (p.width []).least ≤ read.length := by
  induction p generalizing a b with
  | empty => cases h; exact ⟨[], .refl _, Nat.le_refl _⟩
  | one set =>
    obtain ⟨x, rest, ha, -, rfl⟩ := h
    exact ⟨[x], .step ha, Nat.le_refl _⟩
  | anchor condition =>
    obtain ⟨-, rfl⟩ := h
    exact ⟨[], .refl b, Nat.le_refl _⟩
  | seq p q ihp ihq =>
    obtain ⟨mid, hp, hq⟩ := h
    obtain ⟨first, hf, hfl⟩ := ihp hp
    obtain ⟨second, hs, hsl⟩ := ihq hq
    refine ⟨first ++ second, hf.trans hs, ?_⟩
    rw [List.length_append]
    exact Nat.add_le_add hfl hsl
  | alt p q ihp ihq =>
    rcases h with h | h
    · obtain ⟨read, hr, hl⟩ := ihp h
      exact ⟨read, hr, Nat.le_trans (Nat.min_le_left _ _) hl⟩
    · obtain ⟨read, hr, hl⟩ := ihq h
      exact ⟨read, hr, Nat.le_trans (Nat.min_le_right _ _) hl⟩
  | times mode low high p ih =>
    obtain ⟨n, hn, -, h⟩ := h
    obtain ⟨read, hr, hl⟩ := Iterated.reads ih h
    exact ⟨read, hr, Nat.le_trans (Nat.mul_le_mul_right _ hn) hl⟩
  | look direction negated p ih =>
    obtain ⟨rfl, -⟩ := h
    exact ⟨[], .refl b, Nat.le_refl _⟩
  | again | given | atomic => exact h.elim
  -- groups
  | _ =>
    rename_i ih
    exact ih h

theorem takes_all_cons : (all (p :: ps)).Takes a c ↔ ∃ b, p.Takes a b ∧ (all ps).Takes b c := by
  cases ps with
  | nil =>
    refine ⟨fun h => ⟨c, h, rfl⟩, ?_⟩
    rintro ⟨b, h, rfl⟩
    exact h
  | cons q ps => exact Iff.rfl

theorem least_width_all_cons :
    ((all (p :: ps)).width []).least = (p.width []).least + ((all ps).width []).least := by
  cases ps with
  | nil => rfl
  | cons q ps => rfl

theorem takes_caseless {text : String} (h : (caseless text).Takes a b) :
    ∃ read, a.Reads read b ∧ read.length = text.toList.length ∧
      ∀ x ∈ read, ∃ c ∈ text.toList, Text.foldCode x.toNat = Text.foldCode c.toNat := by
  unfold caseless at h
  revert h
  generalize text.toList = letters
  intro h
  induction letters generalizing a with
  | nil =>
    cases h
    exact ⟨[], .refl _, rfl, by simp⟩
  | cons c letters ih =>
    obtain ⟨next, ⟨x, rest, ha, hx, rfl⟩, h⟩ := takes_all_cons.mp h
    obtain ⟨read, hr, hl, hread⟩ := ih h
    refine ⟨[x] ++ read, (Place.Reads.step ha).trans hr, by simp [hl], ?_⟩
    intro y hy
    rcases List.mem_cons.mp hy with rfl | hy
    · exact ⟨c, List.mem_cons_self, by simpa [CharSet.contains, CharItem.char, foldedCode] using hx⟩
    · obtain ⟨d, hd, he⟩ := hread y hy
      exact ⟨d, List.mem_cons_of_mem _ hd, he⟩

theorem takes_times_one {mode : RepeatMode} {low : Nat} {high : Option Nat} {set : CharSet}
    (h : (times mode low high (.one set)).Takes a b) :
    ∃ read, a.Reads read b ∧ ∀ x ∈ read, set.contains x = true := by
  obtain ⟨n, -, -, h⟩ := h
  induction n generalizing a with
  | zero =>
    cases h
    exact ⟨[], .refl _, by simp⟩
  | succ n ih =>
    obtain ⟨next, ⟨x, rest, ha, hx, rfl⟩, h⟩ := h
    obtain ⟨read, hr, hs⟩ := ih h
    refine ⟨[x] ++ read, (Place.Reads.step ha).trans hr, ?_⟩
    simpa [hx] using hs

end Pattern

end SolidityLint
