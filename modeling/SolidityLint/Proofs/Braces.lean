import Mathlib.Combinatorics.Enumerative.DyckWord
import SolidityLint.Proofs.Document
import SolidityLint.Proofs.Switches

/-!
# The balance of braces

Braces are counted, and what is reported can be read off the counts (`analyze_braces_balance`): a
closing brace is too many if some front of the text has more closing than opening braces, and an
opening brace is never closed if no stretch behind it has more closing than opening braces. The scan
keeps the opening braces without a partner. Between two of them, and behind the last one, the text
is balanced (`Opens`).
-/

namespace SolidityLint

-- ---------------------------------------------------------------------------
-- Counting
-- ---------------------------------------------------------------------------

def HasSurplus (text : List Char) : Prop := text.count '{' < text.count '}'

/-- Behind an opening brace: no stretch of this text closes the brace. -/
def StaysOpen (text : List Char) : Prop :=
  ∀ stretch, stretch <+: text → stretch.count '}' ≤ stretch.count '{'

structure Balanced (text : List Char) : Prop where
  staysOpen : StaysOpen text
  count_eq : text.count '{' = text.count '}'

def AllClosed (text : List Char) : Prop :=
  ∀ front back, text = front ++ '{' :: back → ¬StaysOpen back

section
variable {text front back first second : List Char} {c : Char}

theorem counts_opening (text : List Char) :
    ('{' :: text).count '{' = text.count '{' + 1 ∧ ('{' :: text).count '}' = text.count '}' :=
  ⟨List.count_cons_self, List.count_cons_of_ne (by decide)⟩

theorem counts_closing (text : List Char) :
    ('}' :: text).count '{' = text.count '{' ∧ ('}' :: text).count '}' = text.count '}' + 1 :=
  ⟨List.count_cons_of_ne (by decide), List.count_cons_self⟩

theorem counts_other (ho : c ≠ '{') (hc : c ≠ '}') (text : List Char) :
    (c :: text).count '{' = text.count '{' ∧ (c :: text).count '}' = text.count '}' :=
  ⟨List.count_cons_of_ne ho, List.count_cons_of_ne hc⟩

theorem staysOpen_iff : StaysOpen text ↔ ¬∃ front, front <+: text ∧ HasSurplus front := by
  simp only [StaysOpen, HasSurplus, not_exists, not_and, Nat.not_lt]

theorem StaysOpen.of_append (h : StaysOpen (first ++ second)) : StaysOpen first :=
  fun stretch hs => h stretch (hs.trans (List.prefix_append first second))

theorem ends_in_part (h : front <+: first ++ second) :
    front <+: first ∨ ∃ more, more <+: second ∧ front = first ++ more := by
  obtain ⟨rest, he⟩ := h
  rcases List.append_eq_append_iff.mp he with ⟨inner, rfl, -⟩ | ⟨more, rfl, rfl⟩
  · exact .inl (List.prefix_append front inner)
  · exact .inr ⟨more, List.prefix_append more rest, rfl⟩

theorem StaysOpen.append (h : StaysOpen first)
    (hs : ∀ more, more <+: second →
      first.count '}' + more.count '}' ≤ first.count '{' + more.count '{') :
    StaysOpen (first ++ second) := by
  intro stretch hp
  rcases ends_in_part hp with hp | ⟨more, hm, rfl⟩
  · exact h stretch hp
  · rw [List.count_append, List.count_append]
    exact hs more hm

theorem staysOpen_nil : StaysOpen [] := by
  intro stretch hp
  rw [List.prefix_nil.mp hp]
  exact Nat.le_refl _

theorem StaysOpen.concat (h : StaysOpen text)
    (hc : (text ++ [c]).count '}' ≤ (text ++ [c]).count '{') : StaysOpen (text ++ [c]) := by
  intro stretch hp
  rcases List.prefix_concat_iff.mp hp with rfl | hp
  · exact hc
  · exact h stretch hp

theorem Balanced.nil : Balanced [] := ⟨staysOpen_nil, rfl⟩

theorem Balanced.append (hf : Balanced first) (hs : Balanced second) :
    Balanced (first ++ second) where
  staysOpen := by
    refine hf.staysOpen.append fun more hm => ?_
    rw [hf.count_eq]
    exact Nat.add_le_add_left (hs.staysOpen more hm) _
  count_eq := by rw [List.count_append, List.count_append, hf.count_eq, hs.count_eq]

theorem Balanced.singleton (ho : c ≠ '{') (hc : c ≠ '}') : Balanced [c] where
  staysOpen := by
    refine staysOpen_nil.concat (c := c) ?_
    simp only [List.nil_append, counts_other ho hc, List.count_nil, Nat.le_refl]
  count_eq := by simp only [counts_other ho hc, List.count_nil]

theorem Balanced.enclose (h : Balanced text) : Balanced ('{' :: (text ++ ['}'])) where
  staysOpen := by
    have hopen : StaysOpen ['{'] := staysOpen_nil.concat (c := '{') (by decide)
    refine hopen.append fun more hm => ?_
    have hcount := h.count_eq
    rcases ends_in_part hm with hm | ⟨last, hl, rfl⟩
    · have hmore := h.staysOpen more hm
      simp only [counts_opening, List.count_nil]
      omega
    · have hlast : last.count '}' ≤ 1 := hl.sublist.count_le '}'
      simp only [counts_opening, List.count_append, List.count_nil]
      omega
  count_eq := by
    have hcount := h.count_eq
    simp only [counts_opening, counts_closing, List.count_append, List.count_nil]
    omega

theorem cons_in_append (h : front ++ c :: back = first ++ second) :
    (∃ rest, first = front ++ c :: rest ∧ back = rest ++ second) ∨
      ∃ rest, front = first ++ rest ∧ second = rest ++ c :: back := by
  rcases List.append_eq_append_iff.mp h with ⟨rest, rfl, hrest⟩ | ⟨rest, rfl, hrest⟩
  · cases rest with
    | nil => exact .inr ⟨[], by simp, hrest.symm⟩
    | cons x rest =>
      obtain ⟨rfl, rfl⟩ := List.cons.inj hrest
      exact .inl ⟨rest, rfl, rfl⟩
  · exact .inr ⟨rest, rfl, hrest⟩

theorem Balanced.allClosed (h : Balanced text) : AllClosed text := by
  rintro front back rfl hopen
  have hfront := h.staysOpen front (List.prefix_append _ _)
  have hback := hopen back List.prefix_rfl
  have hcount := h.count_eq
  simp only [List.count_append, counts_opening] at hcount
  omega

theorem AllClosed.append (hf : AllClosed first) (hs : AllClosed second) :
    AllClosed (first ++ second) := by
  intro front back he hopen
  rcases cons_in_append he.symm with ⟨rest, hfirst, rfl⟩ | ⟨rest, -, hsecond⟩
  · exact hf front rest hfirst hopen.of_append
  · exact hs rest back hsecond hopen

theorem allClosed_closing : AllClosed ['}'] := by
  intro front back he
  have hm : '{' ∈ ['}'] := he ▸ List.mem_append_right front List.mem_cons_self
  exact absurd hm (by decide)

end

-- ---------------------------------------------------------------------------
-- Opening braces without a partner
-- ---------------------------------------------------------------------------

/-- The text has so many opening braces without a partner, each given by what is before it, the last
one first. Behind each of them the text is balanced up to the next one. -/
inductive Opens : List Char → List (List Char) → Prop
  | closed {text : List Char} (h : AllClosed text) : Opens text []
  | opened {front back : List Char} {fronts : List (List Char)} (h : Opens front fronts)
      (hb : Balanced back) : Opens (front ++ '{' :: back) (front :: fronts)

namespace Opens

variable {text front back : List Char} {fronts : List (List Char)}

theorem append (h : Opens text fronts) (hb : Balanced back) : Opens (text ++ back) fronts := by
  cases h with
  | closed h => exact .closed (h.append hb.allClosed)
  | opened h hbefore =>
    rw [List.append_assoc, List.cons_append]
    exact .opened h (hbefore.append hb)

theorem next (h : Opens text fronts) : Opens (text ++ ['{']) (text :: fronts) :=
  .opened h .nil

/-- A closing brace is the partner of the last opening brace that has none. -/
theorem close (h : Opens text (front :: fronts)) : Opens (text ++ ['}']) fronts := by
  cases h with
  | opened h hb =>
    rw [List.append_assoc, List.cons_append]
    exact h.append hb.enclose

theorem close_nil (h : Opens text []) : Opens (text ++ ['}']) [] := by
  cases h with
  | closed h => exact .closed (h.append allClosed_closing)

/-- The braces without a partner are those that are never closed. -/
theorem mem_iff (h : Opens text fronts) :
    front ∈ fronts ↔ ∃ back, text = front ++ '{' :: back ∧ StaysOpen back := by
  induction h generalizing front with
  | closed h =>
    refine ⟨fun hm => absurd hm List.not_mem_nil, ?_⟩
    rintro ⟨back, he, hopen⟩
    exact absurd hopen (h front back he)
  | @opened before behind fronts h hb ih =>
    constructor
    · intro hm
      rcases List.mem_cons.mp hm with rfl | hm
      · exact ⟨behind, rfl, hb.staysOpen⟩
      · obtain ⟨back, rfl, hopen⟩ := ih.mp hm
        refine ⟨back ++ '{' :: behind, by simp, ?_⟩
        -- The brace between them opens one more, and what is behind it closes nothing else.
        refine hopen.append fun more hm => ?_
        have hback := hopen back List.prefix_rfl
        rcases List.prefix_cons_iff.mp hm with rfl | ⟨rest, rfl, hr⟩
        · exact hback
        · have hrest := hb.staysOpen rest hr
          simp only [counts_opening]
          omega
    · rintro ⟨back, he, hopen⟩
      rcases cons_in_append he.symm with ⟨rest, hbefore, rfl⟩ | ⟨rest, rfl, hrest⟩
      · exact List.mem_cons_of_mem _ (ih.mpr ⟨rest, hbefore, hopen.of_append⟩)
      · cases rest with
        | nil => simp
        | cons x rest =>
          obtain ⟨-, hbehind⟩ := List.cons.inj hrest
          exact absurd hopen (hb.allClosed rest back hbehind)

/-- The first in the list is the last in the text. -/
theorem length_le (h : Opens text (front :: fronts)) {other back : List Char}
    (he : text = other ++ '{' :: back) (ho : StaysOpen back) : other.length ≤ front.length := by
  rcases List.mem_cons.mp (h.mem_iff.mpr ⟨back, he, ho⟩) with rfl | hm
  · exact Nat.le_refl _
  · cases h with
    | opened h hb =>
      obtain ⟨rest, rfl, -⟩ := h.mem_iff.mp hm
      simp

end Opens

-- ---------------------------------------------------------------------------
-- The scan
-- ---------------------------------------------------------------------------

/-- The shortest front of the text that has more closing than opening braces. -/
structure IsFirstSurplus (text front : List Char) : Prop where
  isPrefix : front <+: text
  hasSurplus : HasSurplus front
  length_le : ∀ other, other <+: text → HasSurplus other → front.length ≤ other.length

theorem IsFirstSurplus.append {text front : List Char} (h : IsFirstSurplus text front)
    (more : List Char) : IsFirstSurplus (text ++ more) front where
  isPrefix := h.isPrefix.trans (List.prefix_append text more)
  hasSurplus := h.hasSurplus
  length_le := by
    intro other ho hs
    rcases ends_in_part ho with ho | ⟨rest, -, rfl⟩
    · exact h.length_le other ho hs
    · have hle := h.isPrefix.length_le
      rw [List.length_append]
      omega

theorem isFirstSurplus_concat {text : List Char} (h : Balanced text) :
    IsFirstSurplus (text ++ ['}']) (text ++ ['}']) where
  isPrefix := List.prefix_rfl
  hasSurplus := by
    have hcount := h.count_eq
    simp only [HasSurplus, List.count_append, counts_closing, List.count_nil]
    omega
  length_le := by
    intro other ho hs
    rcases List.prefix_concat_iff.mp ho with rfl | ho
    · exact Nat.le_refl _
    · exact absurd hs (Nat.not_lt.mpr (h.staysOpen other ho))

namespace Check.Braces

structure Follows (braces : Braces) (text : List Char) : Prop where
  opened : ∃ fronts, Opens text fronts ∧ braces.opened = fronts.map placeAfter
  level : braces.extra = none →
    StaysOpen text ∧ text.count '{' = text.count '}' + braces.opened.length
  extra : ∀ place ∈ braces.extra, ∃ front, IsFirstSurplus text (front ++ ['}']) ∧
    place = placeAfter front

variable {braces : Braces} {text : List Char}

theorem follows_start : Follows {} [] where
  opened := ⟨[], .closed Balanced.nil.allClosed, rfl⟩
  level _ := ⟨staysOpen_nil, rfl⟩
  extra _ h := nomatch h

namespace Follows

theorem other {c : Char} (h : braces.Follows text) (ho : c ≠ '{') (hc : c ≠ '}') :
    braces.Follows (text ++ [c]) where
  opened := by
    obtain ⟨fronts, hopens, he⟩ := h.opened
    exact ⟨fronts, hopens.append (.singleton ho hc), he⟩
  level := by
    intro hn
    obtain ⟨hs, hl⟩ := h.level hn
    have hcount : (text ++ [c]).count '{' = (text ++ [c]).count '}' + braces.opened.length := by
      simp only [List.count_append, counts_other ho hc, List.count_nil]
      omega
    exact ⟨hs.concat (by omega), hcount⟩
  extra := by
    intro place hp
    obtain ⟨front, hf, rfl⟩ := h.extra place hp
    exact ⟨front, hf.append _, rfl⟩

theorem opening (h : braces.Follows text) :
    Follows { braces with opened := placeAfter text :: braces.opened } (text ++ ['{']) where
  opened := by
    obtain ⟨fronts, hopens, he⟩ := h.opened
    exact ⟨text :: fronts, hopens.next, by rw [he, List.map_cons]⟩
  level := by
    intro hn
    obtain ⟨hs, hl⟩ := h.level hn
    have hcount : (text ++ ['{']).count '{' =
        (text ++ ['{']).count '}' + (placeAfter text :: braces.opened).length := by
      simp only [List.count_append, counts_opening, List.count_nil, List.length_cons]
      omega
    exact ⟨hs.concat (by omega), hcount⟩
  extra := by
    intro place hp
    obtain ⟨front, hf, rfl⟩ := h.extra place hp
    exact ⟨front, hf.append _, rfl⟩

theorem closing {place : Nat × Nat} {opened : List (Nat × Nat)} (h : braces.Follows text)
    (hb : braces.opened = place :: opened) :
    Follows { braces with opened } (text ++ ['}']) where
  opened := by
    obtain ⟨fronts, hopens, he⟩ := h.opened
    cases fronts with
    | nil => rw [hb] at he; cases he
    | cons front fronts =>
      rw [hb, List.map_cons] at he
      exact ⟨fronts, hopens.close, (List.cons.inj he).2⟩
  level := by
    intro hn
    obtain ⟨hs, hl⟩ := h.level hn
    rw [hb, List.length_cons] at hl
    have hcount : (text ++ ['}']).count '{' = (text ++ ['}']).count '}' + opened.length := by
      simp only [List.count_append, counts_closing, List.count_nil]
      omega
    exact ⟨hs.concat (by omega), hcount⟩
  extra := by
    intro place hp
    obtain ⟨front, hf, rfl⟩ := h.extra place hp
    exact ⟨front, hf.append _, rfl⟩

theorem surplus (h : braces.Follows text) (hb : braces.opened = []) :
    Follows { braces with extra := some (braces.extra.getD (placeAfter text)) }
      (text ++ ['}']) where
  opened := by
    obtain ⟨fronts, hopens, he⟩ := h.opened
    rw [hb] at he
    obtain rfl : fronts = [] := List.map_eq_nil_iff.mp he.symm
    exact ⟨[], hopens.close_nil, hb⟩
  level hn := nomatch hn
  extra := by
    intro place hp
    cases hp
    cases he : braces.extra with
    | none =>
      obtain ⟨hs, hl⟩ := h.level he
      rw [hb, List.length_nil] at hl
      exact ⟨text, isFirstSurplus_concat ⟨hs, hl⟩, rfl⟩
    | some place =>
      obtain ⟨front, hf, hplace⟩ := h.extra place he
      exact ⟨front, hf.append _, hplace⟩

theorem read (h : braces.Follows text) (c : Char) :
    (braces.read (placeAfter text).1 (placeAfter text).2 c).Follows (text ++ [c]) := by
  unfold Braces.read
  split
  · rename_i hc
    rw [beq_iff_eq.mp hc]
    exact h.opening
  · rename_i ho
    split
    · rename_i hc
      rw [beq_iff_eq.mp hc]
      split
      · rename_i place opened hb
        exact h.closing hb
      · rename_i hb
        exact h.surplus hb
    · rename_i hc
      exact h.other (by simpa using ho) (by simpa using hc)

/-- Reading line by line is reading the text: the line ends between hold no braces. -/
theorem readLines {rest first : List Char} {more : List Line} (h : braces.Follows text)
    (hs : splitLines rest = first :: more) :
    (Braces.readLines ((placeAfter text).1 + 1) more
      (readLine (placeAfter text).1 (placeAfter text).2 first braces)).Follows (text ++ rest) := by
  fun_induction splitLines rest generalizing text braces first more with
  | case1 =>
    cases hs
    rwa [List.append_nil]
  | case2 rest ih =>
    cases hs
    obtain ⟨line, lines, hrest⟩ := List.exists_cons_of_ne_nil (splitLines_ne_nil rest)
    have hnext := ih (h.other (c := '\n') (by decide) (by decide)) hrest
    rw [placeAfter_feed, List.append_assoc] at hnext
    rwa [hrest]
  | case3 rest ih =>
    cases hs
    obtain ⟨line, lines, hrest⟩ := List.exists_cons_of_ne_nil (splitLines_ne_nil rest)
    have hreturn := h.other (c := '\r') (by decide) (by decide)
    have hnext := ih (hreturn.other (c := '\n') (by decide) (by decide)) hrest
    rw [placeAfter_feed, placeAfter_append text (by decide), List.append_assoc,
      List.append_assoc] at hnext
    rwa [hrest]
  | case4 c rest _ _ hrest => exact absurd hrest (splitLines_ne_nil rest)
  | case5 c rest hc _ line lines hrest ih =>
    cases hs
    have hnext := ih (h.read c) hrest
    rw [placeAfter_append text (by simpa using Ne.symm hc), List.append_assoc] at hnext
    exact hnext

end Follows

theorem follows_text (text : List Char) :
    (Braces.readLines 0 (splitLines text) {}).Follows text := by
  obtain ⟨first, more, hs⟩ := List.exists_cons_of_ne_nil (splitLines_ne_nil text)
  have h := follows_start.readLines hs
  rw [List.nil_append] at h
  rwa [hs]

end Check.Braces

-- ---------------------------------------------------------------------------
-- What the scan has found
-- ---------------------------------------------------------------------------

/-- An opening brace that is never closed, given by what is before it, and no such brace is behind
it. -/
structure IsLastOpen (text front : List Char) : Prop where
  staysOpen : ∃ back, text = front ++ '{' :: back ∧ StaysOpen back
  length_le : ∀ other back, text = other ++ '{' :: back → StaysOpen back →
    other.length ≤ front.length

namespace Check.Braces.Follows

variable {braces : Braces} {text : List Char}

theorem exists_extra (h : braces.Follows text) :
    ∃ extra : Option (List Char), braces.extra = extra.map placeAfter ∧
      (extra.isSome ↔ ∃ front, front <+: text ∧ HasSurplus front) ∧
      ∀ front ∈ extra, IsFirstSurplus text (front ++ ['}']) := by
  cases he : braces.extra with
  | none =>
    refine ⟨none, rfl, ⟨nofun, fun hs => ?_⟩, nofun⟩
    exact absurd hs (staysOpen_iff.mp (h.level he).1)
  | some place =>
    obtain ⟨front, hf, rfl⟩ := h.extra place he
    refine ⟨some front, rfl, ⟨fun _ => ⟨_, hf.isPrefix, hf.hasSurplus⟩, fun _ => rfl⟩, ?_⟩
    rintro same ⟨⟩
    exact hf

theorem exists_missing (h : braces.Follows text) :
    ∃ missing : Option (List Char), braces.opened.head? = missing.map placeAfter ∧
      (missing.isSome ↔ ∃ front back, text = front ++ '{' :: back ∧ StaysOpen back) ∧
      ∀ front ∈ missing, IsLastOpen text front := by
  obtain ⟨fronts, hopens, he⟩ := h.opened
  cases fronts with
  | nil =>
    refine ⟨none, by rw [he]; rfl, ⟨nofun, ?_⟩, nofun⟩
    rintro ⟨front, back, hb, ho⟩
    exact absurd (hopens.mem_iff.mpr ⟨back, hb, ho⟩) List.not_mem_nil
  | cons front fronts =>
    have hopen := hopens.mem_iff.mp List.mem_cons_self
    refine ⟨some front, by rw [he]; rfl, ⟨fun _ => ⟨front, hopen⟩, fun _ => rfl⟩, ?_⟩
    rintro same ⟨⟩
    exact ⟨hopen, fun other back hb ho => hopens.length_le hb ho⟩

theorem reports_eq_nil_iff (h : braces.Follows text) : braces.reports = [] ↔ Balanced text := by
  have hreports : braces.reports = [] ↔ braces.extra = none ∧ braces.opened = [] := by
    obtain ⟨opened, extra⟩ := braces
    cases extra <;> cases opened <;> simp [reports]
  rw [hreports]
  constructor
  · rintro ⟨he, ho⟩
    obtain ⟨hs, hl⟩ := h.level he
    rw [ho] at hl
    exact ⟨hs, hl⟩
  · rintro ⟨hs, hc⟩
    have he : braces.extra = none := by
      cases he : braces.extra with
      | none => rfl
      | some place =>
        obtain ⟨front, hf, -⟩ := h.extra place he
        exact absurd ⟨_, hf.isPrefix, hf.hasSurplus⟩ (staysOpen_iff.mp hs)
    obtain ⟨-, hl⟩ := h.level he
    exact ⟨he, List.length_eq_zero_iff.mp (by omega)⟩

end Check.Braces.Follows

-- ---------------------------------------------------------------------------
-- Words of braces
-- ---------------------------------------------------------------------------

def braceStep? : Char → Option DyckStep
  | '{' => some .U
  | '}' => some .D
  | _ => none

/-- The opening braces of a text as steps up, the closing ones as steps down. -/
def braceSteps (text : List Char) : List DyckStep := text.filterMap braceStep?

theorem count_braceSteps (text : List Char) :
    (braceSteps text).count .U = text.count '{' ∧ (braceSteps text).count .D = text.count '}' := by
  constructor
  · rw [braceSteps, List.count_filterMap]
    refine List.countP_congr fun c _ => ?_
    unfold braceStep?
    split <;> simp_all
  · rw [braceSteps, List.count_filterMap]
    refine List.countP_congr fun c _ => ?_
    unfold braceStep?
    split <;> simp_all

theorem balanced_iff_dyckWord {text : List Char} :
    Balanced text ↔ ∃ word : DyckWord, word.toList = braceSteps text := by
  constructor
  · rintro ⟨hs, hc⟩
    refine ⟨⟨braceSteps text, ?_, fun i => ?_⟩, rfl⟩
    · obtain ⟨hu, hd⟩ := count_braceSteps text
      rw [hu, hd, hc]
    · -- The steps of any front of the word are the steps of a front of the text.
      obtain ⟨front, back, rfl, hfront, -⟩ :=
        List.filterMap_eq_append_iff.mp (List.take_append_drop i (braceSteps text)).symm
      obtain ⟨hu, hd⟩ := count_braceSteps front
      rw [← hfront]
      exact hu ▸ hd ▸ hs front (List.prefix_append front back)
  · rintro ⟨word, hw⟩
    constructor
    · rintro front ⟨back, rfl⟩
      obtain ⟨hu, hd⟩ := count_braceSteps front
      have hsteps : braceSteps (front ++ back) = braceSteps front ++ braceSteps back :=
        List.filterMap_append
      have hle := word.count_D_le_count_U (braceSteps front).length
      rwa [hw, hsteps, List.take_left, hu, hd] at hle
    · obtain ⟨hu, hd⟩ := count_braceSteps text
      rw [← hu, ← hd, ← hw, word.count_U_eq_count_D]

-- ---------------------------------------------------------------------------
-- Findings
-- ---------------------------------------------------------------------------

def braceFinding (message : String) (front : List Char) : Finding where
  message
  code := .missingBraces
  severity := .error
  range :=
    ⟨⟨(placeAfter front).1, (placeAfter front).2⟩, ⟨(placeAfter front).1, (placeAfter front).2 + 1⟩⟩

def braceReport (message : String) (front : List Char) : Report :=
  Check.Braces.report (placeAfter front) message

theorem Check.exists_braceReports (text : List Char) :
    ∃ extra missing : Option (List Char),
      braceReports (splitLines text) =
        (extra.map (braceReport "Extra closing brace.")).toList ++
          (missing.map (braceReport "Missing closing brace.")).toList ∧
      (extra.isSome ↔ ∃ front, front <+: text ∧ HasSurplus front) ∧
      (∀ front ∈ extra, IsFirstSurplus text (front ++ ['}'])) ∧
      (missing.isSome ↔ ∃ front back, text = front ++ '{' :: back ∧ StaysOpen back) ∧
      ∀ front ∈ missing, IsLastOpen text front := by
  have hscan := Braces.follows_text text
  obtain ⟨extra, hextra, hsurplus, hfirst⟩ := hscan.exists_extra
  obtain ⟨missing, hmissing, hopen, hlast⟩ := hscan.exists_missing
  refine ⟨extra, missing, ?_, hsurplus, hfirst, hopen, hlast⟩
  rw [braceReports, Braces.reports, hextra, hmissing, Option.map_map, Option.map_map]
  rfl

theorem Session.reports_only_braces (session : Session) (trees : Option TreeSource)
    (h : session.rules = .only [.missingBraces]) :
    session.reports lineRules trees = Check.braceReports session.document.lines := by
  have hlines : ∀ (row : Nat) (contexts : List Context),
      linesReports session.scope [] row contexts session.names = [] := by
    intro row contexts
    induction contexts generalizing row with
    | nil => rfl
    | cons here rest ih => exact ih (row + 1)
  have hrules : session.rules.active LineCheck.all = [] := by
    rw [h]
    rfl
  have htree : session.treeReports trees = [] := by
    match trees with
    | none | some .unavailable | some .broken => rfl
    | some (.tree root) =>
      rw [treeReports, h]
      rfl
  have hbraces : session.braceReports = Check.braceReports session.document.lines := by
    rw [braceReports, h]
    rfl
  rw [reports, htree, hbraces, Rules.filter_lineRules, hrules, hlines, List.nil_append,
    List.append_nil]

theorem braceReport_key_ne {text closing opening : List Char}
    (hc : IsFirstSurplus text (closing ++ ['}'])) (ho : IsLastOpen text opening)
    (first second : String) :
    (braceReport first closing).key ≠ (braceReport second opening).key := by
  intro hkey
  have hplace : placeAfter closing = placeAfter opening := by
    simp only [Report.key, braceReport, Check.Braces.report, Key.mk.injEq, Int.natCast_inj] at hkey
    exact Prod.ext hkey.1 hkey.2.1
  obtain ⟨behind, hbehind⟩ := hc.isPrefix
  obtain ⟨back, hback, -⟩ := ho.staysOpen
  rw [List.append_assoc] at hbehind
  have hsame : closing = opening := eq_of_placeAfter_eq ⟨_, hbehind⟩ ⟨_, hback.symm⟩ hplace
  rw [hback, hsame] at hbehind
  exact absurd (List.append_cancel_left hbehind) (by simp)

theorem firstOfEach_braceReports (text : List Char) :
    firstOfEach [] (Check.braceReports (splitLines text)) =
      Check.braceReports (splitLines text) := by
  obtain ⟨extra, missing, hreports, -, hfirst, -, hlast⟩ := Check.exists_braceReports text
  have hone : ∀ report : Option Report, firstOfEach [] report.toList = report.toList := by
    intro report
    cases report <;> rfl
  rw [hreports, firstOfEach_append_of_apart, hone, hone]
  intro one ho other hother
  obtain ⟨closing, hclosing, rfl⟩ := Option.map_eq_some_iff.mp (Option.mem_toList.mp ho)
  obtain ⟨opening, hopening, rfl⟩ := Option.map_eq_some_iff.mp (Option.mem_toList.mp hother)
  exact braceReport_key_ne (hfirst closing hclosing) (hlast opening hopening) _ _

theorem analyze_only_braces (text : List Char) {options : Options} {patterns : Option NamePatterns}
    (hcap : 2 ≤ options.cap) (hp : options.patterns = .ok patterns) :
    analyze text { options with rules := .only [.missingBraces] } =
      .ok ((Check.braceReports (splitLines text)).map Report.finding) := by
  refine analyze_ok_iff.mpr ⟨patterns, hp, ?_⟩
  have hall : Options.allFindings { options with rules := .only [.missingBraces] } lineRules text
      patterns = (Check.braceReports (splitLines text)).map Report.finding := by
    rw [Options.allFindings, Options.reports, Session.reports_only_braces _ _ rfl]
    exact congrArg (List.map Report.finding) (firstOfEach_braceReports text)
  obtain ⟨extra, missing, hreports, -⟩ := Check.exists_braceReports text
  have hextra := (extra.map (braceReport "Extra closing brace.")).length_toList_le
  have hmissing := (missing.map (braceReport "Missing closing brace.")).length_toList_le
  have hroom : 2 ≤ options.cap.toNat := by omega
  rw [hall, List.take_of_length_le]
  rw [List.length_map, hreports, List.length_append]
  exact Nat.le_trans (Nat.add_le_add hextra hmissing) hroom

theorem analyze_braces_balance (text : List Char) (options : Options) (hcap : 2 ≤ options.cap)
    (hok : options.patterns.isOk) :
    ∃ found, analyze text { options with rules := .only [.missingBraces] } = .ok found ∧
      (∃ extra missing : Option (List Char),
        found = (extra.map (braceFinding "Extra closing brace.")).toList ++
          (missing.map (braceFinding "Missing closing brace.")).toList ∧
        (extra.isSome ↔ ∃ front, front <+: text ∧ HasSurplus front) ∧
        (∀ front ∈ extra, IsFirstSurplus text (front ++ ['}']) ∧
          charAt? (splitLines text) (placeAfter front) = some '}') ∧
        (missing.isSome ↔ ∃ front back, text = front ++ '{' :: back ∧ StaysOpen back) ∧
        ∀ front ∈ missing, IsLastOpen text front ∧
          charAt? (splitLines text) (placeAfter front) = some '{') ∧
      (found = [] ↔ ∃ word : DyckWord, word.toList = braceSteps text) := by
  obtain ⟨patterns, hp⟩ := exists_of_isOk hok
  obtain ⟨extra, missing, hreports, hsurplus, hfirst, hopen, hlast⟩ :=
    Check.exists_braceReports text
  refine ⟨_, analyze_only_braces text hcap hp, ⟨extra, missing, ?_, hsurplus, ?_, hopen, ?_⟩, ?_⟩
  · rw [hreports]
    cases extra <;> cases missing <;> rfl
  · intro front hf
    obtain ⟨back, hback⟩ := (hfirst front hf).isPrefix
    refine ⟨hfirst front hf, ?_⟩
    rw [← hback, List.append_assoc]
    exact charAt?_placeAfter (by decide) (by decide) front back
  · intro front hf
    obtain ⟨back, hback, -⟩ := (hlast front hf).staysOpen
    refine ⟨hlast front hf, ?_⟩
    rw [hback]
    exact charAt?_placeAfter (by decide) (by decide) front back
  · rw [List.map_eq_nil_iff, ← balanced_iff_dyckWord]
    exact (Check.Braces.follows_text text).reports_eq_nil_iff

/-- The first line closes a brace that was never opened, the second one leaves one of two open. -/
theorem analyze_braces_balance_on_two_lines :
    let text := "x \x7d\r\n\x7b \x7b \x7d".toList
    let options : Options := { cap := 2, naming := some .default }
    2 ≤ options.cap ∧ options.patterns.isOk ∧
      ∃ found, analyze text { options with rules := .only [.missingBraces] } = .ok found ∧
        found = [braceFinding "Extra closing brace." "x ".toList,
          braceFinding "Missing closing brace." "x \x7d\r\n".toList] ∧
        ¬∃ word : DyckWord, word.toList = braceSteps text := by
  intro text options
  have hok : options.patterns.isOk := by decide +kernel
  have hfound : (analyze text { options with rules := .only [.missingBraces] }).toOption =
      some [braceFinding "Extra closing brace." "x ".toList,
        braceFinding "Missing closing brace." "x \x7d\r\n".toList] := by
    decide +kernel
  obtain ⟨found, hf, -, hdyck⟩ := analyze_braces_balance text options (by decide) hok
  rw [hf] at hfound
  obtain rfl := Option.some.inj hfound
  exact ⟨by decide, hok, _, hf, rfl, fun hw => absurd (hdyck.mpr hw) (List.cons_ne_nil _ _)⟩

end SolidityLint
