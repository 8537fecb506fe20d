import SolidityLint.Line.Context
import SolidityLint.Line.Mapping
import SolidityLint.Proofs.Pattern.Words
import SolidityLint.Proofs.Text

/-!
# Code of lines

The code of a line is the front of the line, and its columns are columns of the line. Masking the
mappings of a text keeps columns too, and shows nothing where the text is blank
(`getElem?_of_maskMappings`). It leaves a front without parentheses as it is
(`maskMappings_append`).
-/

namespace SolidityLint

namespace Line

open Text Pattern

variable {line : Line}

-- ---------------------------------------------------------------------------
-- Comments
-- ---------------------------------------------------------------------------

theorem code_cons_of_ne {x : Char} (h : x ≠ '/') (rest : Line) :
    code (x :: rest) = x :: code rest := by
  simp [code, h]

theorem code_append_of_not_mem {front : Line} (h : '/' ∉ front) (rest : Line) :
    code (front ++ rest) = front ++ code rest := by
  induction front with
  | nil => rfl
  | cons x front ih =>
    simp only [List.mem_cons, not_or] at h
    rw [List.cons_append, code_cons_of_ne (Ne.symm h.1), ih h.2, List.cons_append]

theorem code_prefix (line : Line) : line.code <+: line := by
  fun_induction code line with
  | case1 => exact List.prefix_rfl
  | case2 | case3 => exact List.nil_prefix
  | case4 x rest _ _ ih => exact List.prefix_cons_inj x |>.mpr ih

theorem code_cons_of_head {x : Char} {rest : Line}
    (h : x = '/' → rest.head? ≠ some '/' ∧ rest.head? ≠ some '*') :
    code (x :: rest) = x :: code rest := by
  by_cases hx : x = '/'
  · obtain ⟨hslash, hstar⟩ := h hx
    subst hx
    cases rest with
    | nil => rfl
    | cons y rest =>
      have hy : y ≠ '/' ∧ y ≠ '*' := by simpa using And.intro hslash hstar
      simp [code, hy.1, hy.2]
  · exact code_cons_of_ne hx rest

theorem code_eq_cons {x : Char} {tail : Line} (h : line.code = x :: tail) :
    ∃ rest, line = x :: rest ∧ code rest = tail ∧
      (x = '/' → rest.head? ≠ some '/' ∧ rest.head? ≠ some '*') := by
  unfold code at h
  split at h
  · cases h
  · cases h
  · cases h
  · rename_i y rest hslash hstar
    cases h
    refine ⟨rest, rfl, rfl, fun hx => ⟨fun he => ?_, fun he => ?_⟩⟩
    · obtain ⟨more, rfl⟩ := List.head?_eq_some_iff.mp he
      exact hslash more hx rfl
    · obtain ⟨more, rfl⟩ := List.head?_eq_some_iff.mp he
      exact hstar more hx rfl

/-- A semicolon in the code neither splits a comment marker nor makes one. -/
theorem code_insertIdx {front gap : Line} (h : line.code = front ++ gap) :
    code (line.insertIdx front.length ';') = front ++ ';' :: gap := by
  induction front generalizing line with
  | nil =>
    rw [List.length_nil, List.insertIdx_zero, code_cons_of_ne (by decide), h]
    rfl
  | cons x front ih =>
    obtain ⟨rest, rfl, hrest, hx⟩ := code_eq_cons h
    rw [List.length_cons, List.insertIdx_succ_cons, code_cons_of_head, ih hrest]
    · rfl
    · intro he
      cases front with
      | nil => simp
      | cons y front =>
        obtain ⟨rest, rfl, -⟩ := code_eq_cons hrest
        simpa using hx he

theorem lastCodeColumn_lt (h : line.code ≠ []) : line.lastCodeColumn < line.code.length := by
  have hpos := List.length_pos_iff.mpr h
  unfold lastCodeColumn
  split
  · omega
  · rename_i hne
    have hle := (line.code.reverse.dropWhile_sublist (fun c => c == ' ' || c == '\t')).length_le
    rw [List.length_reverse] at hle
    omega

theorem code_ne_nil (h : line.trimmedCode ≠ []) : line.code ≠ [] := by
  rintro hc
  rw [trimmedCode, hc] at h
  exact h rfl

theorem exists_code_eq_append (h : line.trimmedCode ≠ []) :
    ∃ front gap, line.code = front ++ gap ∧ front.length = line.lastCodeColumn + 1 ∧
      (∀ x ∈ gap, isBlank x = true) ∧ trimStart front ≠ [] := by
  obtain ⟨gap, hgap, kept, hkept, hparts⟩ :
      ∃ gap, (∀ x ∈ gap, isBlank x = true) ∧ ∃ kept,
        line.code.reverse.dropWhile (fun c => c == ' ' || c == '\t') = kept ∧
          line.code = kept.reverse ++ gap := by
    refine ⟨(line.code.reverse.takeWhile fun c => c == ' ' || c == '\t').reverse, ?_, _, rfl, ?_⟩
    · intro x hx
      have hspace := List.mem_takeWhile_imp (List.mem_reverse.mp hx)
      rcases (by simpa using hspace : x = ' ' ∨ x = '\t') with rfl | rfl <;> decide
    · rw [← List.reverse_append, List.takeWhile_append_dropWhile, List.reverse_reverse]
  have hfront : trimStart kept.reverse ≠ [] := by
    intro he
    have hblank : ∀ x ∈ line.code, isBlank x = true := by
      intro x hx
      rcases List.mem_append.mp (hparts ▸ hx) with hx | hx
      · exact List.dropWhile_eq_nil_iff.mp he x hx
      · exact hgap x hx
    exact h (congrArg trimEnd (trimStart_of_blank hblank))
  refine ⟨kept.reverse, gap, hparts, ?_, hgap, hfront⟩
  unfold lastCodeColumn
  rw [hkept, List.length_reverse]
  cases kept with
  | nil => exact absurd rfl hfront
  | cons x kept => rfl

theorem trimmedCode_insertIdx (h : line.trimmedCode ≠ []) :
    ∃ gap, (∀ x ∈ gap, isBlank x = true) ∧
      trimmedCode (line.insertIdx (line.lastCodeColumn + 1) ';') =
        line.trimmedCode ++ gap ++ [';'] := by
  obtain ⟨front, gap, hcode, hl, hgap, hfront⟩ := exists_code_eq_append h
  obtain ⟨inner, hinner, htrim⟩ := exists_trimEnd_append (trimStart front)
  have hold : line.trimmedCode = trimEnd (trimStart front) := by
    rw [trimmedCode, hcode, trim, trimStart_append hfront, trimEnd_append_of_blank _ hgap]
  refine ⟨inner, hinner, ?_⟩
  calc trimmedCode (line.insertIdx (line.lastCodeColumn + 1) ';')
      = trimEnd (trimStart (front ++ ';' :: gap)) := by
        rw [trimmedCode, ← hl, code_insertIdx hcode, trim]
    _ = trimEnd (trimStart front ++ [';'] ++ gap) := by
        rw [trimStart_append hfront, List.append_assoc]
        rfl
    _ = trimStart front ++ [';'] := by
        rw [trimEnd_append_of_blank _ hgap, trimEnd_concat _ (by decide)]
    _ = line.trimmedCode ++ inner ++ [';'] := by rw [hold, ← htrim]

-- ---------------------------------------------------------------------------
-- Masked mappings
-- ---------------------------------------------------------------------------

/-- Where a cover shows something, so does the text. -/
def Covers (cover text : List Char) : Prop :=
  ∀ (i : Nat) (x y : Char), cover[i]? = some x → text[i]? = some y →
    isBlank x = false → isBlank y = false

variable {x y : Char} {cover text : List Char}

theorem covers_nil (text : List Char) : Covers [] text := by
  intro i x y hx
  simp at hx

theorem covers_cons :
    Covers (x :: cover) (y :: text) ↔
      (isBlank x = false → isBlank y = false) ∧ Covers cover text := by
  constructor
  · intro h
    exact ⟨h 0 x y rfl rfl, fun i => h (i + 1)⟩
  · rintro ⟨hfirst, hrest⟩ i x' y' hx hy
    cases i with
    | zero =>
      cases hx
      cases hy
      exact hfirst
    | succ i => exact hrest i x' y' hx hy

theorem covers_append {word : List Char} (hl : cover.length = word.length)
    (hn : ∀ x ∈ word, isBlank x = false) (n : Nat) (rest : List Char) :
    Covers (cover ++ List.replicate n ' ') (word ++ rest) := by
  intro i x y hx hy hb
  by_cases hi : i < word.length
  · rw [List.getElem?_append_left hi] at hy
    exact hn y (List.mem_of_getElem? hy)
  · rw [List.getElem?_append_right (by omega)] at hx
    have hspace : x = ' ' := (List.mem_replicate.mp (List.mem_of_getElem? hx)).2
    rw [hspace] at hb
    exact absurd hb (by decide)

theorem mappingWord_covers {previous : Option Char} {length : Nat}
    (h : mappingLength? previous text = some length) : Covers (mappingWord length) text := by
  obtain ⟨found, hm, -⟩ := Option.map_eq_some_iff.mp h
  obtain ⟨last, ⟨first, ⟨-, rfl⟩, second, hword, -⟩, -⟩ := Pattern.takes_of_matchAt? rfl hm
  obtain ⟨word, hr, hl, hletters⟩ := Pattern.takes_caseless hword
  have hblank : (blankCodes.all fun n => "mapping".toList.all fun c =>
      foldCode n != foldCode c.toNat) = true := by
    decide +kernel
  simp only [List.all_eq_true, bne_iff_ne] at hblank
  have htext : text = word ++ second.after := hr.after
  rw [htext]
  refine covers_append hl.symm (fun x hx => ?_) _ _
  obtain ⟨c, hc, he⟩ := hletters x hx
  exact Bool.eq_false_iff.mpr fun hb => hblank _ (mem_blankCodes hb) c hc he

theorem maskFrom_covers {pending : List Char} (previous : Option Char)
    (h : Covers pending text) : Covers (maskFrom previous pending text) text := by
  fun_induction maskFrom previous pending text with
  | case1 => exact covers_nil []
  | case2 previous x pending y rest ih =>
    rw [covers_cons] at h ⊢
    exact ⟨h.1, ih h.2⟩
  | case3 previous y rest hm ih => exact covers_cons.mpr ⟨id, ih (covers_nil rest)⟩
  | case4 previous y rest length hm hword ih => exact covers_cons.mpr ⟨id, ih (covers_nil rest)⟩
  | case5 previous y rest length hm x pending hword ih =>
    have hcovers := mappingWord_covers hm
    rw [hword, covers_cons] at hcovers
    exact covers_cons.mpr ⟨hcovers.1, ih hcovers.2⟩

theorem maskFrom_length (previous : Option Char) (pending text : List Char) :
    (maskFrom previous pending text).length = text.length := by
  fun_induction maskFrom previous pending text <;> simp_all

theorem getElem?_of_maskMappings {i : Nat} (hx : (maskMappings text)[i]? = some x)
    (hb : isBlank x = false) : ∃ y, text[i]? = some y ∧ isBlank y = false := by
  obtain ⟨hi, -⟩ := List.getElem?_eq_some_iff.mp hx
  rw [maskMappings, maskFrom_length] at hi
  have hy : text[i]? = some text[i] := List.getElem?_eq_getElem hi
  exact ⟨text[i], hy, maskFrom_covers none (covers_nil text) i x _ hx hy hb⟩

theorem getElem?_of_closingLength {depth : Nat} (h : closingLength depth text < text.length) :
    ∃ k, closingLength depth text = k + 1 ∧ text[k]? = some ')' := by
  induction text generalizing depth with
  | nil => exact absurd h (Nat.lt_irrefl 0)
  | cons c rest ih =>
    have hlater {depth : Nat} (h : closingLength depth rest + 1 < (c :: rest).length) :
        ∃ k, closingLength depth rest + 1 = k + 1 ∧ (c :: rest)[k]? = some ')' := by
      obtain ⟨k, hk, hc⟩ := ih (Nat.lt_of_succ_lt_succ h)
      exact ⟨k + 1, by rw [hk], hc⟩
    unfold closingLength at h ⊢
    split at h
    · rename_i hopens
      rw [if_pos hopens]
      exact hlater h
    · rename_i hopens
      rw [if_neg hopens]
      split at h
      · rename_i hcloses
        rw [if_pos hcloses]
        split at h
        · rename_i hd
          rw [if_pos hd]
          exact ⟨0, rfl, congrArg some (eq_of_beq hcloses)⟩
        · rename_i hd
          rw [if_neg hd]
          exact hlater h
      · rename_i hcloses
        rw [if_neg hcloses]
        exact hlater h

theorem getElem?_of_mappingLength? {previous : Option Char} {length : Nat}
    (h : mappingLength? previous text = some length) (hl : length < text.length) :
    ∃ k, length = k + 1 ∧ text[k]? = some ')' := by
  obtain ⟨found, -, rfl⟩ := Option.map_eq_some_iff.mp h
  have hrest : closingLength 0 (text.drop (found.span.stop - 1)) <
      (text.drop (found.span.stop - 1)).length := by
    rw [List.length_drop]
    omega
  obtain ⟨k, hk, hc⟩ := getElem?_of_closingLength hrest
  rw [List.getElem?_drop] at hc
  exact ⟨found.span.stop - 1 + k, by omega, hc⟩

/-- A cover that shows a word first and then nothing up to its end, which no word of the text
crosses. -/
structure Pads (cover text : List Char) : Prop where
  blanks : ∀ (i : Nat) (x y : Char), cover[i]? = some x → cover[i + 1]? = some y →
    isBlank x = true → isBlank y = true
  closed : ∀ i : Nat, cover.length = i + 1 → i + 1 < text.length →
    ∃ c, text[i]? = some c ∧ isWordChar c = false

theorem pads_nil (text : List Char) : Pads [] text :=
  ⟨by simp, by simp⟩

theorem Pads.tail (h : Pads (x :: cover) (y :: text)) : Pads cover text where
  blanks i := h.blanks (i + 1)
  closed i hl ht := h.closed (i + 1) (congrArg (· + 1) hl) (Nat.succ_lt_succ ht)

theorem isBlank_of_append {letters gap : List Char} {i : Nat}
    (hletters : ∀ x ∈ letters, isBlank x = false) (hgap : ∀ x ∈ gap, isBlank x = true)
    (hx : (letters ++ gap)[i]? = some x) (hy : (letters ++ gap)[i + 1]? = some y)
    (hb : isBlank x = true) : isBlank y = true := by
  have hi : letters.length ≤ i := by
    refine Nat.le_of_not_lt fun hi => ?_
    rw [List.getElem?_append_left hi] at hx
    rw [hletters x (List.mem_of_getElem? hx)] at hb
    cases hb
  rw [List.getElem?_append_right (Nat.le_succ_of_le hi)] at hy
  exact hgap y (List.mem_of_getElem? hy)

theorem length_mappingWord (length : Nat) : (mappingWord length).length = 7 + (length - 7) := by
  have hletters : "mapping".toList.length = 7 := by decide
  unfold mappingWord
  rw [List.length_append, hletters, List.length_replicate]

theorem seven_le_mappingLength? {previous : Option Char} {length : Nat}
    (h : mappingLength? previous text = some length) : 7 ≤ length := by
  obtain ⟨found, hm, rfl⟩ := Option.map_eq_some_iff.mp h
  obtain ⟨last, htakes, hspan⟩ := Pattern.takes_of_matchAt? rfl hm
  obtain ⟨read, hr, hleast⟩ := htakes.reads
  have hstop : found.span.stop = read.length := by
    rw [hspan, hr.pos]
    exact Nat.zero_add _
  replace hleast : 8 ≤ read.length := hleast
  omega

theorem mappingWord_pads {previous : Option Char} {length : Nat}
    (h : mappingLength? previous text = some length) : Pads (mappingWord length) text where
  blanks i x y hx hy hb := by
    have hletters : ("mapping".toList.all (!isBlank ·)) = true := by decide +kernel
    refine isBlank_of_append (fun z hz => ?_) (fun z hz => ?_) hx hy hb
    · simpa using List.all_eq_true.mp hletters z hz
    · rw [(List.mem_replicate.mp hz).2]
      decide
  closed i hi ht := by
    have hseven := seven_le_mappingLength? h
    rw [length_mappingWord] at hi
    obtain ⟨k, hk, hc⟩ := getElem?_of_mappingLength? h (by omega)
    obtain rfl : i = k := by omega
    exact ⟨')', hc, by decide⟩

/-- No word of the text crosses a place where a mask goes over from a blank to something else. -/
theorem maskFrom_blank_before {pending : List Char} (previous : Option Char)
    (h : Pads pending text) {i : Nat} (hx : (maskFrom previous pending text)[i]? = some x)
    (hy : (maskFrom previous pending text)[i + 1]? = some y) (hb : isBlank x = true)
    (hn : isBlank y = false) : ∃ c, text[i]? = some c ∧ isWordChar c = false := by
  fun_induction maskFrom previous pending text generalizing i with
  | case1 => cases hx
  | case2 previous p pending c rest ih =>
    cases i with
    | succ i => exact ih h.tail hx hy
    | zero =>
      cases hx
      -- The blank is the last of its mask, or a blank would follow.
      have hlast : pending = [] := by
        cases pending with
        | nil => rfl
        | cons q pending =>
          cases rest with
          | nil => cases hy
          | cons d rest =>
            cases hy
            exact absurd (h.blanks 0 x y rfl rfl hb) (by simp [hn])
      subst hlast
      refine h.closed 0 rfl ?_
      have hrest := (List.getElem?_eq_some_iff.mp hy).1
      simpa [maskFrom_length] using hrest
  | case3 previous c rest hm ih =>
    cases i with
    | succ i => exact ih (pads_nil rest) hx hy
    | zero =>
      cases hx
      exact ⟨x, rfl, isWordChar_of_isBlank hb⟩
  | case4 previous c rest length hm hword ih =>
    cases i with
    | succ i => exact ih (pads_nil rest) hx hy
    | zero =>
      cases hx
      exact ⟨x, rfl, isWordChar_of_isBlank hb⟩
  | case5 previous c rest length hm p pending hword ih =>
    cases i with
    | succ i => exact ih (hword ▸ mappingWord_pads hm).tail hx hy
    | zero =>
      cases hx
      obtain rfl : x = 'm' := (List.cons.inj hword).1.symm
      cases hb

def endsMapping (x : Char) : Bool :=
  !isBlank x && x != '(' && "mapping".toList.all fun c => foldCode x.toNat != foldCode c.toNat

theorem mappingLength?_of_endsMapping {front : List Char} (hfront : '(' ∉ front)
    (hx : endsMapping x = true) (previous : Option Char) (rest : List Char) :
    mappingLength? previous (front ++ x :: rest) = none := by
  simp only [endsMapping, Bool.and_eq_true, Bool.not_eq_true', bne_iff_ne] at hx
  obtain ⟨⟨hblank, hopening⟩, hletter⟩ := hx
  refine Option.map_eq_none_iff.mpr (Option.eq_none_iff_forall_ne_some.mpr fun found hm => ?_)
  obtain ⟨last, htakes, -⟩ := takes_of_matchAt? rfl hm
  obtain ⟨start, ⟨-, rfl⟩, htakes⟩ := takes_all_cons.mp htakes
  obtain ⟨word, hspells, hr⟩ := (takes_iff_spells (by decide)).mp htakes
  obtain ⟨letters, gap, rfl, hletters, hgap⟩ := spells_opening.mp hspells
  -- The parenthesis stands behind the front, so the character stands before it.
  have hafter : front ++ x :: rest = letters ++ gap ++ ['('] ++ last.after := hr.after
  rcases List.append_eq_append_iff.mp hafter with ⟨inner, hword, hinner⟩ | ⟨inner, rfl, -⟩
  · cases inner with
    | nil =>
      rw [List.append_nil] at hword
      exact hfront (hword ▸ by simp)
    | cons y inner =>
      cases hinner
      have hm : x ∈ letters ++ gap ++ ['('] := hword ▸ by simp
      simp only [List.mem_append, List.mem_singleton, hopening, or_false] at hm
      rcases hm with hm | hm
      · exact hletters.not_mem hletter hm
      · exact Bool.false_ne_true (hblank.symm.trans (hgap x hm))
  · exact hfront (by simp)

/-- Nothing is masked before a character that no mapping type reaches over, if there is no
parenthesis before it. -/
theorem maskFrom_append {front : List Char} (hfront : '(' ∉ front) (hx : endsMapping x = true)
    (previous : Option Char) (rest : List Char) :
    maskFrom previous [] (front ++ x :: rest) = front ++ x :: maskFrom (some x) [] rest := by
  induction front generalizing previous with
  | nil =>
    have hnone := mappingLength?_of_endsMapping hfront hx previous rest
    rw [List.nil_append] at hnone ⊢
    rw [maskFrom, hnone, List.nil_append]
  | cons y front ih =>
    have hnone := mappingLength?_of_endsMapping hfront hx previous rest
    have hlater : '(' ∉ front := fun hm => hfront (List.mem_cons_of_mem y hm)
    rw [List.cons_append] at hnone ⊢
    rw [maskFrom, hnone, List.cons_append, ← ih hlater (some y)]

theorem maskMappings_append {front gap : List Char} (hfront : '(' ∉ front) (hgap : '(' ∉ gap)
    (hx : endsMapping x = true) (rest : List Char) :
    maskMappings (front ++ (gap ++ x :: rest)) = front ++ maskMappings (gap ++ x :: rest) := by
  have hboth : '(' ∉ front ++ gap := by simp [hfront, hgap]
  rw [maskMappings, maskMappings, ← List.append_assoc, maskFrom_append hboth hx,
    maskFrom_append hgap hx, List.append_assoc]

end Line

-- ---------------------------------------------------------------------------
-- Neighbours
-- ---------------------------------------------------------------------------

namespace Context

theorem eachFrom_getElem? (above lines : List Line) (k : Nat) :
    (eachFrom above lines)[k]? = lines[k]?.map fun line =>
      ⟨(lines.take k).reverse ++ above, line, lines.drop (k + 1)⟩ := by
  induction lines generalizing above k with
  | nil => simp [eachFrom]
  | cons line lines ih =>
    cases k with
    | zero => simp [eachFrom]
    | succ k => simp [eachFrom, ih]

theorem each_getElem? (lines : List Line) (k : Nat) :
    (each lines)[k]? = lines[k]?.map fun line =>
      ⟨(lines.take k).reverse, line, lines.drop (k + 1)⟩ := by
  simp [each, eachFrom_getElem?]

theorem line_of_each {lines : List Line} {k : Nat} {here : Context}
    (h : (each lines)[k]? = some here) : lines[k]? = some here.line := by
  rw [each_getElem?] at h
  obtain ⟨line, hline, rfl⟩ := Option.map_eq_some_iff.mp h
  exact hline

theorem exists_each_getElem? {lines : List Line} {k : Nat} (h : k < lines.length) :
    ∃ here, (each lines)[k]? = some here ∧ here.line = lines[k] ∧
      here.above = (lines.take k).reverse ∧ here.below = lines.drop (k + 1) := by
  refine ⟨⟨(lines.take k).reverse, lines[k], lines.drop (k + 1)⟩, ?_, rfl, rfl, rfl⟩
  rw [each_getElem?, List.getElem?_eq_getElem h]
  rfl

end Context

end SolidityLint
