import Mathlib.Algebra.Ring.Nat
import Mathlib.Data.List.TakeWhile
import SolidityLint.Pattern.Place
import SolidityLint.Text.Alphanumeric
import SolidityLint.Text.Blank
import SolidityLint.Text.Name
import SolidityLint.Text.Split

/-!
# Where parts of a text lie

Names, items of lists and tokens are parts of the text they are read from, and their offsets say
where. Items and tokens are just the parts that stand between separators (`mem_splitBy_iff`,
`mem_words_iff`).
-/

namespace SolidityLint.Text

variable {text name part : List Char} {offset before : Nat}

-- ---------------------------------------------------------------------------
-- Blanks
-- ---------------------------------------------------------------------------

def blankCodes : List Nat :=
  blankRanges.flatMap fun (first, last) => List.range' first (last + 1 - first)

theorem mem_blankCodes {c : Char} (h : isBlank c = true) : c.toNat ∈ blankCodes := by
  obtain ⟨⟨first, last⟩, hr, hc⟩ := List.any_eq_true.mp h
  simp only [Bool.and_eq_true, decide_eq_true_eq] at hc
  refine List.mem_flatMap.mpr ⟨(first, last), hr, ?_⟩
  rw [List.mem_range'_1]
  omega

theorem trimStart_of_not_isBlank {c : Char} {rest : List Char} (h : isBlank c = false) :
    trimStart (c :: rest) = c :: rest := by
  simp [trimStart, h]

theorem isBlank_of_trimStart_eq {text rest : List Char} {c : Char}
    (h : trimStart text = c :: rest) : isBlank c = false := by
  have hfirst := List.head?_dropWhile_not isBlank text
  rw [trimStart] at h
  rw [h] at hfirst
  exact hfirst

theorem trimStart_length_le (text : List Char) : (trimStart text).length ≤ text.length :=
  (List.dropWhile_sublist _).length_le

-- ---------------------------------------------------------------------------
-- Trimming
-- ---------------------------------------------------------------------------

theorem trimStart_of_blank {gap : List Char} (h : ∀ x ∈ gap, isBlank x = true) :
    trimStart gap = [] :=
  List.dropWhile_eq_nil_iff.mpr h

theorem trimStart_blank_append {gap text : List Char} (h : ∀ c ∈ gap, isBlank c = true) :
    trimStart (gap ++ text) = trimStart text := by
  rw [trimStart, trimStart, List.dropWhile_append_of_pos h]

theorem trimStart_append {front rest : List Char} (h : trimStart front ≠ []) :
    trimStart (front ++ rest) = trimStart front ++ rest := by
  rw [trimStart, List.dropWhile_append]
  exact if_neg (by simpa [trimStart] using h)

theorem trimEnd_append_of_blank {gap : List Char} (text : List Char)
    (h : ∀ x ∈ gap, isBlank x = true) : trimEnd (text ++ gap) = trimEnd text := by
  have hgap : gap.reverse.dropWhile isBlank = [] :=
    List.dropWhile_eq_nil_iff.mpr fun x hx => h x (List.mem_reverse.mp hx)
  rw [trimEnd, List.reverse_append, List.dropWhile_append, hgap]
  rfl

theorem trimEnd_concat {x : Char} (text : List Char) (h : isBlank x = false) :
    trimEnd (text ++ [x]) = text ++ [x] := by
  simp [trimEnd, h]

theorem exists_trimEnd_append (text : List Char) :
    ∃ gap, (∀ x ∈ gap, isBlank x = true) ∧ text = trimEnd text ++ gap := by
  refine ⟨(text.reverse.takeWhile isBlank).reverse, fun x hx => ?_, ?_⟩
  · exact List.mem_takeWhile_imp (List.mem_reverse.mp hx)
  · rw [trimEnd, ← List.reverse_append, List.takeWhile_append_dropWhile, List.reverse_reverse]

theorem exists_append_trimStart (text : List Char) :
    ∃ gap, (∀ x ∈ gap, isBlank x = true) ∧ text = gap ++ trimStart text :=
  ⟨text.takeWhile isBlank, fun _ => List.mem_takeWhile_imp, List.takeWhile_append_dropWhile.symm⟩

theorem exists_append_trim_append (text : List Char) :
    ∃ before behind, (∀ x ∈ before, isBlank x = true) ∧ (∀ x ∈ behind, isBlank x = true) ∧
      text = before ++ trim text ++ behind := by
  obtain ⟨before, hbefore, htext⟩ := exists_append_trimStart text
  obtain ⟨behind, hbehind, hrest⟩ := exists_trimEnd_append (trimStart text)
  exact ⟨before, behind, hbefore, hbehind, by rw [List.append_assoc, trim, ← hrest, ← htext]⟩

theorem trim_eq_nil_iff {text : List Char} : trim text = [] ↔ ∀ x ∈ text, isBlank x = true := by
  constructor
  · intro h x hx
    obtain ⟨before, behind, hbefore, hbehind, htext⟩ := exists_append_trim_append text
    rw [htext, h, List.append_nil] at hx
    exact (List.mem_append.mp hx).elim (hbefore x) (hbehind x)
  · exact fun h => congrArg trimEnd (trimStart_of_blank h)

-- ---------------------------------------------------------------------------
-- Characters of names
-- ---------------------------------------------------------------------------

section
variable {c : Char}

theorem isUpper_iff : c.isUpper = true ↔ 65 ≤ c.toNat ∧ c.toNat ≤ 90 := by
  have hrange : c.isUpper = decide ('A'.val ≤ c.val ∧ c.val ≤ 'Z'.val) := rfl
  rw [hrange, decide_eq_true_iff, UInt32.le_iff_toNat_le, UInt32.le_iff_toNat_le]
  exact Iff.rfl

theorem isLower_iff : c.isLower = true ↔ 97 ≤ c.toNat ∧ c.toNat ≤ 122 := by
  have hrange : c.isLower = (decide ('a'.val ≤ c.val) && decide (c.val ≤ 'z'.val)) := rfl
  rw [hrange, Bool.and_eq_true, decide_eq_true_eq, decide_eq_true_eq, UInt32.le_iff_toNat_le,
    UInt32.le_iff_toNat_le]
  exact Iff.rfl

theorem isAlpha_iff : c.isAlpha = true ↔ c.isUpper = true ∨ c.isLower = true :=
  Bool.or_eq_true_iff

theorem toNat_lt_of_continuesName (h : continuesName c = true) : c.toNat < 128 := by
  simp only [continuesName, Char.isAlphanum, Bool.or_eq_true, isAlpha_iff, isUpper_iff,
    isLower_iff, beq_iff_eq] at h
  rcases h with ((h | h) | h) | rfl
  · omega
  · omega
  · have hdigit := (Char.isDigit_iff_toNat.mp h).2
    exact Nat.lt_of_le_of_lt hdigit (by decide)
  · decide

theorem isBlank_of_continuesName (h : continuesName c = true) : isBlank c = false := by
  have hnone : (blankCodes.all fun n => !continuesName (Char.ofNat n)) = true := by decide +kernel
  refine Bool.eq_false_iff.mpr fun hb => ?_
  have hc := List.all_eq_true.mp hnone _ (mem_blankCodes hb)
  rw [Char.ofNat_toNat, h] at hc
  cases hc

theorem isWordChar_of_continuesName (h : continuesName c = true) : isWordChar c = true := by
  have hascii := toNat_lt_of_continuesName h
  simp only [continuesName, Bool.or_eq_true] at h
  rcases h with h | h
  · simp [isWordChar, isAlphanumeric, hascii, h]
  · simp [isWordChar, h]

theorem isWordChar_of_isBlank (h : isBlank c = true) : isWordChar c = false := by
  have hnone : (blankCodes.all fun n => !isWordChar (Char.ofNat n)) = true := by decide +kernel
  have hc := List.all_eq_true.mp hnone _ (mem_blankCodes h)
  rw [Char.ofNat_toNat] at hc
  simpa using hc

theorem continuesName_of_startsName (h : startsName c = true) : continuesName c = true := by
  simp only [startsName, Bool.or_eq_true] at h
  rcases h with h | h
  · simp [continuesName, Char.isAlphanum, h]
  · simp [continuesName, h]

theorem continuesName_of_isName (h : isName name = true) : ∀ c ∈ name, continuesName c = true := by
  cases name with
  | nil => cases h
  | cons c rest =>
    simp only [isName, Bool.and_eq_true, List.all_eq_true] at h
    exact List.forall_mem_cons.mpr ⟨continuesName_of_startsName h.1, h.2⟩

end

-- ---------------------------------------------------------------------------
-- Parts at an offset
-- ---------------------------------------------------------------------------

def StandsAt (part : List Char) (offset : Nat) (text : List Char) : Prop :=
  part <+: text.drop offset

theorem StandsAt.slice_eq (h : StandsAt part offset text) :
    slice text offset (offset + part.length) = part := by
  rw [slice, Nat.add_sub_cancel_left]
  exact (List.prefix_iff_eq_take.mp h).symm

theorem standsAt_slice (text : List Char) (first last : Nat) :
    StandsAt (slice text first last) first text :=
  List.take_prefix _ _

theorem StandsAt.trans {inner : List Char} {start : Nat} (h : StandsAt inner start part)
    (k : StandsAt part offset text) : StandsAt inner (offset + start) text := by
  obtain ⟨rest, hrest⟩ := k
  rw [StandsAt, ← List.drop_drop, ← hrest, List.drop_append]
  exact List.IsPrefix.trans h (List.prefix_append _ _)

-- ---------------------------------------------------------------------------
-- Names
-- ---------------------------------------------------------------------------

theorem leadingName_prefix_self (text : List Char) : leadingName text <+: text := by
  unfold leadingName
  split
  · exact List.prefix_rfl
  · split
    · exact List.cons_prefix_cons.mpr ⟨rfl, List.takeWhile_prefix _⟩
    · exact List.nil_prefix

theorem isName_leadingName (h : leadingName text ≠ []) : isName (leadingName text) = true := by
  cases text with
  | nil => exact absurd rfl h
  | cons c rest =>
    by_cases hc : startsName c = true
    · simp only [leadingName, hc, if_true, isName, Bool.true_and, List.all_eq_true]
      exact fun x hx => List.mem_takeWhile_imp hx
    · exact absurd (if_neg hc) h

theorem startsName_of_leadingName {c : Char} {rest : List Char} (h : leadingName (c :: rest) = []) :
    startsName c = false := by
  refine Bool.eq_false_iff.mpr fun hc => ?_
  rw [leadingName, if_pos hc] at h
  cases h

theorem leadingName_stops {rest : List Char} (h : leadingName text ++ rest = text)
    (hne : leadingName text ≠ []) : rest.head?.any continuesName = false := by
  cases text with
  | nil => exact absurd rfl hne
  | cons c text =>
    by_cases hc : startsName c = true
    · rw [leadingName, if_pos hc] at h
      have hrest : rest = text.dropWhile continuesName := by
        have hparts := List.takeWhile_append_dropWhile (p := continuesName) (l := text)
        exact List.append_cancel_left ((List.cons.inj h).2.trans hparts.symm)
      have hfirst := List.head?_dropWhile_not continuesName text
      rw [← hrest] at hfirst
      cases rest with
      | nil => rfl
      | cons x rest => simpa using hfirst
    · exact absurd (if_neg hc) hne

theorem leadingName_length_le (text : List Char) : (leadingName text).length ≤ text.length :=
  (leadingName_prefix_self text).length_le

theorem firstName?_standsAt (h : firstName? text = some (before, name)) :
    StandsAt name before text := by
  unfold firstName? at h
  split at h
  · cases h
  · cases h
    have hdrop : text.drop (text.takeWhile (!startsName ·)).length =
        text.dropWhile (!startsName ·) := by
      conv => lhs; arg 2; rw [← text.takeWhile_append_dropWhile (p := (!startsName ·))]
      exact List.drop_left
    rw [StandsAt, hdrop]
    exact leadingName_prefix_self _

theorem firstName?_bounds (h : firstName? text = some (before, name)) :
    name ≠ [] ∧ before + name.length ≤ text.length := by
  unfold firstName? at h
  split at h
  · cases h
  · rename_i hn
    cases h
    refine ⟨hn, ?_⟩
    have hname := leadingName_length_le (text.dropWhile (!startsName ·))
    have hparts := text.takeWhile_append_dropWhile (p := (!startsName ·))
    replace hparts := congrArg List.length hparts
    rw [List.length_append] at hparts
    omega

-- ---------------------------------------------------------------------------
-- Items of lists
-- ---------------------------------------------------------------------------

theorem splitBy_length (separates : Char → Bool) (text : List Char) :
    ((splitBy separates text).map (·.length + 1)).sum = text.length + 1 := by
  induction text with
  | nil => rfl
  | cons x rest ih =>
    simp only [splitBy]
    split
    · simp [ih, Nat.add_comm]
    · split
      · rename_i h
        simp [h] at ih
      · rename_i part parts h
        simp [h] at ih ⊢
        omega

theorem splitBy_ne_nil (separates : Char → Bool) (text : List Char) :
    splitBy separates text ≠ [] := by
  intro h
  have hlength := splitBy_length separates text
  rw [h] at hlength
  cases hlength

theorem splitBy_eq_splitOnP (separates : Char → Bool) (text : List Char) :
    splitBy separates text = text.splitOnP separates := by
  induction text with
  | nil => rfl
  | cons x rest ih =>
    rw [splitBy, List.splitOnP_cons_eq_if_modifyHead, ← ih]
    cases hrest : splitBy separates rest with
    | nil => exact absurd hrest (splitBy_ne_nil separates rest)
    | cons part parts => rfl

/-- A part of a text between characters of a kind, without any of them. -/
def IsPart (between : Char → Bool) (part text : List Char) : Prop :=
  (∀ x ∈ part, between x = false) ∧ ∃ front back, text = front ++ part ++ back ∧
    front.getLast?.all between = true ∧ back.head?.all between = true

theorem exists_front (between : Char → Bool) (text : List Char) :
    ∃ front, (∀ x ∈ front, between x = false) ∧
      (text = front ∨ ∃ x rest, text = front ++ x :: rest ∧ between x = true) := by
  refine ⟨text.takeWhile (!between ·), fun x hx => ?_, ?_⟩
  · simpa using List.mem_takeWhile_imp (p := (!between ·)) hx
  · have htext := text.takeWhile_append_dropWhile (p := (!between ·))
    cases hrest : text.dropWhile (!between ·) with
    | nil =>
      rw [hrest, List.append_nil] at htext
      exact .inl htext.symm
    | cons x rest =>
      rw [hrest] at htext
      refine .inr ⟨x, rest, htext.symm, ?_⟩
      simpa [hrest] using List.head?_dropWhile_not (!between ·) text

theorem isPart_of_mem_splitBy {separates : Char → Bool} (h : part ∈ splitBy separates text) :
    IsPart separates part text := by
  rw [splitBy_eq_splitOnP] at h
  induction hn : text.length using Nat.strong_induction_on generalizing text with
  | _ n ih =>
    obtain ⟨first, hfirst, rfl | ⟨x, rest, rfl, hx⟩⟩ := exists_front separates text
    · rw [List.splitOnP_eq_singleton hfirst, List.mem_singleton] at h
      subst h
      exact ⟨hfirst, [], [], by simp, rfl, rfl⟩
    · rw [List.splitOnP_append_cons _ _ hx, List.splitOnP_eq_singleton hfirst] at h
      rcases List.mem_cons.mp h with rfl | h
      · exact ⟨hfirst, [], x :: rest, by simp, rfl, by simp [hx]⟩
      · have hshorter : rest.length < n := by
          rw [← hn, List.length_append, List.length_cons]
          omega
        obtain ⟨hpart, front, back, rfl, hfront, hback⟩ := ih _ hshorter h rfl
        refine ⟨hpart, first ++ x :: front, back, by simp, ?_, hback⟩
        cases hlast : front.getLast? with
        | none => simp [List.getLast?_cons, hlast, hx]
        | some y => simpa [List.getLast?_cons, hlast] using hfront

theorem mem_splitBy_iff {separates : Char → Bool} :
    part ∈ splitBy separates text ↔ IsPart separates part text := by
  refine ⟨isPart_of_mem_splitBy, ?_⟩
  rintro ⟨hpart, front, back, rfl, hfront, hback⟩
  have hlater : part ∈ (part ++ back).splitOnP separates := by
    cases back with
    | nil => simp [List.splitOnP_eq_singleton hpart]
    | cons x back =>
      have hx : separates x = true := by simpa using hback
      simp [List.splitOnP_append_cons _ _ hx, List.splitOnP_eq_singleton hpart]
  rw [splitBy_eq_splitOnP, List.append_assoc]
  cases hlast : front.getLast? with
  | none =>
    rw [List.getLast?_eq_none_iff.mp hlast]
    exact hlater
  | some x =>
    obtain ⟨before, rfl⟩ := List.getLast?_eq_some_iff.mp hlast
    have hx : separates x = true := by simpa using hfront
    rw [List.append_assoc, List.singleton_append, List.splitOnP_append_cons _ _ hx]
    exact List.mem_append_right _ hlater

theorem listItems_go_bounds {parts : List (List Char)} {item : Nat × List Char}
    (h : item ∈ listItems.go offset parts) :
    offset ≤ item.1 ∧ item.1 + item.2.length + 1 ≤ offset + (parts.map (·.length + 1)).sum := by
  induction parts generalizing offset with
  | nil => cases h
  | cons part parts ih =>
    simp only [List.map_cons, List.sum_cons]
    rcases List.mem_cons.mp h with rfl | h
    · dsimp only
      omega
    · have := ih h
      omega

theorem listItems_bounds {item : Nat × List Char} (h : item ∈ listItems offset text) :
    offset ≤ item.1 ∧ item.1 + item.2.length ≤ offset + text.length := by
  have hb := listItems_go_bounds h
  rw [splitBy_length] at hb
  omega

theorem intercalate_splitBy (text : List Char) :
    [','].intercalate (splitBy (· == ',') text) = text := by
  induction text with
  | nil => rfl
  | cons x rest ih =>
    rw [splitBy]
    cases hlater : splitBy (· == ',') rest with
    | nil => exact absurd hlater (splitBy_ne_nil _ rest)
    | cons part parts =>
      rw [hlater] at ih
      dsimp only
      split
      · rename_i hx
        rw [List.intercalate_cons_cons, ih, beq_iff_eq.mp hx]
        rfl
      · cases parts with
        | nil =>
          rw [List.intercalate_singleton] at ih ⊢
          rw [ih]
        | cons next parts =>
          rw [List.intercalate_cons_cons] at ih ⊢
          rw [List.cons_append, List.cons_append, ih]

theorem listItems_go_standsAt {parts : List (List Char)} {item : Nat × List Char}
    (h : item ∈ listItems.go offset parts) (ht : StandsAt ([','].intercalate parts) offset text) :
    StandsAt item.2 item.1 text := by
  induction parts generalizing offset with
  | nil => cases h
  | cons part parts ih =>
    cases parts with
    | nil =>
      rw [List.intercalate_singleton] at ht
      rcases List.mem_cons.mp h with rfl | h
      · exact ht
      · cases h
    | cons next parts =>
      rw [List.intercalate_cons_cons] at ht
      rcases List.mem_cons.mp h with rfl | h
      · rw [List.append_assoc] at ht
        exact List.IsPrefix.trans (List.prefix_append _ _) ht
      · have hlater : StandsAt ([','].intercalate (next :: parts)) (part.length + 1)
            (part ++ [','] ++ [','].intercalate (next :: parts)) := by
          have hlength : part.length + 1 = (part ++ [',']).length := by simp
          exact ⟨[], by rw [List.append_nil, hlength, List.drop_left]⟩
        exact ih h (hlater.trans ht)

theorem listItems_standsAt {list : List Char} {item : Nat × List Char}
    (h : item ∈ listItems offset list) (ht : StandsAt list offset text) :
    StandsAt item.2 item.1 text :=
  listItems_go_standsAt h ((intercalate_splitBy list).symm ▸ ht)

-- ---------------------------------------------------------------------------
-- Tokens
-- ---------------------------------------------------------------------------

theorem tokensFrom_start {token : Token} (h : token ∈ tokensFrom offset text) :
    ∃ k c, token.offset = offset + k ∧ text[k]? = some c ∧ isBlank c = false := by
  induction text generalizing offset token with
  | nil => cases h
  | cons x rest ih =>
    have hlater : ∀ token ∈ tokensFrom (offset + 1) rest,
        ∃ k c, token.offset = offset + k ∧ (x :: rest)[k]? = some c ∧ isBlank c = false := by
      intro token h
      obtain ⟨k, c, hk, hc, hb⟩ := ih h
      exact ⟨k + 1, c, by omega, hc, hb⟩
    simp only [tokensFrom] at h
    split at h
    · exact hlater token h
    · rename_i hx
      have hhere : isBlank x = false := by simpa using hx
      split at h
      · rcases List.mem_singleton.mp h with rfl
        exact ⟨0, x, rfl, rfl, hhere⟩
      · rename_i first more hmore
        split at h
        · rcases List.mem_cons.mp h with rfl | h
          · exact ⟨0, x, rfl, rfl, hhere⟩
          · exact hlater token (hmore ▸ List.mem_cons_of_mem _ h)
        · rcases List.mem_cons.mp h with rfl | h
          · exact ⟨0, x, rfl, rfl, hhere⟩
          · exact hlater token h

theorem tokens_start {token : Token} (h : token ∈ tokens text) :
    ∃ c, text[token.offset]? = some c ∧ isBlank c = false := by
  obtain ⟨k, c, hk, hc, hb⟩ := tokensFrom_start h
  rw [Nat.zero_add] at hk
  exact ⟨c, hk ▸ hc, hb⟩

/-- The first part is the first token, unless it is empty. Tokens of later parts start behind a
blank. -/
theorem tokensFrom_of_splitBy {part : List Char} {parts : List (List Char)}
    (h : splitBy isBlank text = part :: parts) (offset : Nat) :
    ∃ later, tokensFrom offset text = (if part.isEmpty then later else ⟨part, offset⟩ :: later) ∧
      later.map Token.text = parts.filter (!·.isEmpty) ∧
      ∀ token ∈ later, ∃ k x, token.offset = offset + k + 1 ∧ text[k]? = some x ∧
        isBlank x = true := by
  induction text generalizing offset part parts with
  | nil =>
    cases h
    exact ⟨[], rfl, rfl, by simp⟩
  | cons x rest ih =>
    cases hrest : splitBy isBlank rest with
    | nil => exact absurd hrest (splitBy_ne_nil isBlank rest)
    | cons next more =>
      obtain ⟨later, htokens, htexts, hlater⟩ := ih hrest (offset + 1)
      have hlater' : ∀ token ∈ later, ∃ k y, token.offset = offset + k + 1 ∧
          (x :: rest)[k]? = some y ∧ isBlank y = true := by
        intro token ht
        obtain ⟨k, y, hk, hy, hb⟩ := hlater token ht
        exact ⟨k + 1, y, by omega, hy, hb⟩
      rw [splitBy, hrest] at h
      rw [tokensFrom, htokens]
      by_cases hx : isBlank x = true
      · simp only [hx, if_true] at h ⊢
        cases h
        refine ⟨if next.isEmpty then later else ⟨next, offset + 1⟩ :: later, rfl, ?_, ?_⟩
        · cases next <;> simp [htexts]
        · cases next with
          | nil => exact hlater'
          | cons y next => exact List.forall_mem_cons.mpr ⟨⟨0, x, rfl, rfl, hx⟩, hlater'⟩
      · simp only [hx] at h ⊢
        cases h
        refine ⟨later, ?_, htexts, hlater'⟩
        cases next with
        | cons y next => simp
        | nil =>
          cases later with
          | nil => rfl
          | cons token later =>
            obtain ⟨k, -, hk, -⟩ := hlater token List.mem_cons_self
            have hgap : token.offset ≠ offset + 1 := by omega
            simp [hgap]

theorem tokens_tail_start {token : Token} (h : token ∈ (tokens text).tail) :
    ∃ k x, token.offset = k + 1 ∧ text[k]? = some x ∧ isBlank x = true := by
  cases hparts : splitBy isBlank text with
  | nil => exact absurd hparts (splitBy_ne_nil isBlank text)
  | cons part parts =>
    obtain ⟨later, htokens, -, hlater⟩ := tokensFrom_of_splitBy hparts 0
    have hm : token ∈ later := by
      rw [tokens, htokens] at h
      cases part with
      | nil => exact List.mem_of_mem_tail h
      | cons x part => exact h
    obtain ⟨k, x, hk, hx, hb⟩ := hlater token hm
    exact ⟨k, x, by omega, hx, hb⟩

theorem words_eq_filter_splitBy (text : List Char) :
    words text = (splitBy isBlank text).filter (!·.isEmpty) := by
  cases h : splitBy isBlank text with
  | nil => exact absurd h (splitBy_ne_nil isBlank text)
  | cons part parts =>
    obtain ⟨later, htokens, htexts, -⟩ := tokensFrom_of_splitBy h 0
    rw [words, tokens, htokens]
    cases part <;> simp [htexts]

theorem mem_words_iff : part ∈ words text ↔ part ≠ [] ∧ IsPart isBlank part text := by
  simp [words_eq_filter_splitBy, mem_splitBy_iff, and_comm]

theorem words_append_cons {x : Char} (front back : List Char) (h : isBlank x = true) :
    words (front ++ x :: back) = words front ++ words back := by
  simp only [words_eq_filter_splitBy, splitBy_eq_splitOnP, List.splitOnP_append_cons _ _ h,
    List.filter_append]

theorem words_blank_append {gap : List Char} (h : ∀ x ∈ gap, isBlank x = true)
    (text : List Char) : words (gap ++ text) = words text := by
  induction gap with
  | nil => rfl
  | cons x gap ih =>
    obtain ⟨hx, hgap⟩ := List.forall_mem_cons.mp h
    rw [List.cons_append, ← ih hgap]
    exact words_append_cons [] (gap ++ text) hx

theorem words_append {front back : List Char} (h : back.head?.any isBlank = true) :
    words (front ++ back) = words front ++ words back := by
  cases back with
  | nil => cases h
  | cons x back =>
    have hx : ∀ y ∈ [x], isBlank y = true := by simpa using h
    rw [words_append_cons front back (hx x List.mem_cons_self), ← List.singleton_append (x := x),
      words_blank_append hx]

theorem words_of_not_blank (hne : text ≠ []) (h : ∀ x ∈ text, isBlank x = false) :
    words text = [text] := by
  simp [words_eq_filter_splitBy, splitBy_eq_splitOnP, List.splitOnP_eq_singleton h, hne]

end SolidityLint.Text
