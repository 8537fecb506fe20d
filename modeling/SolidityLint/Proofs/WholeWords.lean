import SolidityLint.Proofs.Pattern.Words

/-!
# Whole words

A word of a pattern that has to stand between boundaries stands in a text as a whole word
(`occursIn_wholeWord_iff`), and characters that belong to no word part whole words
(`IsWholeWord.of_append`).
-/

namespace SolidityLint

open Pattern

def Text.isBoundary (front back : List Char) : Bool :=
  front.getLast?.any isWordChar != back.head?.any isWordChar

/-- A name stands in a text as a whole word, between `front` and `back`. -/
structure Text.IsWholeWord (name text front back : List Char) : Prop where
  text_eq : text = front ++ name ++ back
  starts : isBoundary front (name ++ back) = true
  stops : isBoundary (front ++ name) back = true

/-- The text has a word, in letters of any case. -/
def Text.HasWord (letters : String) (text : List Char) : Prop :=
  ∃ word front back, SameLetters word letters.toList ∧ Text.IsWholeWord word text front back

/-- The leftmost of these places. -/
structure Text.IsFirstWholeWord (name text front back : List Char) : Prop
    extends Text.IsWholeWord name text front back where
  first : ∀ front' back', Text.IsWholeWord name text front' back' → front.length ≤ front'.length

instance (name text front back : List Char) :
    Decidable (Text.IsWholeWord name text front back) :=
  decidable_of_iff (text = front ++ name ++ back ∧ Text.isBoundary front (name ++ back) = true ∧
    Text.isBoundary (front ++ name) back = true)
    ⟨fun h => ⟨h.1, h.2.1, h.2.2⟩, fun h => ⟨h.text_eq, h.starts, h.stops⟩⟩

theorem isBoundary_eq (a : Place) :
    Text.isBoundary a.before.reverse a.after = (Anchor.wordBoundary false).holds a := by
  have hside (side : List Char) : isWordEnd false side = side.head?.any Text.isWordChar := by
    simp [isWordEnd, CharClass.contains]
  rw [Anchor.holds, hside, hside, Text.isBoundary, List.getLast?_reverse]

namespace Pattern

theorem occursIn_boundary_iff {p : Pattern} (hp : p.isRegular = true) (text : List Char) :
    (seq boundary p).occursIn text = true ↔
      ∃ front word back, text = front ++ word ++ back ∧
        Text.isBoundary front (word ++ back) = true ∧ p.Spells word := by
  obtain ⟨hplain, hexact⟩ := isPlain_and_isExact hp
  rw [occursIn_iff (p := seq boundary p) hplain hexact]
  constructor
  · rintro ⟨a, b, ha, c, ⟨hboundary, rfl⟩, hb⟩
    obtain ⟨word, hspells, hr⟩ := (takes_iff_spells hp).mp hb
    refine ⟨c.before.reverse, word, b.after, ?_, ?_, hspells⟩
    · rw [List.append_assoc, ← hr.after]
      exact ha.text.symm
    · rwa [← hr.after, isBoundary_eq]
  · rintro ⟨front, word, back, rfl, hboundary, hspells⟩
    rw [List.append_assoc]
    refine ⟨⟨front.length, front.reverse, word ++ back⟩,
      ⟨front.length + word.length, word.reverse ++ front.reverse, back⟩, .of_append _ _,
      ⟨front.length, front.reverse, word ++ back⟩, ⟨?_, rfl⟩,
      (takes_iff_spells hp).mpr ⟨word, hspells, rfl, rfl, rfl⟩⟩
    rw [← isBoundary_eq, List.reverse_reverse]
    exact hboundary

theorem occursIn_wholeWord_iff {p : Pattern} (hp : p.isRegular = true) (text : List Char) :
    (all [boundary, p, boundary]).occursIn text = true ↔
      ∃ word front back, p.Spells word ∧ Text.IsWholeWord word text front back := by
  obtain ⟨hplain, hexact⟩ := isPlain_and_isExact hp
  have hplain' : (all [boundary, p, boundary]).isPlain = true := by
    simp [all, isPlain, boundary, hplain]
  have hexact' : (all [boundary, p, boundary]).isExact = true := by
    simp [all, isExact, boundary, hexact]
  rw [occursIn_iff hplain' hexact']
  constructor
  · rintro ⟨a, b, ha, c, ⟨hstarts, rfl⟩, d, hd, hstops, rfl⟩
    obtain ⟨word, hspells, hr⟩ := (takes_iff_spells hp).mp hd
    refine ⟨word, c.before.reverse, b.after, hspells, ?_, ?_, ?_⟩
    · rw [List.append_assoc, ← hr.after]
      exact ha.text.symm
    · rwa [← hr.after, isBoundary_eq]
    · have hb : b.before.reverse = c.before.reverse ++ word := by
        rw [hr.before, List.reverse_append, List.reverse_reverse]
      rwa [← hb, isBoundary_eq]
  · rintro ⟨word, front, back, hspells, rfl, hstarts, hstops⟩
    rw [List.append_assoc]
    refine ⟨⟨front.length, front.reverse, word ++ back⟩,
      ⟨front.length + word.length, word.reverse ++ front.reverse, back⟩, .of_append _ _,
      _, ⟨?_, rfl⟩, _, (takes_iff_spells hp).mpr ⟨word, hspells, rfl, rfl, rfl⟩, ?_, rfl⟩
    · rwa [← isBoundary_eq, List.reverse_reverse]
    · rwa [← isBoundary_eq, ← List.reverse_append, List.reverse_reverse]

theorem occursIn_caselessAny_iff {texts : List String} (h : (caselessAny texts).isRegular = true)
    (text : List Char) :
    (all [boundary, caselessAny texts, boundary]).occursIn text = true ↔
      ∃ letters ∈ texts, Text.HasWord letters text := by
  simp only [occursIn_wholeWord_iff h, spells_caselessAny, Text.HasWord]
  constructor
  · rintro ⟨word, front, back, ⟨letters, hm, hword⟩, hin⟩
    exact ⟨letters, hm, word, front, back, hword, hin⟩
  · rintro ⟨letters, hm, word, front, back, hword, hin⟩
    exact ⟨word, front, back, ⟨letters, hm, hword⟩, hin⟩

end Pattern

namespace Text

variable {name text front back : List Char} {x : Char}

theorem IsWholeWord.of_word (hne : name ≠ []) (hname : ∀ c ∈ name, isWordChar c = true)
    (hfront : front.getLast?.any isWordChar = false) (hback : back.head?.any isWordChar = false) :
    IsWholeWord name (front ++ name ++ back) front back := by
  obtain ⟨c, more, hc⟩ := List.exists_cons_of_ne_nil hne
  have hlast : (front ++ name).getLast?.any isWordChar = true := by
    rw [List.getLast?_append]
    cases hlast : name.getLast? with
    | none => exact absurd (List.getLast?_eq_none_iff.mp hlast) hne
    | some d => exact hname d (List.mem_of_getLast? hlast)
  refine ⟨rfl, ?_, ?_⟩
  · rw [isBoundary, hfront, hc]
    simpa using hname c (hc ▸ List.mem_cons_self)
  · rw [isBoundary, hlast, hback]
    rfl

theorem getLast?_any_append_cons (hx : isWordChar x = false) (first second : List Char) :
    (first ++ x :: second).getLast?.any isWordChar = second.getLast?.any isWordChar := by
  cases h : second.getLast? <;> simp [List.getLast?_cons, h, hx]

/-- A character that belongs to no word parts whole words. -/
theorem IsWholeWord.of_append {first second : List Char} (hx : isWordChar x = false)
    (hne : name ≠ []) (hm : x ∉ name)
    (h : IsWholeWord name (first ++ x :: second) front back) :
    (∃ front back, IsWholeWord name first front back) ∨
      ∃ front back, IsWholeWord name second front back := by
  obtain ⟨htext, hstarts, hstops⟩ := h
  obtain ⟨y, more, rfl⟩ := List.exists_cons_of_ne_nil hne
  rw [List.append_assoc] at htext
  rcases List.append_eq_append_iff.mp htext with ⟨inner, rfl, hinner⟩ | ⟨inner, rfl, hinner⟩
  · cases inner with
    | nil =>
      cases hinner
      exact absurd List.mem_cons_self hm
    | cons z inner =>
      cases hinner
      refine .inr ⟨inner, back, by simp, ?_, ?_⟩
      · rwa [isBoundary, ← getLast?_any_append_cons hx first inner]
      · rw [List.append_assoc, List.cons_append] at hstops
        rwa [isBoundary, ← getLast?_any_append_cons hx first]
  · rcases List.append_eq_append_iff.mp hinner with ⟨gap, rfl, rfl⟩ | ⟨gap, hword, hgap⟩
    · refine .inl ⟨front, gap, by simp, hstarts, ?_⟩
      rw [isBoundary] at hstops ⊢
      cases gap with
      | nil => simpa [hx] using hstops
      | cons z gap => exact hstops
    · cases gap with
      | nil =>
        rw [List.append_nil] at hword
        cases hgap
        refine .inl ⟨front, [], by rw [hword, List.append_nil], ?_, ?_⟩
        · simpa [isBoundary] using hstarts
        · simpa [isBoundary, hx] using hstops
      | cons z gap =>
        cases hgap
        exact absurd (hword ▸ by simp) hm

theorem IsWholeWord.eq_text (h : IsWholeWord name text front back) (hne : name ≠ [])
    (ht : ∀ c ∈ text, isWordChar c = true) : name = text := by
  obtain ⟨rfl, hstarts, hstops⟩ := h
  obtain ⟨y, more, rfl⟩ := List.exists_cons_of_ne_nil hne
  have hfront : front = [] := by
    cases hlast : front.getLast? with
    | none => exact List.getLast?_eq_none_iff.mp hlast
    | some z =>
      have hz : isWordChar z = true :=
        ht z (by simp [List.mem_of_getLast? hlast])
      simp [isBoundary, hlast, hz, ht y (by simp)] at hstarts
  have hback : back = [] := by
    cases back with
    | nil => rfl
    | cons z back =>
      have hlast : (front ++ y :: more).getLast?.any isWordChar = true := by
        cases hlast : (front ++ y :: more).getLast? with
        | none => simp at hlast
        | some w => exact ht w (List.mem_append_left _ (List.mem_of_getLast? hlast))
      rw [isBoundary, hlast] at hstops
      simp [ht z (by simp)] at hstops
  rw [hfront, hback, List.append_nil, List.nil_append]

-- ---------------------------------------------------------------------------
-- Blanks around a text
-- ---------------------------------------------------------------------------

theorem IsWholeWord.mem_text (h : IsWholeWord name text front back) (hx : x ∈ name) : x ∈ text := by
  rw [h.text_eq]
  simp [hx]

theorem IsWholeWord.of_blanks {before behind : List Char} (hne : name ≠ [])
    (hname : ∀ x ∈ name, isBlank x = false) (hbefore : ∀ x ∈ before, isBlank x = true)
    (hbehind : ∀ x ∈ behind, isBlank x = true)
    (h : IsWholeWord name (before ++ text ++ behind) front back) :
    ∃ front back, IsWholeWord name text front back := by
  obtain ⟨y, hy⟩ := List.exists_mem_of_ne_nil name hne
  have hblanks {gap front back : List Char} (hgap : ∀ x ∈ gap, isBlank x = true) :
      ¬IsWholeWord name gap front back := fun hword =>
    Bool.false_ne_true ((hname y hy).symm.trans (hgap y (hword.mem_text hy)))
  have hfree {x : Char} (hx : isBlank x = true) : x ∉ name := fun hm =>
    Bool.false_ne_true ((hname x hm).symm.trans hx)
  have hfront : ∃ front back, IsWholeWord name (before ++ text) front back := by
    cases behind with
    | nil => exact ⟨front, back, by rwa [List.append_nil] at h⟩
    | cons x behind =>
      obtain ⟨hx, hbehind⟩ := List.forall_mem_cons.mp hbehind
      rcases h.of_append (isWordChar_of_isBlank hx) hne (hfree hx) with hin | ⟨_, _, hin⟩
      · exact hin
      · exact absurd hin (hblanks hbehind)
  obtain ⟨front, back, h⟩ := hfront
  rcases List.eq_nil_or_concat before with rfl | ⟨gap, x, rfl⟩
  · exact ⟨front, back, h⟩
  · obtain ⟨hgap, hx⟩ := List.forall_mem_append.mp (List.concat_eq_append ▸ hbefore)
    replace hx : isBlank x = true := hx x List.mem_cons_self
    rw [List.concat_eq_append, List.append_assoc, List.singleton_append] at h
    rcases h.of_append (isWordChar_of_isBlank hx) hne (hfree hx) with ⟨_, _, hin⟩ | hin
    · exact absurd hin (hblanks hgap)
    · exact hin

theorem IsWholeWord.blanks {before behind : List Char} (h : IsWholeWord name text front back)
    (hbefore : ∀ x ∈ before, isBlank x = true) (hbehind : ∀ x ∈ behind, isBlank x = true) :
    IsWholeWord name (before ++ text ++ behind) (before ++ front) (back ++ behind) := by
  have hlast (word : List Char) : (before ++ word).getLast?.any isWordChar =
      word.getLast?.any isWordChar := by
    cases hw : word.getLast? with
    | some y => simp [List.getLast?_append, hw]
    | none =>
      cases hb : before.getLast? with
      | none => simp [List.getLast?_append, hw, hb]
      | some y =>
        simpa [List.getLast?_append, hw, hb] using
          isWordChar_of_isBlank (hbefore y (List.mem_of_getLast? hb))
  have hhead (word : List Char) : (word ++ behind).head?.any isWordChar =
      word.head?.any isWordChar := by
    cases word with
    | cons y word => rfl
    | nil =>
      cases behind with
      | nil => rfl
      | cons y behind => simpa using isWordChar_of_isBlank (hbehind y List.mem_cons_self)
  obtain ⟨rfl, hstarts, hstops⟩ := h
  refine ⟨by simp, ?_, ?_⟩
  · rwa [isBoundary, hlast, ← List.append_assoc, hhead]
  · rwa [isBoundary, List.append_assoc, hlast, hhead]

theorem hasWord_trim_iff {letters : String}
    (hletters : (blankCodes.all fun n => letters.toList.all fun c =>
      foldCode n != foldCode c.toNat) = true) (hne : letters ≠ "") (text : List Char) :
    HasWord letters (trim text) ↔ HasWord letters text := by
  obtain ⟨before, behind, hbefore, hbehind, htext⟩ := exists_append_trim_append text
  constructor
  · rintro ⟨word, front, back, hword, hin⟩
    refine ⟨word, before ++ front, back ++ behind, hword, ?_⟩
    rw [htext]
    exact hin.blanks hbefore hbehind
  · rintro ⟨word, front, back, hword, hin⟩
    rw [htext] at hin
    have hname : ∀ x ∈ word, isBlank x = false := by
      intro x hx
      refine Bool.eq_false_iff.mpr fun hb => ?_
      exact hword.not_mem (List.all_eq_true.mp hletters _ (mem_blankCodes hb)) hx
    have hword' : word ≠ [] := by
      rintro rfl
      cases hl : letters.toList with
      | nil => exact hne (String.toList_eq_nil_iff.mp hl)
      | cons c more => rw [hl] at hword; cases hword
    obtain ⟨front, back, hin⟩ := hin.of_blanks hword' hname hbefore hbehind
    exact ⟨word, front, back, hword, hin⟩

end Text

end SolidityLint
