import Mathlib.Data.List.Forall2
import SolidityLint.Proofs.Pattern.Complete
import SolidityLint.Proofs.Text

/-!
# The words of regular patterns

Without conditions on what is around, a pattern is the set of the words that it spells (`Spells`),
and it occurs in a text exactly if one of its words stands somewhere in the text
(`occursIn_iff_spells`).
-/

namespace SolidityLint

-- ---------------------------------------------------------------------------
-- Places between words
-- ---------------------------------------------------------------------------

namespace Place

variable {a b : Place} {first second word text : List Char}

theorem Reads.split (h : a.Reads (first ++ second) b) :
    ∃ mid, a.Reads first mid ∧ mid.Reads second b := by
  refine ⟨⟨a.pos + first.length, first.reverse ++ a.before, second ++ b.after⟩, ?_, ?_⟩
  · exact ⟨by rw [h.after, List.append_assoc], rfl, rfl⟩
  · refine ⟨rfl, ?_, ?_⟩
    · rw [h.before, List.reverse_append, List.append_assoc]
    · rw [h.pos, List.length_append, Nat.add_assoc]

theorem Reads.slice_eq (h : a.Reads word b) (ha : a.In text) :
    Text.slice text a.pos b.pos = word := by
  have hdrop : text.drop a.pos = a.after := by
    rw [← ha.text, ha.pos, Place.text, ← List.length_reverse]
    exact List.drop_left
  rw [Text.slice, hdrop, h.after, h.pos, Nat.add_sub_cancel_left]
  exact List.take_left

theorem exists_reads_iff : (∃ a b, Place.In a text ∧ a.Reads word b) ↔ word <:+: text := by
  constructor
  · rintro ⟨a, b, ha, hr⟩
    refine ⟨a.before.reverse, b.after, ?_⟩
    rw [List.append_assoc, ← hr.after]
    exact ha.text
  · rintro ⟨front, back, rfl⟩
    rw [List.append_assoc]
    exact ⟨_, ⟨front.length + word.length, word.reverse ++ front.reverse, back⟩,
      .of_append front (word ++ back), rfl, rfl, rfl⟩

end Place

namespace Pattern

-- ---------------------------------------------------------------------------
-- Words
-- ---------------------------------------------------------------------------

def isRegular : Pattern → Bool
  | .empty => true
  | .one set => set.isExact
  | .seq p q | .alt p q => p.isRegular && q.isRegular
  | .times .greedy low high p => high.all (low ≤ ·) && p.isRegular
  | .scoped p => p.isRegular
  | _ => false

/-- The words of a pattern. Conditions and references have no meaning here. -/
def Spells : Pattern → List Char → Prop
  | .empty => fun word => word = []
  | .one set => fun word => ∃ x, set.contains x = true ∧ word = [x]
  | .seq p q => fun word => ∃ first second, p.Spells first ∧ q.Spells second ∧
      word = first ++ second
  | .alt p q => fun word => p.Spells word ∨ q.Spells word
  | .times _ low high p => fun word => ∃ words : List (List Char), low ≤ words.length ∧
      (∀ most ∈ high, words.length ≤ most) ∧ (∀ part ∈ words, p.Spells part) ∧
        word = words.flatten
  | .group _ p | .scoped p => p.Spells
  | .anchor _ | .look .. | .again .. | .given .. | .atomic _ => fun _ => False

variable {p q : Pattern} {ps : List Pattern} {a b : Place} {word text : List Char}

theorem isPlain_and_isExact (h : p.isRegular = true) : p.isPlain = true ∧ p.isExact = true := by
  induction p with
  | empty => exact ⟨rfl, rfl⟩
  | one set => exact ⟨rfl, h⟩
  | seq p q ihp ihq | alt p q ihp ihq =>
    simp only [isRegular, Bool.and_eq_true] at h
    simp only [isPlain, isExact, ihp h.1, ihq h.2, Bool.and_true, and_self]
  | times mode low high p ih =>
    cases mode with
    | greedy =>
      simp only [isRegular, Bool.and_eq_true] at h
      simp only [isPlain, isExact, h.1, ih h.2, Bool.and_true, and_self]
    | reluctant | possessive => cases h
  | anchor | group | again | given | look | atomic => cases h
  -- the scope of a pattern
  | _ =>
    rename_i ih
    exact ih h

theorem Iterated.iff_words {n : Nat}
    (hp : ∀ {a b}, p.Takes a b ↔ ∃ word, p.Spells word ∧ a.Reads word b) :
    Iterated p.Takes n a b ↔ ∃ words : List (List Char), words.length = n ∧
      (∀ part ∈ words, p.Spells part) ∧ a.Reads words.flatten b := by
  induction n generalizing a with
  | zero =>
    constructor
    · rintro rfl
      exact ⟨[], rfl, List.forall_mem_nil _, .refl _⟩
    · rintro ⟨words, hl, -, hr⟩
      obtain rfl := List.length_eq_zero_iff.mp hl
      exact hr.eq_of_nil
  | succ n ih =>
    constructor
    · rintro ⟨mid, hfirst, hlater⟩
      obtain ⟨first, hs, hr⟩ := hp.mp hfirst
      obtain ⟨words, rfl, hwords, hmore⟩ := ih.mp hlater
      exact ⟨first :: words, rfl, List.forall_mem_cons.mpr ⟨hs, hwords⟩, hr.trans hmore⟩
    · rintro ⟨words, hl, hwords, hr⟩
      cases words with
      | nil => cases hl
      | cons first words =>
        obtain ⟨hs, hwords⟩ := List.forall_mem_cons.mp hwords
        obtain ⟨mid, hfirst, hmore⟩ := hr.split
        exact ⟨mid, hp.mpr ⟨first, hs, hfirst⟩,
          ih.mpr ⟨words, Nat.succ.inj hl, hwords, hmore⟩⟩

/-- A regular pattern leads on by its words, wherever it starts. -/
theorem takes_iff_spells (hp : p.isRegular = true) :
    p.Takes a b ↔ ∃ word, p.Spells word ∧ a.Reads word b := by
  induction p generalizing a b with
  | empty =>
    constructor
    · rintro rfl
      exact ⟨[], rfl, .refl _⟩
    · rintro ⟨word, rfl, hr⟩
      exact hr.eq_of_nil
  | one set =>
    constructor
    · rintro ⟨x, rest, ha, hx, rfl⟩
      exact ⟨[x], ⟨x, hx, rfl⟩, .step ha⟩
    · rintro ⟨word, ⟨x, hx, rfl⟩, hr⟩
      obtain ⟨rest, ha, hr⟩ := hr.of_cons
      exact ⟨x, rest, ha, hx, hr.eq_of_nil⟩
  | seq p q ihp ihq =>
    simp only [isRegular, Bool.and_eq_true] at hp
    constructor
    · rintro ⟨mid, hfirst, hsecond⟩
      obtain ⟨first, hs, hr⟩ := (ihp hp.1).mp hfirst
      obtain ⟨second, hs', hr'⟩ := (ihq hp.2).mp hsecond
      exact ⟨first ++ second, ⟨first, second, hs, hs', rfl⟩, hr.trans hr'⟩
    · rintro ⟨word, ⟨first, second, hs, hs', rfl⟩, hr⟩
      obtain ⟨mid, hfirst, hsecond⟩ := hr.split
      exact ⟨mid, (ihp hp.1).mpr ⟨first, hs, hfirst⟩, (ihq hp.2).mpr ⟨second, hs', hsecond⟩⟩
  | alt p q ihp ihq =>
    simp only [isRegular, Bool.and_eq_true] at hp
    simp only [Takes, Spells, ihp hp.1, ihq hp.2, or_and_right, exists_or]
  | times mode low high p ih =>
    cases mode with
    | greedy =>
      simp only [isRegular, Bool.and_eq_true] at hp
      constructor
      · rintro ⟨n, hlow, hhigh, h⟩
        obtain ⟨words, rfl, hwords, hr⟩ := (Iterated.iff_words (ih hp.2)).mp h
        exact ⟨words.flatten, ⟨words, hlow, hhigh, hwords, rfl⟩, hr⟩
      · rintro ⟨word, ⟨words, hlow, hhigh, hwords, rfl⟩, hr⟩
        refine ⟨words.length, hlow, hhigh, ?_⟩
        exact (Iterated.iff_words (ih hp.2)).mpr ⟨words, rfl, hwords, hr⟩
    | reluctant | possessive => cases hp
  | anchor | group | again | given | look | atomic => cases hp
  -- the scope of a pattern
  | _ =>
    rename_i ih
    exact ih hp

theorem takes_of_spells (hp : p.isRegular = true) (h : p.Spells word) (pos : Nat)
    (before after : List Char) :
    p.Takes ⟨pos, before, word ++ after⟩ ⟨pos + word.length, word.reverse ++ before, after⟩ :=
  (takes_iff_spells hp).mpr ⟨word, h, rfl, rfl, rfl⟩

theorem occursIn_iff_spells (hp : p.isRegular = true) (text : List Char) :
    p.occursIn text = true ↔ ∃ word, p.Spells word ∧ word <:+: text := by
  rw [occursIn_iff (isPlain_and_isExact hp).1 (isPlain_and_isExact hp).2]
  constructor
  · rintro ⟨a, b, ha, hb⟩
    obtain ⟨word, hs, hr⟩ := (takes_iff_spells hp).mp hb
    exact ⟨word, hs, Place.exists_reads_iff.mp ⟨a, b, ha, hr⟩⟩
  · rintro ⟨word, hs, hin⟩
    obtain ⟨a, b, ha, hr⟩ := Place.exists_reads_iff.mpr hin
    exact ⟨a, b, ha, (takes_iff_spells hp).mpr ⟨word, hs, hr⟩⟩

theorem exists_spells_of_search? {found : Match} (hp : p.isRegular = true)
    (h : p.search? text = some found) :
    ∃ front word back, text = front ++ word ++ back ∧ p.Spells word ∧
      found.span = ⟨front.length, front.length + word.length⟩ := by
  obtain ⟨a, ha, hm⟩ := foundIn_of_search? h
  obtain ⟨b, hb, hspan⟩ := takes_of_matchAt? (isPlain_and_isExact hp).1 hm
  obtain ⟨word, hs, hr⟩ := (takes_iff_spells hp).mp hb
  refine ⟨a.before.reverse, word, b.after, ?_, hs, ?_⟩
  · rw [List.append_assoc, ← hr.after]
    exact ha.text.symm
  · rw [hspan, hr.pos, ha.pos, List.length_reverse]

theorem exists_search?_of_spells {front back : List Char} (hp : p.isRegular = true)
    (hs : p.Spells word) (ht : text = front ++ word ++ back) :
    ∃ found, p.search? text = some found ∧ found.span.start ≤ front.length := by
  obtain ⟨hplain, hexact⟩ := isPlain_and_isExact hp
  rw [ht, List.append_assoc]
  exact exists_search?_le hplain hexact (.of_append front (word ++ back))
    (takes_of_spells hp hs _ _ _)

theorem FoundIn.group_spells {found : Match} {span : Span} (h : q.FoundIn text found)
    (hq : q.parts?.map (·.2.1) = some p) (hp : p.isRegular = true)
    (hs : found.group? 1 = some span) : p.Spells (span.of text) := by
  obtain ⟨⟨pre, body, post⟩, hparts, rfl⟩ := Option.map_eq_some_iff.mp hq
  obtain ⟨a, ha, hm⟩ := h
  obtain ⟨b, c, d, hb, hc, -, hgroup⟩ := parts_of_matchAt? hparts hm
  cases hs.symm.trans hgroup
  obtain ⟨first, hfirst, -⟩ := hb.reads
  obtain ⟨word, hword, hr⟩ := (takes_iff_spells hp).mp hc
  rwa [Span.of, hr.slice_eq (hfirst.in ha)]

-- ---------------------------------------------------------------------------
-- Words of common patterns
-- ---------------------------------------------------------------------------

theorem spells_char {c : Char} : (char c).Spells word ↔ word = [c] := by
  have hc (x : Char) : ({ items := [.char c] } : CharSet).contains x = true ↔ x = c := by
    simp [CharSet.contains, CharItem.char, CharItem.contains, Char.toNat_inj]
  simp only [char, Spells, hc, exists_eq_left]

theorem spells_all_nil : (all []).Spells word ↔ word = [] := Iff.rfl

theorem spells_all_cons :
    (all (p :: ps)).Spells word ↔
      ∃ first second, p.Spells first ∧ (all ps).Spells second ∧ word = first ++ second := by
  cases ps with
  | nil =>
    constructor
    · intro h
      exact ⟨word, [], h, rfl, (List.append_nil word).symm⟩
    · rintro ⟨first, second, h, rfl, rfl⟩
      rwa [List.append_nil]
  | cons q ps => exact Iff.rfl

theorem spells_chars {letters : List Char} :
    (all (letters.map char)).Spells word ↔ word = letters := by
  induction letters generalizing word with
  | nil => exact spells_all_nil
  | cons c letters ih =>
    rw [List.map_cons, spells_all_cons]
    constructor
    · rintro ⟨first, second, hfirst, hsecond, rfl⟩
      rw [spells_char.mp hfirst, ih.mp hsecond]
      rfl
    · rintro rfl
      exact ⟨[c], letters, spells_char.mpr rfl, ih.mpr rfl, rfl⟩

theorem takes_chars {letters : List Char} :
    (all (letters.map char)).Takes a b ↔ a.Reads letters b := by
  have hregular : (all (letters.map char)).isRegular = true := by
    induction letters with
    | nil => rfl
    | cons c letters ih =>
      cases letters with
      | nil => rfl
      | cons d letters => exact ih
  rw [takes_iff_spells hregular]
  simp only [spells_chars, exists_eq_left]

theorem not_spells_any_nil : ¬(any []).Spells word := by
  rintro ⟨x, hx, -⟩
  cases hx

theorem spells_any_cons : (any (p :: ps)).Spells word ↔ p.Spells word ∨ (any ps).Spells word := by
  cases ps with
  | nil => exact ⟨.inl, fun h => h.resolve_right not_spells_any_nil⟩
  | cons q ps => exact Iff.rfl

theorem spells_any_of_mem (hp : p ∈ ps) (h : p.Spells word) : (any ps).Spells word := by
  induction ps with
  | nil => cases hp
  | cons q ps ih =>
    rw [spells_any_cons]
    rcases List.mem_cons.mp hp with rfl | hp
    · exact .inl h
    · exact .inr (ih hp)

/-- The same text but for the case of its letters. -/
def SameLetters (word text : List Char) : Prop :=
  List.Forall₂ (fun x c => Text.foldCode x.toNat = Text.foldCode c.toNat) word text

theorem SameLetters.not_mem {letters : List Char} {x : Char} (h : SameLetters word letters)
    (hx : (letters.all fun c => Text.foldCode x.toNat != Text.foldCode c.toNat) = true) :
    x ∉ word := by
  induction h with
  | nil => exact List.not_mem_nil
  | cons hfirst _ ih =>
    simp only [List.all_cons, Bool.and_eq_true, bne_iff_ne] at hx
    rintro (_ | ⟨_, hm⟩)
    · exact hx.1 hfirst
    · exact ih hx.2 hm

theorem spells_caseless {letters : String} :
    (caseless letters).Spells word ↔ SameLetters word letters.toList := by
  unfold caseless
  generalize letters.toList = text
  induction text generalizing word with
  | nil =>
    constructor
    · rintro rfl
      exact .nil
    · rintro ⟨⟩
      rfl
  | cons c text ih =>
    rw [List.map_cons, spells_all_cons]
    constructor
    · rintro ⟨first, second, ⟨x, hx, rfl⟩, hsecond, rfl⟩
      refine .cons ?_ (ih.mp hsecond)
      simpa [CharSet.contains, CharItem.char, foldedCode] using hx
    · intro h
      cases h with
      | cons hx hmore =>
        rename_i x more
        refine ⟨[x], more, ⟨x, ?_, rfl⟩, ih.mpr hmore, rfl⟩
        simpa [CharSet.contains, CharItem.char, foldedCode] using hx

theorem spells_caselessAny {texts : List String} :
    (caselessAny texts).Spells word ↔ ∃ letters ∈ texts, SameLetters word letters.toList := by
  unfold caselessAny
  induction texts with
  | nil => simp [not_spells_any_nil]
  | cons letters texts ih =>
    rw [List.map_cons, spells_any_cons, spells_caseless, ih]
    simp only [List.mem_cons, exists_eq_or_imp]

theorem spells_caseless_self (letters : String) : (caseless letters).Spells letters.toList :=
  spells_caseless.mpr (List.forall₂_same.mpr fun _ _ => rfl)

theorem spells_many_one {set : CharSet} :
    (many (.one set)).Spells word ↔ ∀ x ∈ word, set.contains x = true := by
  constructor
  · rintro ⟨words, -, -, hwords, rfl⟩ x hx
    obtain ⟨part, hp, hx⟩ := List.mem_flatten.mp hx
    obtain ⟨y, hy, rfl⟩ := hwords part hp
    rwa [List.mem_singleton.mp hx]
  · intro h
    refine ⟨word.map ([·]), Nat.zero_le _, by simp, ?_, (List.flatMap_singleton' word).symm⟩
    intro part hp
    obtain ⟨x, hx, rfl⟩ := List.mem_map.mp hp
    exact ⟨x, h x hx, rfl⟩

theorem spells_many1_one {set : CharSet} :
    (many1 (.one set)).Spells word ↔ word ≠ [] ∧ ∀ x ∈ word, set.contains x = true := by
  rw [← spells_many_one]
  constructor
  · rintro ⟨words, hlow, hmost, hwords, rfl⟩
    refine ⟨fun hnil => ?_, words, Nat.zero_le _, hmost, hwords, rfl⟩
    obtain ⟨first, more, rfl⟩ := List.exists_cons_of_length_pos hlow
    obtain ⟨x, -, rfl⟩ := hwords first List.mem_cons_self
    cases hnil
  · rintro ⟨hne, words, -, hmost, hwords, rfl⟩
    refine ⟨words, List.length_pos_iff.mpr fun hnil => hne ?_, hmost, hwords, rfl⟩
    rw [hnil]
    rfl

theorem spells_many_noneOf {c : Char} : (many (noneOf [.char c])).Spells word ↔ c ∉ word := by
  have hset (x : Char) :
      ({ items := [.char c], negated := true } : CharSet).contains x = true ↔ x ≠ c := by
    simp [CharSet.contains, CharItem.char, CharItem.contains, Char.toNat_inj]
  rw [noneOf, spells_many_one]
  simp only [hset]
  exact ⟨fun h hm => h _ hm rfl, fun h x hx he => h (he ▸ hx)⟩

theorem contains_word : CharSet.contains { items := [.inClass .word] } = Text.isWordChar := by
  funext x
  simp [CharSet.contains, CharItem.contains, CharClass.contains]

theorem contains_nameStart (x : Char) :
    CharSet.contains { items := nameStartItems } x = Text.startsName x := by
  have hscore : x.toNat = '_'.toNat ↔ x = '_' := Char.toNat_inj
  refine Bool.eq_iff_iff.mpr ?_
  simp only [CharSet.contains, nameStartItems, List.any_cons, List.any_nil, CharItem.contains,
    CharItem.char, Text.startsName, Text.isAlpha_iff, Text.isUpper_iff, Text.isLower_iff,
    Bool.or_eq_true, beq_iff_eq, or_assoc]
  simpa using or_congr_right (or_congr_right hscore)

theorem contains_blank (x : Char) :
    ({ items := [.inClass .blank] } : CharSet).contains x = Text.isBlank x := by
  simp [CharSet.contains, CharItem.contains, CharClass.contains]

theorem spells_blanks : blanks.Spells word ↔ ∀ x ∈ word, Text.isBlank x = true := by
  simp only [blanks, blank, oneOf, spells_many_one, contains_blank]

theorem spells_blanks1 :
    blanks1.Spells word ↔ word ≠ [] ∧ ∀ x ∈ word, Text.isBlank x = true := by
  simp only [blanks1, blank, oneOf, spells_many1_one, contains_blank]

theorem spells_word :
    Pattern.word.Spells word ↔ word ≠ [] ∧ ∀ x ∈ word, Text.isWordChar x = true := by
  simp only [Pattern.word, wordChar, oneOf, spells_many1_one, contains_word]

theorem spells_opening {letters : String} :
    (all [caseless letters, blanks, char '(']).Spells word ↔
      ∃ front gap, word = front ++ gap ++ ['('] ∧ SameLetters front letters.toList ∧
        ∀ x ∈ gap, Text.isBlank x = true := by
  simp only [spells_all_cons, spells_all_nil, spells_caseless, spells_char, spells_blanks]
  constructor
  · rintro ⟨front, _, hfront, ⟨gap, _, hgap, ⟨_, _, rfl, rfl, rfl⟩, rfl⟩, rfl⟩
    exact ⟨front, gap, by simp, hfront, hgap⟩
  · rintro ⟨front, gap, rfl, hfront, hgap⟩
    exact ⟨front, gap ++ ['('], hfront, ⟨gap, ['('], hgap, ⟨['('], [], rfl, rfl, rfl⟩, rfl⟩,
      by simp⟩

end Pattern

end SolidityLint
