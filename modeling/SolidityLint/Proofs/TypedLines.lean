import SolidityLint.Proofs.Highlights
import SolidityLint.Proofs.WholeWords

/-!
# Names on a typed line

A line that starts with an elementary type is split at blanks and separators. It makes known the
names that stand free behind the type (`mem_namesBehindType_iff`, `tokens_behind_type`), where
modifiers do not count and a name directly before an equals sign does not stand free
(`standsFree_name_append`), and names behind a data location (`exists_standsLocated`).
-/

namespace SolidityLint

open Pattern Text Vocabulary

-- ---------------------------------------------------------------------------
-- Elementary types
-- ---------------------------------------------------------------------------

theorem Pattern.spells_digits {word : List Char} (h : ∀ x ∈ word, x.isDigit = true) :
    digits.Spells word := by
  refine spells_many_one.mpr fun x hx => ?_
  have hdigit := h x hx
  have hascii : x.toNat < 128 :=
    toNat_lt_of_continuesName (by simp [continuesName, Char.isAlphanum, hdigit])
  simp [CharSet.contains, CharItem.contains, CharClass.contains, isDigit, digit?, asciiDigit?,
    hascii, hdigit]

namespace Text

variable {type : List Char}

/-- An elementary type. Numbers follow those that come in sizes. -/
def IsElementaryType (type : List Char) : Prop :=
  (∃ base ∈ ["address", "bool", "string"], type = base.toList) ∨
    ∃ base ∈ ["uint", "int", "bytes"], ∃ number, type = base.toList ++ number ∧
      ∀ c ∈ number, c.isDigit = true

theorem IsElementaryType.spells (h : IsElementaryType type) : elementaryType.Spells type := by
  rcases h with ⟨base, hbase, rfl⟩ | ⟨base, hbase, number, rfl, hnumber⟩
  · refine spells_any_of_mem (p := caseless base) ?_ (spells_caseless_self base)
    simp only [List.mem_cons, List.not_mem_nil, or_false] at hbase ⊢
    rcases hbase with rfl | rfl | rfl <;> simp
  · refine spells_any_of_mem (p := all [caseless base, digits]) ?_ ?_
    · simp only [List.mem_cons, List.not_mem_nil, or_false] at hbase ⊢
      rcases hbase with rfl | rfl | rfl <;> simp
    · exact ⟨_, _, spells_caseless_self base, spells_digits hnumber, rfl⟩

theorem IsElementaryType.continuesName (h : IsElementaryType type) :
    ∀ c ∈ type, continuesName c = true := by
  have hletters : (["address", "bool", "string", "uint", "int", "bytes"].all
      (·.toList.all Text.continuesName)) = true := by decide
  have hbases := List.all_eq_true.mp hletters
  rcases h with ⟨base, hbase, rfl⟩ | ⟨base, hbase, number, rfl, hnumber⟩
  · refine List.all_eq_true.mp (hbases base ?_)
    exact List.mem_append_left ["uint", "int", "bytes"] hbase
  · intro c hc
    rcases List.mem_append.mp hc with hc | hc
    · refine List.all_eq_true.mp (hbases base ?_) c hc
      exact List.mem_append_right ["address", "bool", "string"] hbase
    · simp [Text.continuesName, Char.isAlphanum, hnumber c hc]

theorem IsElementaryType.exists_head (h : IsElementaryType type) :
    ∃ c rest, type = c :: rest ∧ c.isLower = true := by
  rcases h with ⟨base, hbase, rfl⟩ | ⟨base, hbase, number, rfl, -⟩
  · simp only [List.mem_cons, List.not_mem_nil, or_false] at hbase
    rcases hbase with rfl | rfl | rfl <;> exact ⟨_, _, rfl, rfl⟩
  · simp only [List.mem_cons, List.not_mem_nil, or_false] at hbase
    rcases hbase with rfl | rfl | rfl <;> exact ⟨_, _, rfl, rfl⟩

def IsSizes (sizes : List Char) : Prop :=
  ∃ parts : List (List Char), sizes = parts.flatMap (fun part => '[' :: (part ++ [']'])) ∧
    ∀ part ∈ parts, ∀ c ∈ part, isBlank c = false ∧ c ≠ ']' ∧ c ≠ '('

theorem IsSizes.forall_mem {sizes : List Char} (h : IsSizes sizes) :
    ∀ c ∈ sizes, isBlank c = false ∧ c ≠ '(' := by
  obtain ⟨parts, rfl, hparts⟩ := h
  intro c hc
  obtain ⟨part, hp, hc⟩ := List.mem_flatMap.mp hc
  simp only [List.mem_cons, List.mem_append, List.not_mem_nil, or_false] at hc
  rcases hc with rfl | hc | rfl
  · decide
  · exact ⟨(hparts part hp c hc).1, (hparts part hp c hc).2.2⟩
  · decide

theorem IsSizes.eq_nil_or_cons {sizes : List Char} (h : IsSizes sizes) :
    sizes = [] ∨ ∃ rest, sizes = '[' :: rest := by
  obtain ⟨parts, rfl, -⟩ := h
  cases parts with
  | nil => exact .inl rfl
  | cons part parts => exact .inr ⟨_, rfl⟩

theorem IsSizes.eq_of_getLast? {sizes : List Char} {c : Char} (h : IsSizes sizes)
    (hc : sizes.getLast? = some c) : c = ']' := by
  obtain ⟨parts, rfl, -⟩ := h
  induction parts with
  | nil => cases hc
  | cons part parts ih =>
    rw [List.flatMap_cons, List.getLast?_append] at hc
    cases hlast : (parts.flatMap fun part => '[' :: (part ++ [']'])).getLast? with
    | none => simpa [hlast, List.getLast?_cons, eq_comm] using hc
    | some d =>
      rw [hlast] at hc
      exact ih (hlast.trans hc)

end Text

-- ---------------------------------------------------------------------------
-- Types at the beginning of a line
-- ---------------------------------------------------------------------------

namespace Check

variable {type sizes : List Char}

theorem typeToken_opens (h : IsElementaryType type) : typeToken.opens type = true := by
  refine (matchAt?_isSome_iff (by decide) (by decide)).mpr
    ⟨⟨0 + type.length, type.reverse ++ [], []⟩, _, ⟨rfl, rfl⟩, _, .inl ?_, rfl, rfl⟩
  exact (takes_iff_spells (by decide)).mpr ⟨type, h.spells, by simp, rfl, rfl⟩

theorem arraySuffix_spells_iff {word : List Char} :
    arraySuffix.Spells word ↔ ∃ part, word = '[' :: (part ++ [']']) ∧ ']' ∉ part := by
  simp only [arraySuffix, spells_all_cons, spells_all_nil, spells_char, spells_many_noneOf]
  constructor
  · rintro ⟨_, _, rfl, ⟨part, _, hpart, ⟨_, _, rfl, rfl, rfl⟩, rfl⟩, rfl⟩
    exact ⟨part, by simp, hpart⟩
  · rintro ⟨part, rfl, hpart⟩
    exact ⟨['['], part ++ [']'], rfl, ⟨part, [']'], hpart, ⟨[']'], [], rfl, rfl, rfl⟩, rfl⟩, rfl⟩

theorem trailingArrays_takes {a b : Place} {text : List Char} (ha : a.In text)
    (hfeed : '\n' ∉ text) (h : trailingArrays.Takes a b) :
    a.after.head? = some '[' ∧ b.pos = text.length := by
  obtain ⟨c, harrays, hfinish, rfl⟩ := h
  obtain ⟨word, ⟨words, hlow, -, hwords, rfl⟩, hr⟩ := (takes_iff_spells (by decide)).mp harrays
  have hend : b.after = [] := by
    have hafter : b.after = [] ∨ b.after = ['\n'] := by simpa [Anchor.holds] using hfinish
    refine hafter.resolve_right fun he => hfeed ?_
    rw [← (hr.in ha).text, Place.text, he]
    simp
  constructor
  · cases words with
    | nil => cases hlow
    | cons first words =>
      obtain ⟨part, rfl, -⟩ := arraySuffix_spells_iff.mp (hwords first List.mem_cons_self)
      rw [hr.after]
      rfl
  · have hlength := (hr.in ha).pos_add_length
    rwa [hend] at hlength

theorem many1_arraySuffix_spells (hs : IsSizes sizes) (hne : sizes ≠ []) :
    (many1 arraySuffix).Spells sizes := by
  obtain ⟨parts, rfl, hparts⟩ := hs
  refine ⟨parts.map fun part => '[' :: (part ++ [']']), ?_, by simp, ?_, List.flatMap_def⟩
  · cases parts with
    | nil => exact absurd rfl hne
    | cons part parts => simp
  · intro word hw
    obtain ⟨part, hp, rfl⟩ := List.mem_map.mp hw
    exact arraySuffix_spells_iff.mpr ⟨part, rfl, fun hm => (hparts part hp _ hm).2.1 rfl⟩

theorem exists_trailingArrays_search? (hs : IsSizes sizes) (hne : sizes ≠ []) (front : List Char) :
    ∃ found, trailingArrays.search? (front ++ sizes) = some found ∧
      found.span.start ≤ front.length := by
  refine exists_search?_le (by decide) (by decide) (.of_append front sizes)
    (b := ⟨front.length + sizes.length, sizes.reverse ++ front.reverse, []⟩) ⟨_, ?_, rfl, rfl⟩
  exact (takes_iff_spells (by decide)).mpr
    ⟨sizes, many1_arraySuffix_spells hs hne, by simp, rfl, rfl⟩

theorem withoutTrailingArrays_append (ht : IsElementaryType type) (hs : IsSizes sizes) :
    withoutTrailingArrays (type ++ sizes) = type := by
  have hopening : '[' ∉ type := fun hm => absurd (ht.continuesName _ hm) (by decide)
  have hfeed : '\n' ∉ type ++ sizes := by
    intro hm
    rcases List.mem_append.mp hm with hm | hm
    · exact absurd (ht.continuesName _ hm) (by decide)
    · exact absurd (hs.forall_mem _ hm).1 (by decide)
  unfold withoutTrailingArrays
  cases hsearch : trailingArrays.search? (type ++ sizes) with
  | none =>
    have hnil : sizes = [] := by
      by_contra hne
      obtain ⟨found, hfound, -⟩ := exists_trailingArrays_search? hs hne type
      cases hsearch.symm.trans hfound
    simp [hnil]
  | some found =>
    obtain ⟨a, ha, hm⟩ := foundIn_of_search? hsearch
    obtain ⟨b, hb, hspan⟩ := takes_of_matchAt? (by decide) hm
    obtain ⟨hhead, hstop⟩ := trailingArrays_takes ha hfeed hb
    -- There is no bracket inside of the type.
    have hbehind : type.length ≤ a.pos := ha.length_le_pos hhead hopening
    have hne : sizes ≠ [] := by
      rintro rfl
      have hlength := ha.pos_add_length
      rw [List.append_nil] at hlength
      have hnil : a.after = [] := List.length_eq_zero_iff.mp (by omega)
      rw [hnil] at hhead
      cases hhead
    obtain ⟨first, hfound, hle⟩ := exists_trailingArrays_search? hs hne type
    cases hsearch.symm.trans hfound
    have hstart : a.pos = type.length := by
      rw [hspan] at hle
      exact Nat.le_antisymm hle hbehind
    simp [hspan, hstart, hstop]

theorem isTypeToken_append (ht : IsElementaryType type) (hs : IsSizes sizes) :
    isTypeToken (type ++ sizes) = true := by
  rw [isTypeToken, withoutTrailingArrays_append ht hs, typeToken_opens ht]

theorem withoutPunctuation_eq_self {token : List Char}
    (h : ∀ c, token.getLast? = some c → continuesName c = true ∨ c = ']') :
    withoutPunctuation token = token := by
  unfold withoutPunctuation
  refine if_neg fun hany => ?_
  obtain ⟨c, hlast, hc⟩ := (Option.any_eq_true _ _).mp hany
  have hmark : c ∈ [',', ';', '{', '}', '(', ')'] := List.contains_iff_mem.mp hc
  have hnone :
      ([',', ';', '{', '}', '(', ')'].all fun c => !continuesName c && c != ']') = true := by
    decide
  have hother := List.all_eq_true.mp hnone c hmark
  simp only [Bool.and_eq_true, Bool.not_eq_true', bne_iff_ne] at hother
  rcases h c hlast with h | h
  · exact Bool.false_ne_true (hother.1.symm.trans h)
  · exact hother.2 h

theorem tokens_behind_type {indent rest : List Char}
    (hindent : ∀ c ∈ indent, isBlank c = true) (ht : IsElementaryType type) (hs : IsSizes sizes)
    (hrest : rest.head?.any isBlank = true) :
    (((words (indent ++ (type ++ sizes) ++ rest)).map withoutPunctuation).dropWhile
        (!isTypeToken ·)).drop 1 = (words rest).map withoutPunctuation := by
  have hblank : ∀ c ∈ type ++ sizes, isBlank c = false := by
    intro c hc
    rcases List.mem_append.mp hc with hc | hc
    · exact isBlank_of_continuesName (ht.continuesName c hc)
    · exact (hs.forall_mem c hc).1
  have hne : type ++ sizes ≠ [] := by
    obtain ⟨c, more, rfl, -⟩ := ht.exists_head
    simp
  have hmark : withoutPunctuation (type ++ sizes) = type ++ sizes := by
    refine withoutPunctuation_eq_self fun c hc => ?_
    rw [List.getLast?_append] at hc
    cases hlast : sizes.getLast? with
    | none =>
      rw [hlast] at hc
      exact .inl (ht.continuesName c (List.mem_of_getLast? hc))
    | some d =>
      rw [hlast] at hc
      exact .inr (hs.eq_of_getLast? (hlast.trans hc))
  rw [List.append_assoc, words_blank_append hindent, words_append hrest,
    words_of_not_blank hne hblank, List.singleton_append, List.map_cons, hmark,
    List.dropWhile_cons, isTypeToken_append ht hs]
  rfl

section
variable {indent rest : List Char}

theorem someType_occursIn (hindent : ∀ c ∈ indent, isBlank c = true) (ht : IsElementaryType type)
    (hs : IsSizes sizes) (hrest : rest.head?.any isBlank = true) :
    someType.occursIn (indent ++ (type ++ sizes) ++ rest) = true := by
  have hne : type ≠ [] := by
    obtain ⟨c, more, rfl, -⟩ := ht.exists_head
    exact List.cons_ne_nil c more
  have hword : ∀ c ∈ type, isWordChar c = true :=
    fun c hc => isWordChar_of_continuesName (ht.continuesName c hc)
  have hbefore : indent.getLast?.any isWordChar = false := by
    cases hlast : indent.getLast? with
    | none => rfl
    | some d => exact isWordChar_of_isBlank (hindent d (List.mem_of_getLast? hlast))
  have hbehind : (sizes ++ rest).head?.any isWordChar = false := by
    rcases hs.eq_nil_or_cons with rfl | ⟨more, rfl⟩
    · obtain ⟨d, hd, hblank⟩ := (Option.any_eq_true _ _).mp hrest
      simp [hd, isWordChar_of_isBlank hblank]
    · rfl
  have hwhole := IsWholeWord.of_word hne hword hbefore hbehind
  rw [List.append_assoc, List.append_assoc, ← List.append_assoc]
  refine occursIn_alt_left (by decide) (by decide) ?_
  refine (occursIn_wholeWord_iff (by decide) _).mpr ⟨type, indent, sizes ++ rest, ?_, hwhole⟩
  exact .inl ht.spells

theorem userTypedDeclaration_match? (hindent : ∀ c ∈ indent, isBlank c = true)
    (ht : IsElementaryType type) :
    userTypedDeclaration.match? (indent ++ (type ++ rest)) = none := by
  refine Option.eq_none_iff_forall_ne_some.mpr fun found hm => ?_
  obtain ⟨b, -, -, ⟨-, ⟨-, rfl⟩, c, hblanks, d, hcapital, -⟩, -⟩ :=
    parts_of_matchAt? (p := userTypedDeclaration) rfl hm
  obtain ⟨gap, hgap, hr⟩ := (takes_iff_spells (by decide)).mp hblanks
  obtain ⟨e, ⟨x, after, hafter, hx, rfl⟩, -⟩ := hcapital
  have hr : indent ++ (type ++ rest) = gap ++ c.after := hr.after
  obtain ⟨y, more, rfl, hlower⟩ := ht.exists_head
  have htrim := congrArg trimStart hr
  rw [hafter, trimStart_blank_append hindent,
    trimStart_blank_append (spells_blanks.mp hgap)] at htrim
  -- A type starts with a small letter.
  have hcapital : 65 ≤ x.toNat ∧ x.toNat ≤ 90 := by
    simpa [CharSet.contains, CharItem.contains] using hx
  have halpha : x.isAlpha = true := isAlpha_iff.mpr (.inl (isUpper_iff.mpr hcapital))
  have hxblank : isBlank x = false :=
    isBlank_of_continuesName (by simp [continuesName, Char.isAlphanum, halpha])
  have hyblank : isBlank y = false :=
    isBlank_of_continuesName (ht.continuesName y List.mem_cons_self)
  rw [List.cons_append, trimStart_of_not_isBlank hxblank, trimStart_of_not_isBlank hyblank] at htrim
  obtain ⟨hsame, -⟩ := List.cons.inj htrim
  subst hsame
  have hsmall := isLower_iff.mp hlower
  omega

end

-- ---------------------------------------------------------------------------
-- Names that stand free
-- ---------------------------------------------------------------------------

/-- A name stands free in a text: alone between blanks, or there between commas and semicolons. One
mark of punctuation before the next blank does not count, and modifiers are no names. -/
def StandsFree (name text : List Char) : Prop :=
  isName name = true ∧ ∃ token, IsPart isBlank token text ∧
    isKeywordOf modifiers (withoutPunctuation token) = false ∧
    IsPart (fun c => c == ',' || c == ';') name (withoutPunctuation token)

variable {name other text front back : List Char} {x : Char}

theorem mem_namesBehindType_iff :
    name ∈ namesBehindType ((words text).map withoutPunctuation) ↔ StandsFree name text := by
  simp only [namesBehindType, List.mem_flatMap, List.mem_filter, List.mem_map, mem_words_iff,
    mem_splitBy_iff, StandsFree, Bool.not_eq_true']
  constructor
  · rintro ⟨_, ⟨⟨token, ⟨-, htoken⟩, rfl⟩, hkeyword⟩, hpart, hname⟩
    exact ⟨hname, token, htoken, hkeyword, hpart⟩
  · rintro ⟨hname, token, htoken, hkeyword, hpart⟩
    refine ⟨_, ⟨⟨token, ⟨?_, htoken⟩, rfl⟩, hkeyword⟩, hpart, hname⟩
    rintro rfl
    obtain ⟨-, before, after, hnil, -⟩ := hpart
    have hempty : name = [] := by
      simp [withoutPunctuation] at hnil
      exact hnil.2.1
    rw [hempty] at hname
    cases hname

theorem standsFree_append (h : back.head?.any isBlank = true) :
    StandsFree name (front ++ back) ↔ StandsFree name front ∨ StandsFree name back := by
  simp only [← mem_namesBehindType_iff, words_append h, namesBehindType, List.map_append,
    List.filter_append, List.flatMap_append, List.mem_append]

theorem standsFree_blank_append {gap : List Char} (h : ∀ c ∈ gap, isBlank c = true) :
    StandsFree name (gap ++ text) ↔ StandsFree name text := by
  simp only [← mem_namesBehindType_iff, words_blank_append h]

theorem standsFree_token (hne : text ≠ []) (h : ∀ c ∈ text, isBlank c = false) :
    StandsFree name text ↔
      isName name = true ∧ isKeywordOf modifiers (withoutPunctuation text) = false ∧
        IsPart (fun c => c == ',' || c == ';') name (withoutPunctuation text) := by
  rw [← mem_namesBehindType_iff, words_of_not_blank hne h]
  simp only [namesBehindType, List.mem_flatMap, List.mem_filter, List.map_cons, List.map_nil,
    List.mem_singleton, mem_splitBy_iff, Bool.not_eq_true']
  constructor
  · rintro ⟨_, ⟨rfl, hkeyword⟩, hpart, hname⟩
    exact ⟨hname, hkeyword, hpart⟩
  · rintro ⟨hname, hkeyword, hpart⟩
    exact ⟨_, ⟨rfl, hkeyword⟩, hpart, hname⟩

theorem standsFree_name (hn : isName other = true) (hw : withoutPunctuation text = other)
    (h : ∀ c ∈ text, isBlank c = false) :
    StandsFree name text ↔ name = other ∧ isKeywordOf modifiers other = false := by
  have hne : text ≠ [] := by
    rintro rfl
    cases hw
    cases hn
  have hnone : ∀ c ∈ other, (c == ',' || c == ';') = false := by
    intro c hc
    have hcontinues := continuesName_of_isName hn c hc
    refine Bool.eq_false_iff.mpr fun hmark => ?_
    simp only [Bool.or_eq_true, beq_iff_eq] at hmark
    rcases hmark with rfl | rfl <;> revert hcontinues <;> decide
  rw [standsFree_token hne h, hw, ← mem_splitBy_iff, splitBy_eq_splitOnP,
    List.splitOnP_eq_singleton hnone, List.mem_singleton]
  constructor
  · exact fun h => ⟨h.2.2, h.2.1⟩
  · rintro ⟨rfl, hk⟩
    exact ⟨hn, hk, rfl⟩

theorem withoutPunctuation_append (hne : text ≠ []) (front : List Char) :
    withoutPunctuation (front ++ text) = front ++ withoutPunctuation text := by
  have hlast : (front ++ text).getLast? = text.getLast? := List.getLast?_append_of_ne_nil front hne
  rw [withoutPunctuation, withoutPunctuation, hlast, List.dropLast_append_of_ne_nil hne]
  split <;> rfl

theorem standsFree_name_semicolon (hn : isName other = true) :
    StandsFree name (other ++ [';']) ↔ name = other ∧ isKeywordOf modifiers other = false := by
  have hwithout : withoutPunctuation (other ++ [';']) = other := by
    rw [withoutPunctuation_append (by simp)]
    exact List.append_nil other
  refine standsFree_name hn hwithout fun c hc => ?_
  rcases List.mem_append.mp hc with hc | hc
  · exact isBlank_of_continuesName (continuesName_of_isName hn c hc)
  · rw [List.mem_singleton.mp hc]
    decide

theorem exists_withoutPunctuation_equals (rest : List Char) :
    ∃ inner, withoutPunctuation ('=' :: rest) = '=' :: inner := by
  cases rest with
  | nil => exact ⟨[], rfl⟩
  | cons c rest => exact ⟨_, withoutPunctuation_append (List.cons_ne_nil c rest) ['=']⟩

theorem isKeywordOf_of_equals (h : '=' ∈ text) : isKeywordOf modifiers text = false := by
  have hnone : ∀ keyword ∈ modifiers, '=' ∉ keyword.toList := by decide
  refine Bool.eq_false_iff.mpr fun hk => ?_
  obtain ⟨keyword, hm, he⟩ := List.any_eq_true.mp hk
  rw [beq_iff_eq] at he
  refine hnone keyword hm (he ▸ List.mem_map.mpr ⟨'=', h, by decide⟩)

/-- What stands directly before an equals sign is no name by itself. -/
theorem isPart_equals_append (hf : ∀ c ∈ front, continuesName c = true) (hn : isName name = true) :
    IsPart (fun c => c == ',' || c == ';') name (front ++ '=' :: back) ↔
      IsPart (fun c => c == ',' || c == ';') name ('=' :: back) := by
  have hequals : '=' ∉ name := fun hm => absurd (continuesName_of_isName hn _ hm) (by decide)
  constructor
  · rintro ⟨hpart, before, after, htext, hbefore, hafter⟩
    refine ⟨hpart, ?_⟩
    rw [List.append_assoc] at htext
    rcases List.append_eq_append_iff.mp htext with ⟨inner, rfl, hinner⟩ | ⟨inner, rfl, hinner⟩
    · refine ⟨inner, after, by rw [hinner, List.append_assoc], ?_, hafter⟩
      cases inner with
      | nil => rfl
      | cons c inner =>
        rwa [List.getLast?_append_of_ne_nil front (List.cons_ne_nil c inner)] at hbefore
    · -- The name ends before the equals sign, where there is no separator.
      have hends : ∃ gap, after = gap ++ '=' :: back ∧ ∀ c ∈ gap, continuesName c = true := by
        rcases List.append_eq_append_iff.mp hinner with ⟨gap, rfl, hgap⟩ | ⟨gap, rfl, hgap⟩
        · exact ⟨gap, hgap, fun c hc => hf c (by simp [hc])⟩
        · cases gap with
          | nil => exact ⟨[], hgap.symm, List.forall_mem_nil _⟩
          | cons c gap =>
            cases hgap
            exact absurd (by simp) hequals
      obtain ⟨gap, rfl, hgap⟩ := hends
      cases gap with
      | nil => cases hafter
      | cons c gap =>
        have hcontinues := hgap c List.mem_cons_self
        simp only [List.cons_append, List.head?_cons, Option.all_some, Bool.or_eq_true,
          beq_iff_eq] at hafter
        rcases hafter with rfl | rfl <;> cases hcontinues
  · rintro ⟨hpart, before, after, htext, hbefore, hafter⟩
    refine ⟨hpart, front ++ before, after, by rw [htext]; simp, ?_, hafter⟩
    cases before with
    | nil =>
      cases name with
      | nil => cases hn
      | cons c name =>
        cases htext
        exact absurd List.mem_cons_self hequals
    | cons c before => rwa [List.getLast?_append_of_ne_nil front (List.cons_ne_nil c before)]

theorem standsFree_equals_append (hf : ∀ c ∈ front, continuesName c = true) :
    StandsFree name (front ++ '=' :: back) ↔ StandsFree name ('=' :: back) := by
  have htoken (word : List Char) (hword : ∀ c ∈ word, isBlank c = false) :
      StandsFree name (front ++ '=' :: word) ↔ StandsFree name ('=' :: word) := by
    have hblank : ∀ c ∈ '=' :: word, isBlank c = false :=
      List.forall_mem_cons.mpr ⟨by decide, hword⟩
    have hboth : ∀ c ∈ front ++ '=' :: word, isBlank c = false := by
      intro c hc
      rcases List.mem_append.mp hc with hc | hc
      · exact isBlank_of_continuesName (hf c hc)
      · exact hblank c hc
    obtain ⟨inner, hinner⟩ := exists_withoutPunctuation_equals word
    rw [standsFree_token (by simp) hboth, standsFree_token (by simp) hblank,
      withoutPunctuation_append (by simp), hinner, isKeywordOf_of_equals (by simp),
      isKeywordOf_of_equals (by simp)]
    exact and_congr_right fun hn => and_congr_right fun _ => isPart_equals_append hf hn
  -- The token goes on to the next blank.
  obtain ⟨word, hword, rfl | ⟨x, rest, rfl, hx⟩⟩ := exists_front isBlank back
  · exact htoken back hword
  · have hrest : (x :: rest).head?.any isBlank = true := hx
    rw [← List.cons_append, ← List.append_assoc, standsFree_append hrest, standsFree_append hrest,
      htoken word hword]

theorem continuesName_of_isKeywordOf (h : isKeywordOf modifiers text = true) :
    ∀ c ∈ text, continuesName c = true := by
  have hletters : (modifiers.all (·.toList.all Char.isLower)) = true := by decide
  obtain ⟨keyword, hm, he⟩ := List.any_eq_true.mp h
  rw [beq_iff_eq] at he
  intro c hc
  have hlower : c.toLower.isLower = true :=
    List.all_eq_true.mp (List.all_eq_true.mp hletters keyword hm) _ (he ▸ List.mem_map_of_mem hc)
  have halpha : c.isAlpha = true := by
    refine isAlpha_iff.mpr ?_
    cases hupper : c.isUpper with
    | true => exact .inl rfl
    | false =>
      have hself : c.toLower = c := by
        refine dif_neg fun hrange => Bool.false_ne_true (hupper.symm.trans ?_)
        exact isUpper_iff.mpr hrange
      rw [hself] at hlower
      exact .inr hlower
  simp [continuesName, Char.isAlphanum, halpha]

theorem not_standsFree_modifier (h : isKeywordOf modifiers text = true) :
    ¬StandsFree name text := by
  have hcontinues := continuesName_of_isKeywordOf h
  have hne : text ≠ [] := by
    rintro rfl
    revert h
    decide
  have hself : withoutPunctuation text = text :=
    withoutPunctuation_eq_self fun c hc => .inl (hcontinues c (List.mem_of_getLast? hc))
  rw [standsFree_token hne fun c hc => isBlank_of_continuesName (hcontinues c hc), hself, h]
  simp

section
variable {entries : List (List Char × List Char)}

theorem head?_flatMap_append
    (h : ∀ entry ∈ entries, entry.1 ≠ [] ∧ ∀ c ∈ entry.1, isBlank c = true)
    (hback : back.head?.any isBlank = true) :
    (entries.flatMap (fun entry => entry.1 ++ entry.2) ++ back).head?.any isBlank = true := by
  cases entries with
  | nil => exact hback
  | cons entry entries =>
    obtain ⟨hne, hblank⟩ := h entry List.mem_cons_self
    obtain ⟨c, gap, hc⟩ := List.exists_cons_of_ne_nil hne
    rw [hc] at hblank
    simp [hc, hblank c List.mem_cons_self]

theorem standsFree_modifiers_append
    (h : ∀ entry ∈ entries, entry.1 ≠ [] ∧ ∀ c ∈ entry.1, isBlank c = true)
    (hk : ∀ entry ∈ entries, isKeywordOf modifiers entry.2 = true)
    (hback : back.head?.any isBlank = true) :
    StandsFree name (entries.flatMap (fun entry => entry.1 ++ entry.2) ++ back) ↔
      StandsFree name back := by
  induction entries with
  | nil => rfl
  | cons entry entries ih =>
    obtain ⟨⟨-, hgap⟩, hentries⟩ := List.forall_mem_cons.mp h
    obtain ⟨hword, hwords⟩ := List.forall_mem_cons.mp hk
    rw [List.flatMap_cons, List.append_assoc, List.append_assoc, standsFree_blank_append hgap,
      standsFree_append (head?_flatMap_append hentries hback),
      or_iff_right (not_standsFree_modifier hword), ih hentries hwords]

end

theorem standsFree_name_append (hn : isName other = true) (hk : isKeywordOf modifiers other = false)
    (h : back.head?.any isBlank = true ∨ back = [';'] ∨ ∃ rest, back = '=' :: rest) :
    StandsFree name (other ++ back) ↔
      (name = other ∧ back.head? ≠ some '=') ∨ StandsFree name back := by
  have hcontinues := continuesName_of_isName hn
  have hblank : ∀ c ∈ other, isBlank c = false :=
    fun c hc => isBlank_of_continuesName (hcontinues c hc)
  rcases h with h | rfl | ⟨rest, rfl⟩
  · have hself : withoutPunctuation other = other :=
      withoutPunctuation_eq_self fun c hc => .inl (hcontinues c (List.mem_of_getLast? hc))
    have hequals : back.head? ≠ some '=' := by
      intro he
      rw [he] at h
      revert h
      decide
    rw [standsFree_append h, standsFree_name hn hself hblank, and_iff_left hk]
    simp [hequals]
  · have hnone : ¬StandsFree name [';'] := by
      have hnil : namesBehindType ((words [';']).map withoutPunctuation) = [] := by decide
      rw [← mem_namesBehindType_iff, hnil]
      exact List.not_mem_nil
    rw [standsFree_name_semicolon hn, and_iff_left hk]
    simp [hnone]
  · rw [standsFree_equals_append hcontinues]
    simp

-- ---------------------------------------------------------------------------
-- Names behind a data location
-- ---------------------------------------------------------------------------

/-- A name is the word behind a data location. -/
structure StandsLocated (name text front before location behind back : List Char) : Prop where
  text_eq : text = front ++ (before ++ (location ++ (behind ++ (name ++ back))))
  before_apart : before ≠ [] ∧ ∀ c ∈ before, isBlank c = true
  known : location ∈ ["memory", "storage", "calldata"].map String.toList
  behind_apart : behind ≠ [] ∧ ∀ c ∈ behind, isBlank c = true
  word : name ≠ [] ∧ ∀ c ∈ name, isWordChar c = true
  stops : back.head?.any isWordChar = false

def locatedNames (code : Line) : List (List Char) :=
  groupTexts 1 code (locatedDeclaration.findAll code)

theorem mem_of_spells_dataLocation {word : List Char} (h : dataLocation.Spells word) :
    word ∈ ["memory", "storage", "calldata"].map String.toList := by
  simp only [dataLocation, literal, spells_any_cons, spells_chars, not_spells_any_nil,
    or_false] at h
  simpa using h

theorem spells_wideName {word : List Char} (h : wideName.Spells word) :
    word ≠ [] ∧ ∀ c ∈ word, isWordChar c = true := by
  obtain ⟨first, more, ⟨x, hx, rfl⟩, hmore, rfl⟩ := h
  rw [contains_nameStart] at hx
  refine ⟨List.cons_ne_nil x more, List.forall_mem_cons.mpr ⟨?_, ?_⟩⟩
  · exact isWordChar_of_continuesName (continuesName_of_startsName hx)
  · exact contains_word ▸ spells_many_one.mp hmore

theorem exists_standsLocated (h : name ∈ locatedNames text) :
    ∃ front before location behind back,
      StandsLocated name text front before location behind back := by
  obtain ⟨span, hs, rfl⟩ := List.mem_map.mp h
  obtain ⟨found, hf, hs⟩ := List.mem_filterMap.mp hs
  obtain ⟨a, ha, hm⟩ := foundIn_of_mem_findAll hf
  obtain ⟨b, c, hb, hname, hstops, hgroup⟩ := group_longest
    [boundary, nameStart, many wordChar, many arraySuffix, blanks1, dataLocation, blanks1]
    (by decide) hm
  cases hs.symm.trans hgroup
  -- The type with its brackets comes first.
  have hsplit : ∃ d, (all [boundary, nameStart, many wordChar, many arraySuffix]).Takes a d ∧
      (all [blanks1, dataLocation, blanks1]).Takes d b := by
    obtain ⟨a₁, h₁, a₂, h₂, a₃, h₃, d, h₄, hrest⟩ := hb
    exact ⟨d, ⟨a₁, h₁, a₂, h₂, a₃, h₃, h₄⟩, hrest⟩
  obtain ⟨d, htype, hlocated⟩ := hsplit
  obtain ⟨read, hr, -⟩ := htype.reads
  have hd := hr.in ha
  obtain ⟨gaps, hgaps, hread⟩ := (takes_iff_spells (by decide)).mp hlocated
  obtain ⟨before, _, hbefore, ⟨location, behind, hlocation, hbehind, rfl⟩, rfl⟩ := hgaps
  obtain ⟨word, hword, hrword⟩ := (takes_iff_spells (p := wideName) (by decide)).mp hname
  have htext : text =
      d.before.reverse ++ (before ++ (location ++ (behind ++ (word ++ c.after)))) := by
    rw [← hd.text, Place.text, hread.after, hrword.after]
    simp
  refine ⟨d.before.reverse, before, location, behind, c.after, ?_⟩
  rw [Span.of, hrword.slice_eq (hread.in hd)]
  exact ⟨htext, spells_blanks1.mp hbefore, mem_of_spells_dataLocation hlocation,
    spells_blanks1.mp hbehind, spells_wideName hword, contains_word ▸ hstops⟩

theorem functionWord_occursIn_iff :
    functionWord.occursIn text = true ↔ HasWord "function" text := by
  simp only [functionWord, occursIn_wholeWord_iff (p := caseless "function") (by decide), HasWord,
    spells_caseless]

end Check

end SolidityLint
