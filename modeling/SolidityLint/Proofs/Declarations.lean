import SolidityLint.Proofs.TypedLines

/-!
# What declarations make known

A declaration with an elementary type makes known the name, unless it stands directly before the
equals sign, and any name that stands free in the value. To these come the names behind a data
location (`typedDeclarations_declare`).
-/

namespace SolidityLint

open Pattern Text Vocabulary

structure Declaration where
  indent : List Char
  type : List Char
  sizes : List Char
  /-- With the blanks before each of them. -/
  modifiers : List (List Char × List Char)
  gap : List Char
  name : List Char
  /-- The blanks before the equals sign, and what stands behind it. -/
  initializer : Option (List Char × List Char)
  trail : List Char
  indent_blank : ∀ c ∈ indent, isBlank c = true
  type_elementary : IsElementaryType type
  sizes_brackets : IsSizes sizes
  modifiers_apart : ∀ entry ∈ modifiers, entry.1 ≠ [] ∧ ∀ c ∈ entry.1, isBlank c = true
  modifiers_known : ∀ entry ∈ modifiers, isKeywordOf Vocabulary.modifiers entry.2 = true
  gap_apart : gap ≠ [] ∧ ∀ c ∈ gap, isBlank c = true
  name_spelled : isName name = true
  name_own : isKeywordOf Vocabulary.modifiers name = false
  initializer_blank : ∀ entry ∈ initializer, ∀ c ∈ entry.1, isBlank c = true
  trail_blank : ∀ c ∈ trail, isBlank c = true

namespace Declaration

def tail (d : Declaration) : List Char :=
  (d.initializer.elim [] fun entry => entry.1 ++ '=' :: entry.2) ++ d.trail ++ [';']

def head (d : Declaration) : List Char :=
  d.indent ++ (d.type ++ d.sizes) ++
    (d.modifiers.flatMap (fun entry => entry.1 ++ entry.2) ++ d.gap)

def text (d : Declaration) : Line := d.head ++ d.name ++ d.tail

/-- The name does not stand directly before the equals sign. -/
def IsSetOff (d : Declaration) : Prop := d.tail.head? ≠ some '='

variable (d : Declaration)

theorem exists_tail :
    ∃ space x rest, d.tail = space ++ x :: rest ∧ (∀ c ∈ space, isBlank c = true) ∧
      (x = '=' ∨ x = ';' ∧ rest = []) := by
  unfold tail
  cases h : d.initializer with
  | none => exact ⟨d.trail, ';', [], rfl, d.trail_blank, .inr ⟨rfl, rfl⟩⟩
  | some entry =>
    refine ⟨entry.1, '=', entry.2 ++ d.trail ++ [';'], ?_, d.initializer_blank entry h, .inl rfl⟩
    simp

theorem opening_not_mem : '(' ∉ d.head ++ d.name := by
  have hblank : ∀ gap : List Char, (∀ c ∈ gap, isBlank c = true) → '(' ∉ gap :=
    fun gap h hm => absurd (h _ hm) (by decide)
  have hname : ∀ word : List Char, (∀ c ∈ word, continuesName c = true) → '(' ∉ word :=
    fun word h hm => absurd (h _ hm) (by decide)
  have hmodifiers : '(' ∉ d.modifiers.flatMap fun entry => entry.1 ++ entry.2 := by
    intro hm
    obtain ⟨entry, he, hm⟩ := List.mem_flatMap.mp hm
    rcases List.mem_append.mp hm with hm | hm
    · exact hblank _ (d.modifiers_apart entry he).2 hm
    · exact hname _ (Check.continuesName_of_isKeywordOf (d.modifiers_known entry he)) hm
  simp only [head, List.mem_append, not_or]
  exact ⟨⟨⟨hblank _ d.indent_blank, hname _ d.type_elementary.continuesName,
    fun hm => (d.sizes_brackets.forall_mem _ hm).2 rfl⟩, hmodifiers, hblank _ d.gap_apart.2⟩,
    hname _ (continuesName_of_isName d.name_spelled)⟩

theorem maskMappings_text :
    Line.maskMappings d.text = d.head ++ d.name ++ Line.maskMappings d.tail := by
  obtain ⟨space, x, rest, htail, hspace, hx⟩ := d.exists_tail
  have hopening : '(' ∉ space := fun hm => absurd (hspace _ hm) (by decide)
  have hends : Line.endsMapping x = true := by
    rcases hx with rfl | ⟨rfl, -⟩ <;> decide
  rw [text, htail, Line.maskMappings_append d.opening_not_mem hopening hends]

theorem maskMappings_tail :
    (Line.maskMappings d.tail).head? = d.tail.head? ∧
    ((Line.maskMappings d.tail).head?.any isBlank = true ∨ Line.maskMappings d.tail = [';'] ∨
      ∃ rest, Line.maskMappings d.tail = '=' :: rest) := by
  obtain ⟨space, x, rest, htail, hspace, hx⟩ := d.exists_tail
  have hopening : '(' ∉ space := fun hm => absurd (hspace _ hm) (by decide)
  have hends : Line.endsMapping x = true := by
    rcases hx with rfl | ⟨rfl, -⟩ <;> decide
  rw [htail, Line.maskMappings, Line.maskFrom_append hopening hends]
  cases space with
  | cons c space => exact ⟨rfl, .inl (hspace c List.mem_cons_self)⟩
  | nil =>
    refine ⟨rfl, .inr ?_⟩
    rcases hx with rfl | ⟨rfl, rfl⟩
    · exact .inr ⟨_, rfl⟩
    · exact .inl rfl

theorem mem_elementaryDeclarations_iff {name : List Char} :
    name ∈ Check.elementaryDeclarations d.text ↔
      (name = d.name ∧ d.IsSetOff) ∨ Check.StandsFree name (Line.maskMappings d.tail) := by
  obtain ⟨hhead, htail⟩ := d.maskMappings_tail
  have hblank : (d.gap ++ (d.name ++ Line.maskMappings d.tail)).head?.any isBlank = true := by
    obtain ⟨c, gap, hc⟩ := List.exists_cons_of_ne_nil d.gap_apart.1
    have hblank := d.gap_apart.2
    rw [hc] at hblank ⊢
    exact hblank c List.mem_cons_self
  have hmasked : Line.maskMappings d.text = d.indent ++ (d.type ++ d.sizes) ++
      (d.modifiers.flatMap (fun entry => entry.1 ++ entry.2) ++
        (d.gap ++ (d.name ++ Line.maskMappings d.tail))) := by
    rw [d.maskMappings_text, head]
    simp only [List.append_assoc]
  have hrest := Check.head?_flatMap_append d.modifiers_apart hblank
  rw [Check.elementaryDeclarations, hmasked,
    Check.tokens_behind_type d.indent_blank d.type_elementary d.sizes_brackets hrest,
    Check.mem_namesBehindType_iff,
    Check.standsFree_modifiers_append d.modifiers_apart d.modifiers_known hblank,
    Check.standsFree_blank_append d.gap_apart.2,
    Check.standsFree_name_append d.name_spelled d.name_own htail, hhead]
  rfl

theorem exists_text :
    ∃ rest, d.text = d.indent ++ (d.type ++ d.sizes) ++ rest ∧ rest.head?.any isBlank = true := by
  refine ⟨d.modifiers.flatMap (fun entry => entry.1 ++ entry.2) ++ (d.gap ++ (d.name ++ d.tail)),
    by simp [text, head], Check.head?_flatMap_append d.modifiers_apart ?_⟩
  obtain ⟨hne, hblank⟩ := d.gap_apart
  obtain ⟨c, gap, hc⟩ := List.exists_cons_of_ne_nil hne
  rw [hc] at hblank ⊢
  exact hblank c List.mem_cons_self

theorem mem_typedNames_iff (hword : ¬HasWord "function" d.text) {name : List Char} :
    name ∈ Check.typedNames d.text ↔
      (name = d.name ∧ d.IsSetOff) ∨ Check.StandsFree name (Line.maskMappings d.tail) ∨
        name ∈ Check.locatedNames d.text := by
  obtain ⟨rest, htext, hrest⟩ := d.exists_text
  have hfunction : Check.functionWord.occursIn d.text = false :=
    Bool.eq_false_iff.mpr fun h => hword (Check.functionWord_occursIn_iff.mp h)
  have htype : someType.occursIn d.text = true :=
    htext ▸ Check.someType_occursIn d.indent_blank d.type_elementary d.sizes_brackets hrest
  have huser : Check.userTypedDeclaration.match? d.text = none := by
    rw [htext, List.append_assoc, List.append_assoc]
    exact Check.userTypedDeclaration_match? d.indent_blank d.type_elementary
  have hnone : Check.groupTexts 1 d.text [] = [] := rfl
  rw [Check.typedNames, hfunction, huser, htype, Option.toList_none, hnone, List.append_nil]
  simp only [Bool.false_eq_true, if_false, if_true, List.mem_append, mem_elementaryDeclarations_iff,
    Check.locatedNames]
  rw [or_comm, or_assoc]

end Declaration

/-- A line that declares a name with an elementary type leaves the missing names as they are and
makes known the name, unless it stands directly before the equals sign; the names that stand free
behind it; and names behind a data location. A name made known in this way is not marked where a
value is assigned to it later. -/
theorem typedDeclarations_declare (d : Declaration) {here : Context} (hcode : here.code = d.text)
    (hword : ¬HasWord "function" d.text) (names : Names) :
    let after := (Check.typedDeclarations here names).names
    after.missing = names.missing ∧
    (∀ name, name ∈ after.declared ↔
      name ∈ names.declared ∨ (name = d.name ∧ d.IsSetOff) ∨
        Check.StandsFree name (Line.maskMappings d.tail) ∨ name ∈ Check.locatedNames d.text) ∧
    (∀ name ∈ Check.locatedNames d.text, ∃ front before location behind back,
      Check.StandsLocated name d.text front before location behind back) ∧
    (d.IsSetOff → ∀ later : Names, after.declared ⊆ later.declared → ∀ there : Context,
      ∀ mark ∈ (Check.assignedNames there later).marks, mark.span.of there.code ≠ d.name) := by
  have hdeclared (name : List Char) :
      name ∈ (Check.typedDeclarations here names).names.declared ↔
        name ∈ names.declared ∨ (name = d.name ∧ d.IsSetOff) ∨
          Check.StandsFree name (Line.maskMappings d.tail) ∨ name ∈ Check.locatedNames d.text := by
    rw [Check.typedDeclarations, Names.mem_foldl_declare, hcode, d.mem_typedNames_iff hword]
  refine ⟨Names.foldl_declare_missing, hdeclared, fun _ h => Check.exists_standsLocated h, ?_⟩
  intro hoff later hlater there mark hm hname
  have hown := hlater ((hdeclared d.name).mpr (.inr (.inl ⟨rfl, hoff⟩)))
  obtain ⟨place, hp, rfl⟩ := List.mem_map.mp hm
  obtain ⟨hplace, hnew⟩ := List.mem_filter.mp hp
  obtain ⟨span, -, rfl⟩ := List.mem_map.mp hplace
  have hspan : span.of there.code = d.name := hname
  simp only [hspan, List.contains_iff_mem.mpr hown] at hnew
  cases hnew

/-- A constant that is set to another name: the text ` bytes32[2][] constant z = y;`. -/
def Declaration.spaced : Declaration where
  indent := [' ']
  type := "bytes32".toList
  sizes := "[2][]".toList
  modifiers := [([' '], "constant".toList)]
  gap := [' ']
  name := "z".toList
  initializer := some ([' '], " y".toList)
  trail := []
  indent_blank := List.all_eq_true.mp (by decide)
  type_elementary := .inr ⟨"bytes", by decide, "32".toList, rfl, List.all_eq_true.mp (by decide)⟩
  sizes_brackets := ⟨[['2'], []], rfl, by simp; decide⟩
  modifiers_apart := List.forall_mem_singleton.mpr ⟨by decide, List.all_eq_true.mp (by decide)⟩
  modifiers_known := by decide
  gap_apart := ⟨by decide, List.all_eq_true.mp (by decide)⟩
  name_spelled := by decide
  name_own := by decide
  initializer_blank := by simp; decide
  trail_blank := List.forall_mem_nil _

/-- Both names are made known, and nothing else is. -/
theorem typedDeclarations_declare_spaced :
    Declaration.spaced.text = " bytes32[2][] constant z = y;".toList ∧
    ¬HasWord "function" Declaration.spaced.text ∧ Declaration.spaced.IsSetOff ∧
    ∀ name, name ∈ (Check.typedDeclarations ⟨[], Declaration.spaced.text, []⟩ {}).names.declared ↔
      name = "z".toList ∨ name = "y".toList := by
  have hword : ¬HasWord "function" Declaration.spaced.text := by
    rw [← Check.functionWord_occursIn_iff]
    decide +kernel
  have hoff : Declaration.spaced.IsSetOff := by
    unfold Declaration.IsSetOff
    decide
  have hfree (name : List Char) :
      Check.StandsFree name (Line.maskMappings Declaration.spaced.tail) ↔ name = "y".toList := by
    have hnames : Check.namesBehindType ((words (Line.maskMappings Declaration.spaced.tail)).map
        Check.withoutPunctuation) = ["y".toList] := by decide +kernel
    rw [← Check.mem_namesBehindType_iff, hnames, List.mem_singleton]
  have hlocated : Check.locatedNames Declaration.spaced.text = [] := by decide +kernel
  have hcode : (⟨[], Declaration.spaced.text, []⟩ : Context).code = Declaration.spaced.text := by
    decide +kernel
  refine ⟨by decide +kernel, hword, hoff, fun name => ?_⟩
  rw [(typedDeclarations_declare Declaration.spaced hcode hword {}).2.1, hfree, hlocated]
  simp only [List.not_mem_nil, or_false, false_or, hoff, and_true]
  rfl

/-- A value without blanks: the text `uint256 x=1;`. -/
def Declaration.tight : Declaration where
  indent := []
  type := "uint256".toList
  sizes := []
  modifiers := []
  gap := [' ']
  name := "x".toList
  initializer := some ([], "1".toList)
  trail := []
  indent_blank := List.forall_mem_nil _
  type_elementary := .inr ⟨"uint", by decide, "256".toList, rfl, List.all_eq_true.mp (by decide)⟩
  sizes_brackets := ⟨[], rfl, List.forall_mem_nil _⟩
  modifiers_apart := List.forall_mem_nil _
  modifiers_known := List.forall_mem_nil _
  gap_apart := ⟨by decide, List.all_eq_true.mp (by decide)⟩
  name_spelled := by decide
  name_own := by decide
  initializer_blank := by simp
  trail_blank := List.forall_mem_nil _

/-- Not every declaration makes its name known, and some make other names known. -/
theorem typedDeclarations_declare_by_blanks :
    Declaration.tight.text = "uint256 x=1;".toList ∧
    Check.functionWord.occursIn Declaration.tight.text = false ∧
    (Check.typedDeclarations ⟨[], Declaration.tight.text, []⟩ {}).names.declared = [] ∧
    Declaration.spaced.text = " bytes32[2][] constant z = y;".toList ∧
    Check.functionWord.occursIn Declaration.spaced.text = false ∧
    (Check.typedDeclarations ⟨[], Declaration.spaced.text, []⟩ {}).names.declared =
      ["y".toList, "z".toList] := by
  decide +kernel

end SolidityLint
