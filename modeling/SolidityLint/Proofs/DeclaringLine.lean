import SolidityLint.Proofs.TypeRuns
import SolidityLint.Proofs.TypedLines

/-!
# A line that declares a name

The line `uint256 n;` declares `n`, unless this is a modifier or the word `function`, and the checks
for data types have nothing else to say about it (`typeOutcome_declaring`).
-/

namespace SolidityLint

open Pattern Text Vocabulary

-- ---------------------------------------------------------------------------
-- Checks that find nothing
-- ---------------------------------------------------------------------------

namespace Check

variable {here : Context} {names : Names}

theorem assignedNames_of_not_mem (h : '=' ∉ here.code) : assignedNames here names = { names } := by
  have hnone : plainAssignment.findAll here.code = [] := by
    refine List.eq_nil_iff_forall_not_mem.mpr fun found hf => h ?_
    exact (foundIn_of_mem_findAll hf).mem_of_needs (by decide)
  rw [assignedNames, hnone]
  rfl

theorem bracketDeclarations_of_not_mem (h : '[' ∉ here.code) : bracketDeclarations here = [] := by
  refine List.eq_nil_iff_forall_not_mem.mpr fun mark hm => h ?_
  obtain ⟨gap, -, hshown⟩ := bracketDeclarations_shows hm
  have hmem : '[' ∈ mark.span.of here.code := hshown ▸ List.mem_cons_self
  exact List.mem_of_mem_drop (List.mem_of_mem_take hmem)

theorem tupleNames_of_not_mem (h : '(' ∉ here.code) : tupleNames here names = { names } := by
  have hnone : tupleAssignment.search? here.code = none :=
    Option.eq_none_iff_forall_ne_some.mpr fun _ hf =>
      h ((foundIn_of_search? hf).mem_of_needs (by decide))
  rw [tupleNames, hnone]
  rfl

theorem functionParameters_search?_of_not_mem (h : '(' ∉ here.code) :
    functionParameters.search? here.code = none :=
  Option.eq_none_iff_forall_ne_some.mpr fun _ hf =>
    h ((foundIn_of_search? hf).mem_of_needs (by decide))

theorem parameterNames_of_not_mem (h : '(' ∉ here.code) :
    parameterNames here names = { names } := by
  rw [parameterNames, functionParameters_search?_of_not_mem h]
  rfl

theorem parameterBrackets_of_not_mem (h : '(' ∉ here.code) : parameterBrackets here = [] := by
  rw [parameterBrackets, functionParameters_search?_of_not_mem h]
  rfl

theorem bareNames_of_someType (h : someType.occursIn here.code = true) :
    bareNames here names = { names } := by
  unfold bareNames
  split
  · rfl
  · simp [h]

theorem laterUses_of_missing (h : names.missing = []) : laterUses here names = [] := by
  rw [laterUses, h]
  rfl

end Check

-- ---------------------------------------------------------------------------
-- The line
-- ---------------------------------------------------------------------------

/-- The line `uint256 n;` for a name `n`. -/
def Line.declaring (name : List Char) : Line := "uint256".toList ++ ' ' :: (name ++ [';'])

namespace Line

variable {name : List Char}

theorem mem_declaring (hn : isName name = true) :
    ∀ c ∈ declaring name, continuesName c = true ∨ c = ' ' ∨ c = ';' := by
  have htype : ("uint256".toList.all continuesName) = true := by decide
  intro c hc
  rcases List.mem_append.mp hc with hc | hc
  · exact .inl (List.all_eq_true.mp htype c hc)
  · rcases List.mem_cons.mp hc with hc | hc
    · exact .inr (.inl hc)
    · rcases List.mem_append.mp hc with hc | hc
      · exact .inl (continuesName_of_isName hn c hc)
      · exact .inr (.inr (List.mem_singleton.mp hc))

theorem not_mem_declaring {c : Char} (hn : isName name = true) (hc : continuesName c = false)
    (hblank : c ≠ ' ') (hend : c ≠ ';') : c ∉ declaring name := by
  intro hm
  rcases mem_declaring hn c hm with h | h | h
  · exact Bool.false_ne_true (hc.symm.trans h)
  · exact hblank h
  · exact hend h

theorem code_declaring (hn : isName name = true) : (declaring name).code = declaring name := by
  have hslash : '/' ∉ declaring name := not_mem_declaring hn (by decide) (by decide) (by decide)
  have hcode := code_append_of_not_mem hslash []
  rwa [List.append_nil, code, List.append_nil] at hcode

end Line

namespace Check

variable {name other : List Char}

theorem isElementaryType_uint256 : IsElementaryType "uint256".toList :=
  .inr ⟨"uint", by decide, "256".toList, rfl, List.all_eq_true.mp (by decide)⟩

theorem declaring_eq (name : List Char) :
    Line.declaring name = [] ++ ("uint256".toList ++ []) ++ ([' '] ++ (name ++ [';'])) := by
  rw [List.append_nil, List.nil_append]
  rfl

theorem isSizes_nil : IsSizes [] := ⟨[], rfl, List.forall_mem_nil _⟩

theorem someType_declaring (name : List Char) : someType.occursIn (Line.declaring name) = true := by
  rw [declaring_eq]
  exact someType_occursIn (List.forall_mem_nil _) isElementaryType_uint256 isSizes_nil rfl

theorem sameLetters_of_functionWord (hn : isName name = true)
    (h : functionWord.occursIn (Line.declaring name) = true) :
    SameLetters name "function".toList := by
  obtain ⟨word, front, back, hletters, hword⟩ := functionWord_occursIn_iff.mp h
  have hlength : word.length = 8 := List.Forall₂.length_eq hletters
  have hne : word ≠ [] := List.ne_nil_of_length_pos (by omega)
  have hblank : ' ' ∉ word := hletters.not_mem (by decide +kernel)
  have hend : ';' ∉ word := hletters.not_mem (by decide +kernel)
  have hwords : ∀ c ∈ name, isWordChar c = true :=
    fun c hc => isWordChar_of_continuesName (continuesName_of_isName hn c hc)
  rcases hword.of_append (by decide) hne hblank with ⟨_, _, htype⟩ | ⟨_, _, hrest⟩
  · have hsame := htype.eq_text hne (List.all_eq_true.mp (by decide))
    rw [hsame] at hlength
    cases hlength
  · rcases hrest.of_append (by decide) hne hend with ⟨_, _, hname⟩ | ⟨_, _, hnil⟩
    · rwa [← hname.eq_text hne hwords]
    · exact absurd (hnil.eq_text hne (List.forall_mem_nil _)) hne

/-- There is only one blank on such a line, so no data location between blanks. -/
theorem locatedNames_declaring (hn : isName name = true) :
    locatedNames (Line.declaring name) = [] := by
  refine List.eq_nil_iff_forall_not_mem.mpr fun other ho => ?_
  obtain ⟨front, before, location, behind, back, htext, hbefore, -, hbehind, -⟩ :=
    exists_standsLocated ho
  have hname : name.countP isBlank = 0 :=
    List.countP_eq_zero.mpr fun c hc => by
      simp [isBlank_of_continuesName (continuesName_of_isName hn c hc)]
  have hone : (Line.declaring name).countP isBlank = 1 := by
    unfold Line.declaring
    rw [List.countP_append, List.countP_cons, List.countP_append, hname]
    decide +kernel
  have hpositive (gap : List Char) (h : gap ≠ [] ∧ ∀ c ∈ gap, isBlank c = true) :
      0 < gap.countP isBlank := by
    rw [List.countP_eq_length.mpr h.2]
    exact List.length_pos_iff.mpr h.1
  rw [htext] at hone
  simp only [List.countP_append] at hone
  have h₁ := hpositive before hbefore
  have h₂ := hpositive behind hbehind
  omega

theorem mem_elementaryDeclarations_declaring (hn : isName name = true) :
    other ∈ elementaryDeclarations (Line.declaring name) ↔
      other = name ∧ isKeywordOf modifiers name = false := by
  have hmask : Line.maskMappings (Line.declaring name) = Line.declaring name := by
    have hopening : '(' ∉ "uint256".toList ++ ' ' :: name := by
      have hnone : '(' ∉ Line.declaring name :=
        Line.not_mem_declaring hn (by decide) (by decide) (by decide)
      refine fun hm => hnone ?_
      unfold Line.declaring
      rw [← List.cons_append, ← List.append_assoc]
      exact List.mem_append_left _ hm
    have hends : Line.endsMapping ';' = true := by decide
    unfold Line.declaring
    rw [← List.cons_append, ← List.append_assoc, Line.maskMappings,
      Line.maskFrom_append hopening hends]
    rfl
  rw [elementaryDeclarations, hmask, declaring_eq,
    tokens_behind_type (List.forall_mem_nil _) isElementaryType_uint256 isSizes_nil rfl,
    mem_namesBehindType_iff, standsFree_blank_append (List.all_eq_true.mp (by decide)),
    standsFree_name_semicolon hn]

/-- Such a line declares the name, unless it is a modifier or the line has the word `function`. -/
theorem mem_typedNames_declaring (hn : isName name = true) :
    other ∈ typedNames (Line.declaring name) ↔
      other = name ∧ isKeywordOf modifiers name = false ∧
        functionWord.occursIn (Line.declaring name) = false := by
  have huser : userTypedDeclaration.match? (Line.declaring name) = none := by
    rw [declaring_eq, List.append_assoc, List.append_assoc]
    exact userTypedDeclaration_match? (List.forall_mem_nil _) isElementaryType_uint256
  have hlocated : groupTexts 1 (Line.declaring name)
      (locatedDeclaration.findAll (Line.declaring name)) = [] := locatedNames_declaring hn
  unfold typedNames
  rw [hlocated, huser, someType_declaring, if_pos rfl]
  split
  · rename_i hf
    simp [hf]
  · rename_i hf
    simp [groupTexts, mem_elementaryDeclarations_declaring hn, hf]

end Check

theorem rulesOutcome_silent {scope : Scope} {here : Context} {rules : List Rule} {names : Names}
    (h : ∀ rule ∈ rules, rule.outcome scope names here = { names }) :
    rulesOutcome scope here rules names = { names } := by
  induction rules with
  | nil => rfl
  | cons rule rules ih =>
    obtain ⟨hrule, hrules⟩ := List.forall_mem_cons.mp h
    rw [rulesOutcome, hrule]
    dsimp only
    rw [ih hrules]
    rfl

theorem typeOutcome_declaring {name : List Char} (hn : isName name = true) :
    typeOutcome (Line.declaring name) {} =
      { names := (Check.typedNames (Line.declaring name)).foldl Names.declare {} } := by
  generalize hhere : (⟨[], Line.declaring name, []⟩ : Context) = here
  have hcode : here.code = Line.declaring name := hhere ▸ Line.code_declaring hn
  generalize hnames : (Check.typedNames (Line.declaring name)).foldl Names.declare {} = names
  have hmissing : names.missing = [] := hnames ▸ Names.foldl_declare_missing
  have hequals : '=' ∉ here.code :=
    hcode ▸ Line.not_mem_declaring hn (by decide) (by decide) (by decide)
  have hbracket : '[' ∉ here.code :=
    hcode ▸ Line.not_mem_declaring hn (by decide) (by decide) (by decide)
  have hopening : '(' ∉ here.code :=
    hcode ▸ Line.not_mem_declaring hn (by decide) (by decide) (by decide)
  have hfirst : LineCheck.typedDeclarations.rule.outcome ⟨false, none⟩ {} here = { names } := by
    rw [← hnames, ← hcode]
    rfl
  have hlater : rulesOutcome ⟨false, none⟩ here (LineCheck.forTypes.tail.map LineCheck.rule) names =
      { names } := by
    refine rulesOutcome_silent fun rule hr => ?_
    obtain ⟨check, hc, rfl⟩ := List.mem_map.mp hr
    simp only [LineCheck.forTypes, List.tail_cons, List.mem_cons, List.not_mem_nil, or_false] at hc
    rcases hc with rfl | rfl | rfl | rfl | rfl | rfl | rfl
    · exact Check.assignedNames_of_not_mem hequals
    · exact congrArg (Outcome.mk · names) (Check.bracketDeclarations_of_not_mem hbracket)
    · exact Check.tupleNames_of_not_mem hopening
    · exact Check.bareNames_of_someType (hcode ▸ Check.someType_declaring name)
    · exact Check.parameterNames_of_not_mem hopening
    · exact congrArg (Outcome.mk · names) (Check.parameterBrackets_of_not_mem hopening)
    · exact congrArg (Outcome.mk · names) (Check.laterUses_of_missing hmissing)
  have hsplit : typeOutcome (Line.declaring name) {} =
      rulesOutcome ⟨false, none⟩ here (LineCheck.typedDeclarations.rule ::
        LineCheck.forTypes.tail.map LineCheck.rule) {} := hhere ▸ rfl
  rw [hsplit, rulesOutcome, hfirst]
  dsimp only
  rw [hlater]
  rfl

end SolidityLint
