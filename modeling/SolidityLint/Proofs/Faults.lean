import SolidityLint.Proofs.Cap
import SolidityLint.Proofs.Checks
import SolidityLint.Proofs.Line

/-!
# When there is no analysis

An analysis is refused for a cap that is infinite, for a naming pattern that does not fit on the
stack and for one with a fault other than being malformed, and for nothing else
(`analyzeUpTo_refused_exactly`). A cap that is no number keeps
nothing, and a malformed pattern is as good as none: nothing is found that would go by it.
-/

namespace SolidityLint

-- ---------------------------------------------------------------------------
-- Patterns
-- ---------------------------------------------------------------------------

/-- The fault for which a pattern is refused. An empty pattern is not read, and a malformed one is
ignored. -/
def refusal? (fits : List Char → Bool) (pattern : String) : Option PatternFault :=
  if pattern.isEmpty then none
  else if fits pattern.toList then
    match Expression.parse pattern.toList with
    | .ok _ | .error .malformed => none
    | .error fault => some fault
  else some .tooDeep

section
variable {fits : List Char → Bool} {pattern : String}

theorem namingPattern?_eq_error_iff {fault : PatternFault} :
    namingPattern? fits pattern = .error fault ↔ refusal? fits pattern = some fault := by
  unfold namingPattern? refusal? Expression.read
  cases pattern.isEmpty with
  | true => simp
  | false =>
    cases fits pattern.toList with
    | false => simp
    | true =>
      cases hr : Expression.parse pattern.toList with
      | ok expression => simp
      | error other => cases other <;> simp

theorem exists_namingPattern?_iff :
    (∃ read, namingPattern? fits pattern = .ok read) ↔ refusal? fits pattern = none := by
  constructor
  · rintro ⟨read, hr⟩
    cases h : refusal? fits pattern with
    | none => rfl
    | some fault =>
      rw [namingPattern?_eq_error_iff.mpr h] at hr
      cases hr
  · intro h
    cases hp : namingPattern? fits pattern with
    | ok read => exact ⟨read, rfl⟩
    | error fault =>
      rw [namingPattern?_eq_error_iff.mp hp] at h
      cases h

theorem Expression.parse_of_read {text : List Char} {expression : Expression}
    (h : Expression.read fits text = .ok expression) : Expression.parse text = .ok expression := by
  unfold Expression.read at h
  split at h
  · exact h
  · cases h

theorem read_of_namingPattern? {expression : Expression}
    (h : namingPattern? fits pattern = .ok (some expression)) :
    pattern ≠ "" ∧ Expression.read fits pattern.toList = .ok expression := by
  unfold namingPattern? at h
  split at h
  · cases h
  · rename_i hne
    refine ⟨by simpa [String.isEmpty_iff] using hne, ?_⟩
    split at h
    · rename_i read hr
      cases h
      exact hr
    · cases h
    · cases h

end

namespace Naming

variable {fits : List Char → Bool} {naming : Naming} {patterns : NamePatterns}

def texts (naming : Naming) : List String :=
  [naming.functionPattern, naming.variablePattern, naming.constantPattern, naming.contractPattern]

theorem patterns_eq_error_iff {fault : PatternFault} :
    naming.patterns fits = .error fault ↔
      naming.texts.findSome? (refusal? fits) = some fault := by
  have hpure : ∀ patterns : NamePatterns,
      (pure patterns : Except PatternFault NamePatterns) ≠ .error fault := fun _ h => nomatch h
  simp only [Naming.patterns, bind_error, hpure, and_false, exists_false, or_false,
    exists_and_right, namingPattern?_eq_error_iff, exists_namingPattern?_iff, texts,
    List.findSome?_cons, List.findSome?_nil]
  cases refusal? fits naming.functionPattern with
  | some fault => simp
  | none =>
    cases refusal? fits naming.variablePattern with
    | some fault => simp
    | none =>
      cases refusal? fits naming.constantPattern with
      | some fault => simp
      | none => cases refusal? fits naming.contractPattern <;> simp

theorem patterns_ok (h : naming.patterns fits = .ok patterns) :
    namingPattern? fits naming.functionPattern = .ok patterns.functionNames ∧
      namingPattern? fits naming.variablePattern = .ok patterns.variableNames ∧
      namingPattern? fits naming.constantPattern = .ok patterns.constantNames ∧
      namingPattern? fits naming.contractPattern = .ok patterns.contractNames := by
  simp only [Naming.patterns, bind_ok] at h
  obtain ⟨functionNames, hf, variableNames, hv, constantNames, hc, contractNames, hk, h⟩ := h
  cases h
  exact ⟨hf, hv, hc, hk⟩

def keepReadable (fits : List Char → Bool) (pattern : String) : String :=
  if Expression.read fits pattern.toList = .error .malformed then "" else pattern

theorem namingPattern?_keepReadable (pattern : String) :
    namingPattern? fits (keepReadable fits pattern) = namingPattern? fits pattern := by
  unfold keepReadable
  split
  · rename_i h
    have hnone : namingPattern? fits pattern = .ok none := by
      unfold namingPattern?
      rw [h]
      split <;> rfl
    rw [hnone]
    rfl
  · rfl

def readable (fits : List Char → Bool) (naming : Naming) : Naming where
  functionPattern := keepReadable fits naming.functionPattern
  variablePattern := keepReadable fits naming.variablePattern
  constantPattern := keepReadable fits naming.constantPattern
  contractPattern := keepReadable fits naming.contractPattern

theorem patterns_readable (fits : List Char → Bool) (naming : Naming) :
    (naming.readable fits).patterns fits = naming.patterns fits := by
  simp only [Naming.patterns, readable, namingPattern?_keepReadable]

end Naming

-- ---------------------------------------------------------------------------
-- Caps
-- ---------------------------------------------------------------------------

def Value.spellsInteger : Value → Bool
  | .bool _ | .int _ => true
  | .real value => value.isFinite
  | .text value => (Text.integer? value.toList).isSome
  | .null | .list _ | .object _ => false

theorem capOf?_of_not_spellsInteger {cap : Value} {n : Int} (hc : capOf? cap = some n)
    (h : cap.spellsInteger = false) : n = 0 := by
  cases cap with
  | null | list _ | object _ => exact (Option.some.inj hc).symm
  | bool _ | int _ => cases h
  | real value =>
    cases value with
    | finite _ _ _ => cases h
    | infinite _ => cases hc
    | nan => exact (Option.some.inj hc).symm
  | text value =>
    have hnone : Text.integer? value.toList = none := by simpa [Value.spellsInteger] using h
    simpa [capOf?, hnone] using hc.symm

/-- What is wrong with a cap and naming patterns: the cap counts first. -/
def analysisFault? (cap : Value) (naming : Option Naming) (fits : List Char → Bool) :
    Option AnalysisFault :=
  match cap with
  | .real (.infinite _) => some .infiniteCap
  | _ => (naming.bind (·.texts.findSome? (refusal? fits))).map .pattern

section
variable {fits : List Char → Bool}

theorem mapM_patterns_some (naming : Naming) :
    (some naming).mapM (Naming.patterns fits) = (naming.patterns fits).map some := by
  rw [Option.mapM_some]
  rfl

theorem mapM_patterns_eq_error_iff {naming : Option Naming} {fault : PatternFault} :
    naming.mapM (Naming.patterns fits) = .error fault ↔
      naming.bind (·.texts.findSome? (refusal? fits)) = some fault := by
  cases naming with
  | none => exact ⟨fun h => (nomatch h), fun h => (nomatch h)⟩
  | some naming =>
    rw [Option.bind_some, ← Naming.patterns_eq_error_iff, mapM_patterns_some]
    cases naming.patterns fits <;> simp [Except.map]

theorem mapM_patterns_readable (naming : Option Naming) :
    (naming.map (Naming.readable fits)).mapM (Naming.patterns fits) =
      naming.mapM (Naming.patterns fits) := by
  cases naming with
  | none => rfl
  | some naming =>
    rw [Option.map_some, mapM_patterns_some, mapM_patterns_some, naming.patterns_readable]

end

theorem capOf?_eq_none_iff {cap : Value} :
    capOf? cap = none ↔ ∃ negative, cap = .real (.infinite negative) := by
  constructor
  · intro h
    cases cap with
    | real value =>
      cases value with
      | infinite negative => exact ⟨negative, rfl⟩
      | finite _ _ _ | nan => cases h
    | _ => cases h
  · rintro ⟨negative, rfl⟩
    rfl

theorem analysisFault?_of_capOf? {cap : Value} {n : Int} (h : capOf? cap = some n)
    (naming : Option Naming) (fits : List Char → Bool) :
    analysisFault? cap naming fits =
      (naming.bind (·.texts.findSome? (refusal? fits))).map .pattern := by
  unfold analysisFault?
  split
  · cases h
  · rfl

theorem analyzeUpTo_eq_error_iff {cap : Value} {text : List Char} {options : Options}
    {fault : AnalysisFault} :
    analyzeUpTo cap lineRules text options = .error fault ↔
      analysisFault? cap options.naming options.fits = some fault := by
  cases hc : capOf? cap with
  | none =>
    obtain ⟨negative, rfl⟩ := capOf?_eq_none_iff.mp hc
    simp [analyzeUpTo, hc, analysisFault?]
  | some n =>
    rw [analysisFault?_of_capOf? hc, Option.map_eq_some_iff]
    simp only [analyzeUpTo, hc, analyzeWith_eq, Options.patterns, ← mapM_patterns_eq_error_iff]
    cases options.naming.mapM (Naming.patterns options.fits) <;> simp [Except.map]

-- ---------------------------------------------------------------------------
-- Findings on names
-- ---------------------------------------------------------------------------

/-- Findings that are neither about braces nor about a syntax tree are marks of a check. -/
theorem Options.exists_mark_of_mem_allFindings {options : Options} {text : List Char}
    {patterns : Option NamePatterns} {finding : Finding}
    (h : finding ∈ options.allFindings lineRules text patterns)
    (hreturn : finding.code ≠ .missingReturn) (hbraces : finding.code ≠ .missingBraces) :
    ∃ (k : Nat) (here : Context) (check : LineCheck) (known : Names) (mark : Mark),
      (Context.each (splitLines text))[k]? = some here ∧
        options.rules.enabled check.switch = true ∧
        mark ∈ (check.rule.outcome ⟨(Document.ofText text).movesValue, patterns⟩ known here).marks ∧
        finding = (mark.report k).finding := by
  obtain ⟨report, hr, rfl⟩ := List.mem_map.mp h
  rcases List.mem_append.mp (firstOfEach_sublist.subset hr) with hr | hr
  · exfalso
    rcases List.mem_append.mp hr with hr | hr
    · unfold Session.treeReports at hr
      split at hr
      · split at hr
        · exact hreturn (Check.returnReports_code hr)
        · cases hr
      · cases hr
    · unfold Session.braceReports at hr
      split at hr
      · exact hbraces (Check.braceReports_code hr)
      · cases hr
  · obtain ⟨k, here, hk, rule, hrule, known, mark, hm, rfl⟩ :=
      exists_mark_of_mem_linesReports hr
    obtain ⟨hrule, hon⟩ := List.mem_filter.mp hrule
    obtain ⟨check, -, rfl⟩ := List.mem_map.mp hrule
    refine ⟨k, here, check, known, mark, hk, hon, hm, ?_⟩
    rw [Nat.zero_add]

def Naming.textFor? (naming : Naming) (lines : List Line) (finding : Finding) : Option String :=
  match finding.code with
  | .functionNaming => some naming.functionPattern
  | .contractNaming => some naming.contractPattern
  | .variableNaming => lines[finding.range.start.line.toNat]?.map fun line =>
    if Check.constantWord.occursIn line.trimmedCode then naming.constantPattern
    else naming.variablePattern
  | _ => none

section
variable {scope : Scope} {names : Names} {here : Context} {mark : Mark}

theorem LineCheck.exists_judge_of_mem {check : LineCheck}
    (h : mark ∈ (check.rule.outcome scope names here).marks) :
    ∃ outcome, check.judge scope names here = .ok outcome ∧ mark ∈ outcome.marks := by
  simp only [Rule.outcome, rule] at h
  split at h
  · rename_i outcome ho
    exact ⟨outcome, ho, h⟩
  · cases h

theorem LineCheck.exists_functionNames
    (h : mark ∈ (functionNaming.rule.outcome scope names here).marks) :
    ∃ pattern, scope.naming.bind (·.functionNames) = some pattern := by
  obtain ⟨outcome, hj, hm⟩ := exists_judge_of_mem h
  rcases (functionNaming_ok hj).2 with he | ⟨pattern, hp, -⟩
  · rw [he] at hm
    cases hm
  · exact ⟨pattern, hp⟩

theorem LineCheck.exists_contractNames
    (h : mark ∈ (contractNaming.rule.outcome scope names here).marks) :
    ∃ pattern, scope.naming.bind (·.contractNames) = some pattern := by
  obtain ⟨outcome, hj, hm⟩ := exists_judge_of_mem h
  rcases (contractNaming_ok hj).2 with he | ⟨pattern, hp, -⟩
  · rw [he] at hm
    cases hm
  · exact ⟨pattern, hp⟩

theorem Check.exists_variablePattern? {patterns : NamePatterns} {marks : List Mark}
    (hm : variableNaming patterns here = .ok marks) (h : mark ∈ marks) :
    ∃ pattern, variablePattern? patterns here.trimmedCode = some pattern := by
  unfold variableNaming at hm
  split at hm
  · split at hm
    · cases hm
      cases h
    · rename_i pattern hp
      exact ⟨pattern, hp⟩
  · cases hm
    cases h

theorem LineCheck.exists_variableNames
    (h : mark ∈ (variableNaming.rule.outcome scope names here).marks) :
    ∃ pattern, scope.naming.bind (Check.variablePattern? · here.trimmedCode) = some pattern := by
  obtain ⟨outcome, hj, hm⟩ := exists_judge_of_mem h
  rcases (variableNaming_ok hj).2 with he | ⟨patterns, hp, hmarks⟩
  · rw [he] at hm
    cases hm
  · rw [hp]
    exact Check.exists_variablePattern? hmarks hm

end

theorem Options.exists_read_of_mem_allFindings {options : Options} {text : List Char}
    {fits : List Char → Bool} {naming : Naming} {patterns : NamePatterns} {finding : Finding}
    {pattern : String} (hp : naming.patterns fits = .ok patterns)
    (h : finding ∈ options.allFindings lineRules text (some patterns))
    (hf : naming.textFor? (splitLines text) finding = some pattern) :
    ∃ expression, namingPattern? fits pattern = .ok (some expression) := by
  obtain ⟨hfunction, hvariable, hconstant, hcontract⟩ := Naming.patterns_ok hp
  have hreturn : finding.code ≠ .missingReturn := by
    intro hc
    simp [Naming.textFor?, hc] at hf
  have hbraces : finding.code ≠ .missingBraces := by
    intro hc
    simp [Naming.textFor?, hc] at hf
  obtain ⟨k, here, check, known, mark, hk, -, hm, rfl⟩ :=
    exists_mark_of_mem_allFindings h hreturn hbraces
  have hcode : (mark.report k).finding.code = check.code := check.outcome_code _ known here mark hm
  unfold Naming.textFor? at hf
  rw [hcode] at hf
  cases check with
  | functionNaming =>
    obtain ⟨expression, he⟩ := LineCheck.exists_functionNames hm
    cases hf
    exact ⟨expression, hfunction.trans (congrArg Except.ok he)⟩
  | contractNaming =>
    obtain ⟨expression, he⟩ := LineCheck.exists_contractNames hm
    cases hf
    exact ⟨expression, hcontract.trans (congrArg Except.ok he)⟩
  | variableNaming =>
    obtain ⟨expression, he⟩ := LineCheck.exists_variableNames hm
    rw [Context.each_getElem?] at hk
    obtain ⟨line, hline, rfl⟩ := Option.map_eq_some_iff.mp hk
    replace hf : (splitLines text)[k]?.map _ = some pattern := hf
    rw [hline, Option.map_some, Option.some.injEq] at hf
    replace he : (if Check.constantWord.occursIn line.trimmedCode then patterns.constantNames
      else patterns.variableNames) = some expression := he
    by_cases hw : Check.constantWord.occursIn line.trimmedCode = true
    · rw [if_pos hw] at hf he
      subst hf
      exact ⟨expression, hconstant.trans (congrArg Except.ok he)⟩
    · rw [if_neg hw] at hf he
      subst hf
      exact ⟨expression, hvariable.trans (congrArg Except.ok he)⟩
  | _ => cases hf

/-- Only an infinite cap, a pattern that does not fit on the stack and one with a fault that is not
ignored stop an analysis, and the first of them is given back. All else is answered with findings,
none for a cap that is no number and none by a pattern that was not read; malformed patterns could
as well be left out. -/
theorem analyzeUpTo_refused_exactly (cap : Value) (text : List Char) (options : Options) :
    (∀ fault, analyzeUpTo cap lineRules text options = .error fault ↔
      analysisFault? cap options.naming options.fits = some fault) ∧
    (analysisFault? cap options.naming options.fits = none →
      ∃ found, analyzeUpTo cap lineRules text options = .ok found ∧
        (cap.spellsInteger = false → found = []) ∧
        ∀ naming ∈ options.naming, ∀ finding ∈ found,
          ∀ pattern ∈ naming.textFor? (splitLines text) finding,
            pattern ≠ "" ∧ ∃ expression,
              Expression.read options.fits pattern.toList = .ok expression) ∧
    analyzeUpTo cap lineRules text
        { options with naming := options.naming.map (Naming.readable options.fits) } =
      analyzeUpTo cap lineRules text options := by
  refine ⟨fun fault => analyzeUpTo_eq_error_iff, fun hnone => ?_, ?_⟩
  · cases ha : analyzeUpTo cap lineRules text options with
    | error fault =>
      rw [analyzeUpTo_eq_error_iff.mp ha] at hnone
      cases hnone
    | ok found =>
      obtain ⟨n, patterns, hc, hp, rfl⟩ := analyzeUpTo_ok ha
      refine ⟨_, rfl, fun hs => ?_, ?_⟩
      · rw [capOf?_of_not_spellsInteger hc hs]
        rfl
      · intro naming hn finding hf pattern hpattern
        rw [Options.patterns, Option.mem_def.mp hn, mapM_patterns_some] at hp
        cases hr : naming.patterns options.fits with
        | error fault =>
          rw [hr] at hp
          cases hp
        | ok read =>
          rw [hr] at hp
          cases hp
          obtain ⟨expression, he⟩ :=
            options.exists_read_of_mem_allFindings hr (List.mem_of_mem_take hf) hpattern
          exact ⟨(read_of_namingPattern? he).1, expression, (read_of_namingPattern? he).2⟩
  · refine analyzeUpTo_congr (fun cap => ?_) cap
    rw [analyzeWith_eq, analyzeWith_eq]
    exact congrArg (Except.map _) (mapM_patterns_readable options.naming)

/-- Neither a repeat that is never reached nor an infinite cap is answered with findings. -/
theorem analyzeUpTo_refuses_count_and_cap :
    let text := "require(tx.origin == owner);".toList
    let naming : Naming := { functionPattern := "a\x7b4294967295\x7d" }
    let rules : Rules := .only [.txOrigin, .functionNaming]
    analyzeUpTo (.int 100) lineRules text { rules, naming := some naming } =
        .error (.pattern .countTooLarge) ∧
      analyzeUpTo (.real (.infinite false)) lineRules text { rules } = .error .infiniteCap := by
  intro text naming rules
  have hcount : analysisFault? (.int 100) (some naming) fitsUsually =
      some (.pattern .countTooLarge) := by
    decide +kernel
  exact ⟨analyzeUpTo_eq_error_iff.mpr hcount, analyzeUpTo_eq_error_iff.mpr rfl⟩

/-- A malformed pattern for functions leaves the contract to be found by its own pattern. -/
theorem analyzeUpTo_refused_exactly_by_contract_pattern :
    let text := "contract c \x7b\nfunction F(".toList
    let naming : Naming := { functionPattern := "(", contractPattern := "^[A-Z]" }
    let options : Options :=
      { rules := .only [.functionNaming, .contractNaming], naming := some naming }
    analysisFault? (.int 5) options.naming options.fits = none ∧
      ∃ found, analyzeUpTo (.int 5) lineRules text options = .ok found ∧
        found.map Finding.code = [.contractNaming] ∧
        ∀ finding ∈ found, ∀ pattern ∈ naming.textFor? (splitLines text) finding,
          pattern ≠ "" ∧ ∃ expression,
            Expression.read options.fits pattern.toList = .ok expression := by
  intro text naming options
  have hnone : analysisFault? (.int 5) options.naming options.fits = none := by decide +kernel
  have hcodes : (analyzeUpTo (.int 5) lineRules text options).toOption.map (·.map Finding.code) =
      some [.contractNaming] := by decide +kernel
  obtain ⟨found, hf, -, hread⟩ := (analyzeUpTo_refused_exactly (.int 5) text options).2.1 hnone
  rw [hf] at hcodes
  exact ⟨hnone, found, hf, Option.some.inj hcodes, hread naming rfl⟩

end SolidityLint
