import SolidityLint.Proofs.Reports

/-!
# What checks may do

Each check marks with one code, which is the one that its switch asks for (`judge_code`). Only the
checks for missing data types look at names or change them (`judge_eq_map`).
-/

namespace SolidityLint

-- ---------------------------------------------------------------------------
-- Codes of marks
-- ---------------------------------------------------------------------------

namespace Check

variable {here : Context} {names : Names} {mark : Mark} {marks : List Mark}

theorem missingNames_code {found : List (Span × List Char)}
    (h : mark ∈ (missingNames found names).marks) : mark.code = .missingDataType := by
  obtain ⟨place, -, rfl⟩ := List.mem_map.mp h
  rfl

theorem lowLevelCallValue_code (h : mark ∈ lowLevelCallValue here) :
    mark.code = .lowLevelCallValue := by
  unfold lowLevelCallValue at h
  split at h
  · rcases List.mem_singleton.mp h with rfl
    rfl
  · obtain ⟨found, -, rfl⟩ := List.mem_map.mp h
    rfl

theorem wrongKeywords_code (h : mark ∈ wrongKeywords here) : mark.code = .wrongKeyword := by
  obtain ⟨⟨pattern, message⟩, -, h⟩ := List.mem_filterMap.mp h
  obtain ⟨span, -, rfl⟩ := Option.map_eq_some_iff.mp h
  rfl

theorem tupleNames_code (h : mark ∈ (tupleNames here names).marks) :
    mark.code = .missingDataType := by
  unfold tupleNames at h
  split at h
  · cases h
  · exact missingNames_code h

theorem bareNames_code (h : mark ∈ (bareNames here names).marks) :
    mark.code = .missingDataType := by
  unfold bareNames at h
  split at h
  · cases h
  · simp only at h
    split at h
    · cases h
    · exact missingNames_code h

theorem parameterNames_code (h : mark ∈ (parameterNames here names).marks) :
    mark.code = .missingDataType := by
  unfold parameterNames at h
  split at h
  · cases h
  · obtain ⟨parameter, -, rfl⟩ := List.mem_map.mp h
    rfl

theorem parameterBrackets_code (h : mark ∈ parameterBrackets here) :
    mark.code = .missingDataType := by
  unfold parameterBrackets at h
  split at h
  · cases h
  · obtain ⟨span, -, rfl⟩ := List.mem_map.mp h
    rfl

theorem laterUses_code (h : mark ∈ laterUses here names) : mark.code = .missingDataType := by
  obtain ⟨name, -, h⟩ := List.mem_filterMap.mp h
  obtain ⟨found, -, rfl⟩ := Option.map_eq_some_iff.mp h
  rfl

theorem missingPayable_code (h : mark ∈ missingPayable here) : mark.code = .missingPayable := by
  unfold missingPayable at h
  split at h
  · cases h
  · split at h
    · cases h
    · rcases List.mem_singleton.mp h with rfl
      rfl

/-- A mark on the last character of the code, where there is code. -/
def MarksSemicolon (here : Context) (mark : Mark) : Prop :=
  here.trimmedCode ≠ [] ∧ ∃ message, mark = semicolonMark here message

theorem openDeclaration_marks (h : mark ∈ openDeclaration here) : MarksSemicolon here mark := by
  unfold openDeclaration at h
  simp only at h
  split at h
  · rename_i hc
    refine ⟨fun he => ?_, _, List.mem_singleton.mp h⟩
    simp [he, leavesNameOpen, Line.maskMappings, Line.maskFrom, Text.words, Text.tokens,
      Text.tokensFrom] at hc
  · cases h

theorem openStatement_marks (h : mark ∈ openStatement here) : MarksSemicolon here mark := by
  unfold openStatement at h
  simp only at h
  split at h
  · rename_i hc
    refine ⟨fun he => ?_, _, List.mem_singleton.mp h⟩
    simp [he] at hc
  · cases h

theorem openLastLine_marks (h : mark ∈ openLastLine here) : MarksSemicolon here mark := by
  unfold openLastLine at h
  split at h
  · rename_i hc
    refine ⟨fun he => ?_, _, List.mem_singleton.mp h⟩
    simp [he, Line.endsWithAny] at hc
  · cases h

theorem loneName_marks (h : mark ∈ loneName here) : MarksSemicolon here mark := by
  unfold loneName at h
  split at h
  · rename_i hc
    refine ⟨fun he => ?_, _, List.mem_singleton.mp h⟩
    simp [he, Text.isName] at hc
  · cases h

theorem MarksSemicolon.code (h : MarksSemicolon here mark) : mark.code = .missingSemicolon := by
  obtain ⟨-, message, rfl⟩ := h
  rfl

theorem missingParentheses_code (h : mark ∈ missingParentheses here) :
    mark.code = .missingParentheses := by
  unfold missingParentheses at h
  simp only at h
  split at h
  · rcases List.mem_singleton.mp h with rfl
    rfl
  · cases h

/-- What is said of the name in a segment: it does not start like a name, something follows it, it
does not fit the pattern, or nothing. -/
theorem nameMarks_ok {offset : Nat} {segment : List Char} {pattern : Expression} {code : Code}
    {label : String} (h : nameMarks offset segment pattern code label = .ok marks) :
    let text := Text.trimStart segment
    let name := Text.leadingName text
    let first := offset + (segment.length - text.length)
    (name = [] ∧ marks = [⟨⟨first, first + 1⟩, "Invalid " ++ label ++ " identifier.", code⟩]) ∨
    (name ≠ [] ∧ Text.trim (text.drop name.length) ≠ [] ∧
      marks = [⟨⟨first, first + name.length⟩, "Invalid " ++ label ++ " identifier.", code⟩]) ∨
    (name ≠ [] ∧ Text.trim (text.drop name.length) = [] ∧
      (∃ found, pattern.search name = .ok (some found)) ∧ marks = []) ∨
    (name ≠ [] ∧ Text.trim (text.drop name.length) = [] ∧ pattern.search name = .ok none ∧
      marks = [⟨⟨first, first + name.length⟩,
        "Invalid " ++ label ++ " identifier '" ++ String.ofList name ++ "'.", code⟩]) := by
  intro text name first
  simp only [nameMarks] at h
  split at h
  · rename_i hn
    exact .inl ⟨hn, by cases h; rfl⟩
  · rename_i hn
    replace hn : name ≠ [] := hn
    split at h
    · rename_i ht
      exact .inr (.inl ⟨hn, by simpa using ht, by cases h; rfl⟩)
    · rename_i ht
      replace ht : Text.trim (text.drop name.length) = [] := by simpa using ht
      split at h
      · cases h
      · rename_i found hs
        exact .inr (.inr (.inl ⟨hn, ht, ⟨found, hs⟩, by cases h; rfl⟩))
      · rename_i hs
        exact .inr (.inr (.inr ⟨hn, ht, hs, by cases h; rfl⟩))

theorem nameMarks_code {offset : Nat} {segment : List Char} {pattern : Expression} {code : Code}
    {label : String} (hm : nameMarks offset segment pattern code label = .ok marks)
    (h : mark ∈ marks) : mark.code = code := by
  rcases nameMarks_ok hm with ⟨-, rfl⟩ | ⟨-, -, rfl⟩ | ⟨-, -, -, rfl⟩ | ⟨-, -, -, rfl⟩
  · rcases List.mem_singleton.mp h with rfl
    rfl
  · rcases List.mem_singleton.mp h with rfl
    rfl
  · cases h
  · rcases List.mem_singleton.mp h with rfl
    rfl

theorem functionNaming_code {pattern : Expression}
    (hm : functionNaming pattern here = .ok marks) (h : mark ∈ marks) :
    mark.code = .functionNaming := by
  unfold functionNaming at hm
  split at hm
  · cases hm; cases h
  · exact nameMarks_code hm h

theorem variableNaming_code {patterns : NamePatterns}
    (hm : variableNaming patterns here = .ok marks) (h : mark ∈ marks) :
    mark.code = .variableNaming := by
  unfold variableNaming at hm
  split at hm
  · split at hm
    · cases hm; cases h
    · simp only at hm
      split at hm
      · cases hm; cases h
      · exact nameMarks_code hm h
  · cases hm; cases h

theorem contractNaming_code {pattern : Expression}
    (hm : contractNaming pattern here = .ok marks) (h : mark ∈ marks) :
    mark.code = .contractNaming := by
  unfold contractNaming at hm
  split at hm
  · cases hm; cases h
  · exact nameMarks_code hm h

end Check

namespace LineCheck

def code : LineCheck → Code
  | .txOrigin => .txOrigin
  | .selfdestruct => .selfdestruct
  | .delegatecall => .delegatecall
  | .lowLevelCallValue => .lowLevelCallValue
  | .openDeclaration | .openStatement | .openLastLine | .loneName => .missingSemicolon
  | .missingParentheses => .missingParentheses
  | .wrongKeywords => .wrongKeyword
  | .typedDeclarations | .assignedNames | .bracketDeclarations | .tupleNames
  | .bareNames | .parameterNames | .parameterBrackets | .laterUses => .missingDataType
  | .missingPayable => .missingPayable
  | .functionNaming => .functionNaming
  | .variableNaming => .variableNaming
  | .contractNaming => .contractNaming

theorem switch_code (check : LineCheck) : check.code.switch = check.switch := by
  cases check <;> rfl

variable {check : LineCheck} {scope : Scope} {names : Names} {here : Context} {outcome : Outcome}

theorem functionNaming_ok (h : functionNaming.judge scope names here = .ok outcome) :
    outcome.names = names ∧ (outcome.marks = [] ∨
      ∃ pattern, scope.naming.bind (·.functionNames) = some pattern ∧
        Check.functionNaming pattern here = .ok outcome.marks) := by
  simp only [judge] at h
  split at h
  · rename_i pattern hp
    obtain ⟨marks, hmarks, h⟩ := bind_ok.mp h
    cases h
    exact ⟨rfl, .inr ⟨pattern, hp, hmarks⟩⟩
  · cases h
    exact ⟨rfl, .inl rfl⟩

theorem variableNaming_ok (h : variableNaming.judge scope names here = .ok outcome) :
    outcome.names = names ∧ (outcome.marks = [] ∨
      ∃ patterns, scope.naming = some patterns ∧
        Check.variableNaming patterns here = .ok outcome.marks) := by
  simp only [judge] at h
  split at h
  · rename_i patterns hp
    obtain ⟨marks, hmarks, h⟩ := bind_ok.mp h
    cases h
    exact ⟨rfl, .inr ⟨patterns, hp, hmarks⟩⟩
  · cases h
    exact ⟨rfl, .inl rfl⟩

theorem contractNaming_ok (h : contractNaming.judge scope names here = .ok outcome) :
    outcome.names = names ∧ (outcome.marks = [] ∨
      ∃ pattern, scope.naming.bind (·.contractNames) = some pattern ∧
        Check.contractNaming pattern here = .ok outcome.marks) := by
  simp only [judge] at h
  split at h
  · rename_i pattern hp
    obtain ⟨marks, hmarks, h⟩ := bind_ok.mp h
    cases h
    exact ⟨rfl, .inr ⟨pattern, hp, hmarks⟩⟩
  · cases h
    exact ⟨rfl, .inl rfl⟩

theorem judge_code (h : check.judge scope names here = .ok outcome) :
    ∀ mark ∈ outcome.marks, mark.code = check.code := by
  intro mark hm
  cases check with
  | txOrigin | selfdestruct | delegatecall | bracketDeclarations =>
    cases h
    obtain ⟨found, -, rfl⟩ := List.mem_map.mp hm
    rfl
  | openDeclaration => cases h; exact (Check.openDeclaration_marks hm).code
  | openStatement => cases h; exact (Check.openStatement_marks hm).code
  | openLastLine => cases h; exact (Check.openLastLine_marks hm).code
  | loneName => cases h; exact (Check.loneName_marks hm).code
  | missingParentheses => cases h; exact Check.missingParentheses_code hm
  | lowLevelCallValue => cases h; exact Check.lowLevelCallValue_code hm
  | wrongKeywords => cases h; exact Check.wrongKeywords_code hm
  | typedDeclarations => cases h; cases hm
  | assignedNames => cases h; exact Check.missingNames_code hm
  | tupleNames => cases h; exact Check.tupleNames_code hm
  | bareNames => cases h; exact Check.bareNames_code hm
  | parameterNames => cases h; exact Check.parameterNames_code hm
  | parameterBrackets => cases h; exact Check.parameterBrackets_code hm
  | laterUses => cases h; exact Check.laterUses_code hm
  | missingPayable =>
    cases h
    simp only at hm
    split at hm
    · exact Check.missingPayable_code hm
    · cases hm
  | functionNaming =>
    rcases (functionNaming_ok h).2 with he | ⟨pattern, -, hmarks⟩
    · rw [he] at hm
      cases hm
    · exact Check.functionNaming_code hmarks hm
  | variableNaming =>
    rcases (variableNaming_ok h).2 with he | ⟨patterns, -, hmarks⟩
    · rw [he] at hm
      cases hm
    · exact Check.variableNaming_code hmarks hm
  | contractNaming =>
    rcases (contractNaming_ok h).2 with he | ⟨pattern, -, hmarks⟩
    · rw [he] at hm
      cases hm
    · exact Check.contractNaming_code hmarks hm

-- ---------------------------------------------------------------------------
-- Names
-- ---------------------------------------------------------------------------

theorem judge_eq_map (h : check.switch ≠ .missingDataType) (names other : Names) :
    check.judge scope names here =
      (check.judge scope other here).map fun outcome => { outcome with names } := by
  cases check with
  | typedDeclarations | assignedNames | bracketDeclarations | tupleNames | bareNames
  | parameterNames | parameterBrackets | laterUses => exact absurd rfl h
  | functionNaming =>
    simp only [judge]
    split
    · rename_i pattern _
      cases Check.functionNaming pattern here <;> rfl
    · rfl
  | variableNaming =>
    simp only [judge]
    split
    · rename_i patterns _
      cases Check.variableNaming patterns here <;> rfl
    · rfl
  | contractNaming =>
    simp only [judge]
    split
    · rename_i pattern _
      cases Check.contractNaming pattern here <;> rfl
    · rfl
  | _ => rfl

theorem outcome_code (check : LineCheck) (scope : Scope) (names : Names) (here : Context) :
    ∀ mark ∈ (check.rule.outcome scope names here).marks, mark.code = check.code := by
  intro mark hm
  simp only [Rule.outcome, rule] at hm
  split at hm
  · rename_i outcome h
    exact judge_code h mark hm
  · cases hm

theorem outcome_eq_of_switch_ne (h : check.switch ≠ .missingDataType) (scope : Scope)
    (names other : Names) (here : Context) :
    check.rule.outcome scope names here =
      { check.rule.outcome scope other here with names } := by
  simp only [Rule.outcome, rule, judge_eq_map h names other]
  cases check.judge scope other here <;> rfl

end LineCheck

end SolidityLint
