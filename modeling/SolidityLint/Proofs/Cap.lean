import SolidityLint.Proofs.Reports

/-!
# Caps cut and do nothing else

A capped analysis gives the first findings of the uncapped one, in the same order
(`analyze_cap_keeps_first`). That the line loop ends at a full sink, and that a full sink refuses
reports in the middle of a rule, is not seen in the findings.
-/

namespace SolidityLint

variable {text : List Char} {options : Options} {found : List Finding}

theorem analyze_eq_map (text : List Char) (options : Options) :
    analyze text options =
      options.patterns.map fun patterns =>
        (options.allFindings lineRules text patterns).take options.cap.toNat :=
  analyzeWith_eq lineRules text options

theorem analyze_eq_take {patterns : Option NamePatterns}
    (hp : options.patterns = .ok patterns) (cap : Int) :
    analyze text { options with cap } =
      .ok ((options.allFindings lineRules text patterns).take cap.toNat) := by
  have hcapped : { options with cap }.patterns = .ok patterns := hp
  rw [analyze_eq_map, hcapped]
  rfl

theorem analyze_eq_error {fault : PatternFault} (hp : options.patterns = .error fault)
    (trees : Option TreeSource) (cap : Int) :
    analyze text { options with trees, cap } = .error fault := by
  have hsame : { options with trees, cap }.patterns = .error fault := hp
  rw [analyze_eq_map, hsame]
  rfl

/-- An analysis succeeds exactly if no naming pattern is refused. -/
theorem analyze_ok_iff :
    analyze text options = .ok found ↔
      ∃ patterns, options.patterns = .ok patterns ∧
        (options.allFindings lineRules text patterns).take options.cap.toNat = found := by
  rw [analyze_eq_map]
  cases options.patterns <;> simp [Except.map]

theorem allFindings_eq_of_length_lt {patterns : Option NamePatterns} {cap : Int}
    (hp : options.patterns = .ok patterns)
    (h : analyze text { options with cap } = .ok found) (hl : found.length < cap) :
    options.allFindings lineRules text patterns = found := by
  have hf : (options.allFindings lineRules text patterns).take cap.toNat = found :=
    Except.ok.inj ((analyze_eq_take hp cap).symm.trans h)
  rw [← hf, List.length_take] at hl
  rw [← hf, List.take_of_length_le (by omega)]

theorem analyze_cap_keeps_first (text : List Char) (options : Options)
    (h : options.patterns.isOk) :
    (∃ (ample : Int) (all : List Finding),
      analyze text { options with cap := ample } = .ok all ∧ all.length < ample) ∧
    (∀ (ample : Int) (all : List Finding),
      analyze text { options with cap := ample } = .ok all → all.length < ample →
        ∀ n : Int, analyze text { options with cap := n } = .ok (all.take n.toNat)) ∧
    (∀ m n : Int, m ≤ n → ∃ few many : List Finding,
      analyze text { options with cap := m } = .ok few ∧
        analyze text { options with cap := n } = .ok many ∧ few <+: many) := by
  obtain ⟨patterns, hp⟩ : ∃ patterns, options.patterns = .ok patterns := by
    cases hp : options.patterns with
    | error fault => simp [hp, Except.isOk, Except.toBool] at h
    | ok patterns => exact ⟨patterns, rfl⟩
  refine ⟨?_, ?_, ?_⟩
  · refine ⟨(options.allFindings lineRules text patterns).length + 1, _, ?_, Int.lt_succ _⟩
    rw [analyze_eq_take hp, List.take_of_length_le (by omega)]
  · intro ample all ha hl n
    have hall : options.allFindings lineRules text patterns = all :=
      allFindings_eq_of_length_lt hp ha hl
    rw [analyze_eq_take hp, hall]
  · intro m n hmn
    refine ⟨_, _, analyze_eq_take hp m, analyze_eq_take hp n, ?_⟩
    exact List.take_prefix_take_left (by omega)

theorem analyze_cap_keeps_first_two :
    let text := "x = tx.origin".toList
    let origin : Finding := ⟨"Avoid using tx.origin for authorization. Use msg.sender instead.",
      .txOrigin, .warning, ⟨⟨0, 4⟩, ⟨0, 13⟩⟩⟩
    let semicolon : Finding := ⟨"Missing semicolon at end of statement.", .missingSemicolon,
      .error, ⟨⟨0, 12⟩, ⟨0, 13⟩⟩⟩
    let dataType : Finding := ⟨"Missing data type declaration for variable.", .missingDataType,
      .error, ⟨⟨0, 0⟩, ⟨0, 1⟩⟩⟩
    (Options.patterns { naming := some .default }).isOk ∧
      analyze text { naming := some .default } = .ok [origin, semicolon, dataType] ∧
      analyze text { naming := some .default, cap := 2 } = .ok [origin, semicolon] := by
  intro text origin semicolon dataType
  have hp : (Options.patterns { naming := some .default }).isOk := by decide +kernel
  have hall : analyze text { naming := some .default } = .ok [origin, semicolon, dataType] :=
    eq_ok_of_toOption (by decide +kernel)
  refine ⟨hp, hall, ?_⟩
  exact (analyze_cap_keeps_first text { naming := some .default } hp).2.1 100 _ hall (by decide) 2

-- ---------------------------------------------------------------------------
-- Caps of any kind
-- ---------------------------------------------------------------------------

theorem analyzeUpTo_congr {table : List Rule} {other : List Char} {options' : Options}
    (h : ∀ cap, analyzeWith table text { options with cap } =
      analyzeWith table other { options' with cap }) (cap : Value) :
    analyzeUpTo cap table text options = analyzeUpTo cap table other options' := by
  unfold analyzeUpTo
  cases capOf? cap with
  | none => rfl
  | some cap => simp only [h]

theorem analyze_eq_of_reports_eq {other : List Char}
    (h : ∀ patterns, options.reports lineRules text patterns =
      options.reports lineRules other patterns) (cap : Int) :
    analyze text { options with cap } = analyze other { options with cap } := by
  have hall : ∀ patterns, options.allFindings lineRules text patterns =
      options.allFindings lineRules other patterns := by
    intro patterns
    simp only [Options.allFindings, h]
  rw [analyze_eq_map, analyze_eq_map]
  exact congrArg (Except.map · _) (funext fun patterns => congrArg (List.take _) (hall patterns))

theorem analyzeUpTo_ok {cap : Value} (h : analyzeUpTo cap lineRules text options = .ok found) :
    ∃ n patterns, capOf? cap = some n ∧ options.patterns = .ok patterns ∧
      (options.allFindings lineRules text patterns).take n.toNat = found := by
  unfold analyzeUpTo at h
  split at h
  · cases h
  · rename_i n hc
    split at h
    · cases h
    · rename_i all ha
      cases h
      obtain ⟨patterns, hp, hf⟩ := analyze_ok_iff.mp ha
      exact ⟨n, patterns, hc, hp, hf⟩

-- ---------------------------------------------------------------------------
-- Caps that cut nothing
-- ---------------------------------------------------------------------------

/-- The cap is large enough: no greater cap gives more. -/
def Options.IsAmple (options : Options) (text : List Char) : Prop :=
  ∀ cap, options.cap ≤ cap → analyze text { options with cap } = analyze text options

theorem Options.IsAmple.analyze_eq (h : options.IsAmple text) :
    analyze text options =
      options.patterns.map (options.allFindings lineRules text) := by
  cases hp : options.patterns with
  | error fault => rw [analyze_eq_map, hp]; rfl
  | ok patterns =>
    have hc := h (max options.cap (options.allFindings lineRules text patterns).length)
      (Int.le_max_left _ _)
    rw [← hc, analyze_eq_take hp, List.take_of_length_le (by omega)]
    rfl

theorem Options.isAmple_of_not_reached
    (h : (analyze text options).toOption.any fun found => found.length < options.cap) :
    options.IsAmple text := by
  intro cap hc
  cases ha : analyze text options with
  | error fault => simp [ha, Except.toOption] at h
  | ok found =>
    have hl : found.length < options.cap := by simpa [ha, Except.toOption] using h
    obtain ⟨patterns, hp, -⟩ := analyze_ok_iff.mp ha
    have hall := allFindings_eq_of_length_lt hp ha hl
    rw [analyze_eq_take hp, hall, List.take_of_length_le (by omega)]

end SolidityLint
