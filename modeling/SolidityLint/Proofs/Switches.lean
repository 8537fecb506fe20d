import SolidityLint.Proofs.Cap
import SolidityLint.Proofs.Checks
import SolidityLint.Service.Response

/-!
# Switches are independent

The findings of a code are those of an analysis with nothing but the switch of this code on, if the
switch is on, and there are none if it is off (`analyze_findings_of_code`). All rules share one
sink and the names that were met before. Keys hold the code, so reports of other codes have no part
in what the sink keeps; and the names that one switch brings up are read behind this switch only.
-/

namespace SolidityLint

theorem Code.eq_of_switch_eq {one other : Code} (h : one.switch = other.switch) :
    one = other := by
  cases one <;> cases other <;> first | rfl | cases h

namespace Rules

variable {rules : Rules} {check : LineCheck} {checks : List LineCheck}

theorem enabled_only_singleton {one other : Switch} :
    (only [one]).enabled other = true ↔ other = one := by
  simp [only]

def active (rules : Rules) (checks : List LineCheck) : List Rule :=
  (checks.filter (rules.enabled ·.switch)).map LineCheck.rule

theorem filter_lineRules (rules : Rules) :
    lineRules.filter (rules.enabled ·.switch) = rules.active LineCheck.all :=
  List.filter_map

theorem active_append (rules : Rules) (first second : List LineCheck) :
    rules.active (first ++ second) = rules.active first ++ rules.active second := by
  rw [active, List.filter_append, List.map_append]
  rfl

theorem active_cons_of_on (h : rules.enabled check.switch = true) :
    rules.active (check :: checks) = check.rule :: rules.active checks := by
  simp [active, h]

theorem active_cons_of_off (h : ¬rules.enabled check.switch = true) :
    rules.active (check :: checks) = rules.active checks := by
  simp [active, h]

end Rules

-- ---------------------------------------------------------------------------
-- One line
-- ---------------------------------------------------------------------------

/-- Two runs know the same names, as far as the checks behind a switch can tell. -/
def NamesAgree (switch : Switch) (one other : Names) : Prop :=
  switch = .missingDataType → one = other

section
variable {check : LineCheck} {code : Code} {scope : Scope} {here : Context}
  {one other : Names} {rules : Rules}

theorem NamesAgree.outcome (scope : Scope) (here : Context)
    (h : NamesAgree check.switch one other) :
    (check.rule.outcome scope one here).marks = (check.rule.outcome scope other here).marks ∧
      NamesAgree check.switch (check.rule.outcome scope one here).names
        (check.rule.outcome scope other here).names := by
  by_cases hs : check.switch = .missingDataType
  · rw [h hs]
    exact ⟨rfl, fun _ => rfl⟩
  · rw [LineCheck.outcome_eq_of_switch_ne hs scope one other here]
    exact ⟨rfl, fun h => absurd h hs⟩

/-- Behind another switch there is nothing about the code, and no name that matters to it. -/
theorem outcome_of_switch_ne (scope : Scope) (here : Context) (hs : check.switch ≠ code.switch)
    (h : NamesAgree code.switch one other) :
    (check.rule.outcome scope one here).marks.filter (·.code = code) = [] ∧
      NamesAgree code.switch (check.rule.outcome scope one here).names other := by
  refine ⟨?_, ?_⟩
  · rw [List.filter_eq_nil_iff]
    intro mark hm
    have hc := check.outcome_code scope one here mark hm
    have hne : check.code ≠ code := fun he => hs (by rw [← he, check.switch_code])
    simpa [hc] using hne
  · intro hd
    rw [LineCheck.outcome_eq_of_switch_ne (hd ▸ hs) scope one one here]
    exact h hd

theorem outcome_of_switch_eq (hs : check.switch = code.switch) :
    (check.rule.outcome scope one here).marks.filter (·.code = code) =
      (check.rule.outcome scope one here).marks := by
  rw [List.filter_eq_self]
  intro mark hm
  have hc := check.outcome_code scope one here mark hm
  have he : check.code = code := Code.eq_of_switch_eq (check.switch_code.trans hs)
  simpa [hc] using he

theorem rulesOutcome_of_code (scope : Scope) (here : Context)
    (hon : rules.enabled code.switch = true) (checks : List LineCheck)
    (h : NamesAgree code.switch one other) :
    (rulesOutcome scope here (rules.active checks) one).marks.filter (·.code = code) =
        (rulesOutcome scope here ((Rules.only [code.switch]).active checks) other).marks ∧
      NamesAgree code.switch (rulesOutcome scope here (rules.active checks) one).names
        (rulesOutcome scope here ((Rules.only [code.switch]).active checks) other).names := by
  induction checks generalizing one other with
  | nil => exact ⟨rfl, h⟩
  | cons check checks ih =>
    by_cases hs : check.switch = code.switch
    · obtain ⟨hm, hn⟩ := NamesAgree.outcome scope here (hs ▸ h)
      obtain ⟨ihm, ihn⟩ := ih (hs ▸ hn)
      rw [Rules.active_cons_of_on (hs ▸ hon),
        Rules.active_cons_of_on (Rules.enabled_only_singleton.mpr hs)]
      refine ⟨?_, ihn⟩
      simp only [rulesOutcome, List.filter_append, outcome_of_switch_eq hs, hm, ihm]
    · rw [Rules.active_cons_of_off (mt Rules.enabled_only_singleton.mp hs)]
      by_cases hb : rules.enabled check.switch = true
      · obtain ⟨hm, hn⟩ := outcome_of_switch_ne scope here hs h
        obtain ⟨ihm, ihn⟩ := ih hn
        rw [Rules.active_cons_of_on hb]
        refine ⟨?_, ihn⟩
        simp only [rulesOutcome, List.filter_append, hm, ihm, List.nil_append]
      · rw [Rules.active_cons_of_off hb]
        exact ih h

theorem rulesOutcome_of_code_off (hoff : rules.enabled code.switch = false)
    (checks : List LineCheck) (names : Names) :
    (rulesOutcome scope here (rules.active checks) names).marks.filter (·.code = code) = [] := by
  induction checks generalizing names with
  | nil => rfl
  | cons check checks ih =>
    by_cases hb : rules.enabled check.switch = true
    · have hs : check.switch ≠ code.switch := by
        intro hs
        rw [hs, hoff] at hb
        cases hb
      rw [Rules.active_cons_of_on hb]
      simp only [rulesOutcome, List.filter_append, ih,
        (outcome_of_switch_ne scope here hs (fun _ => rfl)).1, List.append_nil]
    · rw [Rules.active_cons_of_off hb]
      exact ih names

-- ---------------------------------------------------------------------------
-- Whole runs
-- ---------------------------------------------------------------------------

theorem filter_map_report (marks : List Mark) (line : Int) (code : Code) :
    (marks.map (·.report line)).filter (·.code = code) =
      (marks.filter (·.code = code)).map (·.report line) :=
  List.filter_map

theorem linesReports_of_code (hon : rules.enabled code.switch = true) (checks : List LineCheck)
    (row : Nat) (contexts : List Context) (h : NamesAgree code.switch one other) :
    (linesReports scope (rules.active checks) row contexts one).filter (·.code = code) =
      linesReports scope ((Rules.only [code.switch]).active checks) row contexts other := by
  induction contexts generalizing row one other with
  | nil => rfl
  | cons here rest ih =>
    obtain ⟨hm, hn⟩ := rulesOutcome_of_code scope here hon checks h
    simp only [linesReports, List.filter_append, filter_map_report, hm, ih _ hn]

theorem linesReports_of_code_off (hoff : rules.enabled code.switch = false)
    (checks : List LineCheck) (row : Nat) (contexts : List Context) (names : Names) :
    (linesReports scope (rules.active checks) row contexts names).filter (·.code = code) = [] := by
  induction contexts generalizing row names with
  | nil => rfl
  | cons here rest ih =>
    simp only [linesReports, List.filter_append, filter_map_report,
      rulesOutcome_of_code_off hoff, ih, List.map_nil, List.append_nil]

end

theorem filter_ite_of_code {reports : List Report} {code : Code} {rules : Rules} (own : Code)
    (h : ∀ report ∈ reports, report.code = own) :
    (if rules.enabled own.switch then reports else []).filter (·.code = code) =
      if rules.enabled code.switch then
        if (Rules.only [code.switch]).enabled own.switch then reports else []
      else [] := by
  by_cases hc : own = code
  · subst hc
    have hself : reports.filter (·.code = own) = reports := by
      rw [List.filter_eq_self]
      simpa using h
    simp only [Rules.enabled_only_singleton, if_true]
    split
    · exact hself
    · rfl
  · have hnone : reports.filter (·.code = code) = [] := by
      rw [List.filter_eq_nil_iff]
      intro report hr
      simpa [h report hr] using hc
    have hs : ¬own.switch = code.switch := fun hs => hc (Code.eq_of_switch_eq hs)
    simp only [Rules.enabled_only_singleton, hs, if_false, ite_self]
    split
    · exact hnone
    · rfl

theorem Session.treeReports_of_code (session : Session) (trees : Option TreeSource) (code : Code) :
    (session.treeReports trees).filter (·.code = code) =
      if session.rules.enabled code.switch then
        { session with rules := .only [code.switch] }.treeReports trees
      else [] := by
  match trees with
  | none | some .unavailable | some .broken => simp [treeReports]
  | some (.tree root) =>
    exact filter_ite_of_code .missingReturn fun _ => Check.returnReports_code

theorem Session.reports_of_code (session : Session) (trees : Option TreeSource) (code : Code) :
    (session.reports lineRules trees).filter (·.code = code) =
      if session.rules.enabled code.switch then
        { session with rules := .only [code.switch] }.reports lineRules trees
      else [] := by
  have hb : session.braceReports.filter (·.code = code) =
      if session.rules.enabled code.switch then
        { session with rules := .only [code.switch] }.braceReports
      else [] := filter_ite_of_code .missingBraces fun _ => Check.braceReports_code
  simp only [reports, List.filter_append, treeReports_of_code, hb, Rules.filter_lineRules]
  split
  · rename_i hon
    rw [linesReports_of_code hon _ _ _ (fun _ => rfl)]
  · rename_i hoff
    rw [linesReports_of_code_off (by simpa using hoff)]
    rfl

theorem Options.allFindings_of_code (options : Options) (text : List Char)
    (patterns : Option NamePatterns) (code : Code) :
    (options.allFindings lineRules text patterns).filter (·.code = code) =
      if options.rules.enabled code.switch then
        { options with rules := .only [code.switch] }.allFindings lineRules text patterns
      else [] := by
  have hr : (options.reports lineRules text patterns).filter (·.code = code) =
      if options.rules.enabled code.switch then
        { options with rules := .only [code.switch] }.reports lineRules text patterns
      else [] := Session.reports_of_code _ _ code
  have hkept : (options.allFindings lineRules text patterns).filter (·.code = code) =
      (firstOfEach [] ((options.reports lineRules text patterns).filter (·.code = code))).map
        Report.finding := options.filter_allFindings lineRules text patterns (·.code = code)
  rw [hkept, hr]
  split <;> rfl

theorem Rules.enabled_of_mem_entries {rules : Rules} {entry : RuleEntry}
    (h : entry ∈ rules.entries) : rules.enabled entry.code.switch = entry.enabled := by
  obtain ⟨code, -, rfl⟩ := List.mem_map.mp h
  rfl

theorem analyze_findings_of_code (text : List Char) (options : Options) (code : Code) :
    (options.IsAmple text → { options with rules := .only [code.switch] }.IsAmple text →
      (analyze text options).map (·.filter (·.code = code)) =
        if options.rules.enabled code.switch then
          analyze text { options with rules := .only [code.switch] }
        else (analyze text options).map fun _ => []) ∧
    (∀ rules : Rules, rules.enabled code.switch = options.rules.enabled code.switch →
      options.IsAmple text → { options with rules }.IsAmple text →
      (analyze text { options with rules }).map (·.filter (·.code = code)) =
        (analyze text options).map (·.filter (·.code = code))) ∧
    (⟨code, false⟩ ∈ options.rules.entries → ∀ found, analyze text options = .ok found →
      ∀ finding ∈ found, finding.code ≠ code) := by
  refine ⟨?_, ?_, ?_⟩
  · intro hall hone
    rw [hall.analyze_eq, hone.analyze_eq]
    cases options.patterns with
    | error fault => exact (ite_self _).symm
    | ok patterns =>
      simp only [Except.map, Options.allFindings_of_code]
      split <;> rfl
  · intro rules hr hall hother
    rw [hall.analyze_eq, hother.analyze_eq]
    cases options.patterns with
    | error fault => rfl
    | ok patterns => simp only [Except.map, Options.allFindings_of_code, hr]
  · rintro he found hf finding hm rfl
    have hoff : options.rules.enabled finding.code.switch = false :=
      Rules.enabled_of_mem_entries he
    obtain ⟨patterns, -, rfl⟩ := analyze_ok_iff.mp hf
    have hnone := options.allFindings_of_code text patterns finding.code
    rw [hoff, if_neg Bool.false_ne_true, List.filter_eq_nil_iff] at hnone
    exact hnone finding (List.mem_of_mem_take hm) (by simp)

theorem analyze_findings_of_dataType :
    let text := "x = tx.origin".toList
    Options.IsAmple {} text ∧ Options.IsAmple { rules := .only [.missingDataType] } text ∧
      (analyze text {}).map (·.filter (·.code = .missingDataType)) =
        analyze text { rules := .only [.missingDataType] } := by
  intro text
  have hall : Options.IsAmple {} text := Options.isAmple_of_not_reached (by decide +kernel)
  have hone : Options.IsAmple { rules := .only [.missingDataType] } text :=
    Options.isAmple_of_not_reached (by decide +kernel)
  exact ⟨hall, hone, (analyze_findings_of_code text {} .missingDataType).1 hall hone⟩

end SolidityLint
