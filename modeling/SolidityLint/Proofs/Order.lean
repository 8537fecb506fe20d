import SolidityLint.Proofs.Switches
import SolidityLint.Proofs.TreePass

/-!
# The order of findings

Findings come in three parts: what was found in a syntax tree, then braces without a partner, then
what was found line by line, and on each line in the order of the table of rules
(`analyze_findings_in_order`). Nothing ever sorts them. The reports are made in this order, and what
a sink keeps of them is a sublist, wherever its cap cuts.
-/

namespace SolidityLint

-- ---------------------------------------------------------------------------
-- The order of codes
-- ---------------------------------------------------------------------------

/-- The codes of line checks as they first come up in the table of rules. -/
def Code.lineOrder : List Code :=
  [.txOrigin, .selfdestruct, .delegatecall, .lowLevelCallValue, .missingSemicolon,
    .missingParentheses, .wrongKeyword, .missingDataType, .missingPayable, .functionNaming,
    .variableNaming, .contractNaming]

def Code.rank (code : Code) : Nat := lineOrder.idxOf code

namespace LineCheck

example : (all.map code).eraseDups = Code.lineOrder := by decide

theorem all_pairwise_rank : all.Pairwise fun one other => one.code.rank ≤ other.code.rank := by
  decide

theorem code_ne_missingBraces (check : LineCheck) : check.code ≠ .missingBraces := by
  cases check <;> nofun

end LineCheck

-- ---------------------------------------------------------------------------
-- The order of reports
-- ---------------------------------------------------------------------------

/-- On an earlier line, or on the same line with a code that does not come later. -/
def Finding.Precedes (one other : Finding) : Prop :=
  one.range.start.line < other.range.start.line ∨
    one.range.start.line = other.range.start.line ∧ one.code.rank ≤ other.code.rank

section
variable {scope : Scope} {here : Context} {names : Names} {checks : List LineCheck}

theorem exists_check_of_mem_rulesOutcome {mark : Mark}
    (h : mark ∈ (rulesOutcome scope here (checks.map LineCheck.rule) names).marks) :
    ∃ check ∈ checks, mark.code = check.code := by
  obtain ⟨rule, hr, known, hm⟩ := exists_rule_of_mem_rulesOutcome h
  obtain ⟨check, hc, rfl⟩ := List.mem_map.mp hr
  exact ⟨check, hc, check.outcome_code scope known here mark hm⟩

theorem rulesOutcome_pairwise_rank
    (h : checks.Pairwise fun one other => one.code.rank ≤ other.code.rank) (scope : Scope)
    (here : Context) (names : Names) :
    (rulesOutcome scope here (checks.map LineCheck.rule) names).marks.Pairwise
      fun one other => one.code.rank ≤ other.code.rank := by
  induction checks generalizing names with
  | nil => exact .nil
  | cons check checks ih =>
    obtain ⟨hfirst, hlater⟩ := List.pairwise_cons.mp h
    have hcode := check.outcome_code scope names here
    refine List.pairwise_append.mpr ⟨?_, ih hlater _, ?_⟩
    · refine List.pairwise_of_forall_mem_list fun one hone other hother => ?_
      have hsame : one.code = other.code := (hcode one hone).trans (hcode other hother).symm
      exact Nat.le_of_eq (congrArg Code.rank hsame)
    · intro one hone other hother
      obtain ⟨next, hnext, he⟩ := exists_check_of_mem_rulesOutcome hother
      rw [hcode one hone, he]
      exact hfirst next hnext

theorem linesReports_pairwise_precedes
    (h : checks.Pairwise fun one other => one.code.rank ≤ other.code.rank) (scope : Scope)
    (row : Nat) (contexts : List Context) (names : Names) :
    (linesReports scope (checks.map LineCheck.rule) row contexts names).Pairwise
      fun one other => one.finding.Precedes other.finding := by
  induction contexts generalizing row names with
  | nil => exact .nil
  | cons here rest ih =>
    have hmarks := rulesOutcome_pairwise_rank h scope here names
    refine List.pairwise_append.mpr ⟨?_, ih (row + 1) _, ?_⟩
    · exact List.pairwise_map.mpr (hmarks.imp fun hle => .inr ⟨rfl, hle⟩)
    · intro one hone other hother
      obtain ⟨mark, -, rfl⟩ := List.mem_map.mp hone
      have hlater : ((row + 1 : Nat) : Int) ≤ other.line := linesReports_le hother
      refine .inl ?_
      show (row : Int) < other.line
      omega

theorem linesReports_code_ne {row : Nat} {contexts : List Context} {report : Report}
    (h : report ∈ linesReports scope (checks.map LineCheck.rule) row contexts names) :
    report.code ≠ .missingReturn ∧ report.code ≠ .missingBraces := by
  obtain ⟨k, here, -, rule, hr, known, mark, hm, rfl⟩ := exists_mark_of_mem_linesReports h
  obtain ⟨check, -, rfl⟩ := List.mem_map.mp hr
  have hcode : mark.code = check.code := check.outcome_code scope known here mark hm
  show mark.code ≠ _ ∧ mark.code ≠ _
  rw [hcode]
  exact ⟨check.code_ne_missingReturn, check.code_ne_missingBraces⟩

end

theorem Check.Braces.reports_messages (braces : Braces) :
    (braces.reports.map Report.message).Sublist
      ["Extra closing brace.", "Missing closing brace."] := by
  obtain ⟨opened, extra⟩ := braces
  cases extra with
  | none => cases opened <;> simp [reports, report]
  | some place => cases opened <;> simp [reports, report]

theorem Session.braceReports_messages (session : Session) :
    (session.braceReports.map Report.message).Sublist
      ["Extra closing brace.", "Missing closing brace."] := by
  unfold braceReports
  split
  · exact Check.Braces.reports_messages _
  · exact List.nil_sublist _

-- ---------------------------------------------------------------------------
-- The order of findings
-- ---------------------------------------------------------------------------

/-- What was found in a tree, then at most one brace too many and at most one too few, then what was
found line by line. -/
def InThreeParts (found : List Finding) : Prop :=
  ∃ returns braces lines : List Finding, found = returns ++ braces ++ lines ∧
    (∀ finding ∈ returns, finding.code = .missingReturn) ∧
    (∀ finding ∈ braces, finding.code = .missingBraces) ∧ braces.length ≤ 2 ∧
    (braces.map Finding.message).Sublist ["Extra closing brace.", "Missing closing brace."] ∧
    lines.Pairwise Finding.Precedes ∧
    ∀ finding ∈ lines, finding.code ≠ .missingReturn ∧ finding.code ≠ .missingBraces

theorem Session.inThreeParts_of_sublist {session : Session} {trees : Option TreeSource}
    {kept : List Report} (h : kept.Sublist (session.reports lineRules trees)) :
    InThreeParts (kept.map Report.finding) := by
  unfold reports at h
  rw [Rules.filter_lineRules] at h
  obtain ⟨front, lines, rfl, hfront, hlines⟩ := List.sublist_append_iff.mp h
  obtain ⟨returns, braces, rfl, hreturns, hbraces⟩ := List.sublist_append_iff.mp hfront
  have hmessages : ((braces.map Report.finding).map Finding.message).Sublist
      ["Extra closing brace.", "Missing closing brace."] := by
    rw [List.map_map]
    exact (hbraces.map Report.message).trans session.braceReports_messages
  have hsorted : lines.Pairwise fun one other => one.finding.Precedes other.finding :=
    (linesReports_pairwise_precedes (LineCheck.all_pairwise_rank.filter _) _ _ _ _).sublist hlines
  refine ⟨returns.map Report.finding, braces.map Report.finding, lines.map Report.finding, by simp,
    ?_, ?_, ?_, hmessages, List.pairwise_map.mpr hsorted, ?_⟩
  · intro finding hf
    obtain ⟨report, hr, rfl⟩ := List.mem_map.mp hf
    exact treeReports_code (hreturns.subset hr)
  · intro finding hf
    obtain ⟨report, hr, rfl⟩ := List.mem_map.mp hf
    exact braceReports_code (hbraces.subset hr)
  · have hlength := hmessages.length_le
    rwa [List.length_map] at hlength
  · intro finding hf
    obtain ⟨report, hr, rfl⟩ := List.mem_map.mp hf
    exact linesReports_code_ne (hlines.subset hr)

theorem Options.inThreeParts_take (options : Options) (text : List Char)
    (patterns : Option NamePatterns) (n : Nat) :
    InThreeParts ((options.allFindings lineRules text patterns).take n) := by
  unfold allFindings
  rw [← List.map_take]
  exact Session.inThreeParts_of_sublist ((List.take_sublist _ _).trans firstOfEach_sublist)

/-- Every analysis that is not refused gives findings in this order, whatever its rules, tree and
cap are. -/
theorem analyze_findings_in_order (text : List Char) (options : Options) :
    (options.patterns.isOk →
      ∃ found, analyze text options = .ok found ∧ InThreeParts found) ∧
    ∀ (cap : Value) (found : List Finding),
      analyzeUpTo cap lineRules text options = .ok found → InThreeParts found := by
  constructor
  · intro hok
    obtain ⟨patterns, hp⟩ := exists_of_isOk hok
    exact ⟨_, analyze_ok_iff.mpr ⟨patterns, hp, rfl⟩, options.inThreeParts_take text patterns _⟩
  · intro cap found h
    obtain ⟨n, patterns, -, -, rfl⟩ := analyzeUpTo_ok h
    exact options.inThreeParts_take text patterns _

/-- One function in the tree, two braces and two lines with findings. The cap cuts the last one. -/
theorem analyze_findings_in_order_up_to_cap :
    let text := "function f() returns (uint) \x7d \x7b\nx = tx.origin\nvar suicide(y".toList
    let options : Options :=
      { naming := some .default, trees := some treeWithMissingChild, cap := 8 }
    options.patterns.isOk ∧
      ∃ found, analyze text options = .ok found ∧ InThreeParts found ∧
        found.map Finding.code = [.missingReturn, .missingBraces, .missingBraces, .txOrigin,
          .missingSemicolon, .missingDataType, .selfdestruct, .wrongKeyword] := by
  intro text options
  have hok : options.patterns.isOk := by decide +kernel
  have hcodes : (analyze text options).toOption.map (·.map Finding.code) =
      some [.missingReturn, .missingBraces, .missingBraces, .txOrigin, .missingSemicolon,
        .missingDataType, .selfdestruct, .wrongKeyword] := by
    decide +kernel
  obtain ⟨found, hf, hparts⟩ := (analyze_findings_in_order text options).1 hok
  rw [hf] at hcodes
  exact ⟨hok, found, hf, hparts, Option.some.inj hcodes⟩

end SolidityLint
