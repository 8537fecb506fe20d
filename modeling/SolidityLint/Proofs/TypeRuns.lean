import SolidityLint.Proofs.Propagation
import SolidityLint.Proofs.Ranges

/-!
# Runs of the checks for data types

With no other switch on, the findings of an analysis are the marks for missing types on each line,
where the names of the lines above are known (`exists_analyze_typeMarks`). Neither the neighbours of
a line nor the rest of the document have a part in it.
-/

namespace SolidityLint

open Check Text Vocabulary

def LineCheck.forTypes : List LineCheck :=
  [.typedDeclarations, .assignedNames, .bracketDeclarations, .tupleNames, .bareNames,
    .parameterNames, .parameterBrackets, .laterUses]

theorem Rules.active_forTypes :
    (Rules.only [.missingDataType]).active LineCheck.all =
      LineCheck.forTypes.map LineCheck.rule := rfl

def typeOutcome (line : Line) (names : Names) : Outcome :=
  rulesOutcome ⟨false, none⟩ ⟨[], line, []⟩ (LineCheck.forTypes.map LineCheck.rule) names

def knownNames (lines : List Line) (names : Names) : Names :=
  lines.foldl (fun names line => (typeOutcome line names).names) names

def TypeMark (lines : List Line) (row : Nat) (mark : Mark) : Prop :=
  ∃ line, lines[row]? = some line ∧ mark ∈ (typeOutcome line (knownNames (lines.take row) {})).marks

def Names.undeclared (names : Names) (places : List (Span × List Char)) :
    List (Span × List Char) :=
  places.filter (!names.declared.contains ·.2)

-- ---------------------------------------------------------------------------
-- One line
-- ---------------------------------------------------------------------------

section
variable {check : LineCheck} {checks : List LineCheck} {here there : Context} {names : Names}
  {mark : Mark} {line : Line} {places : List (Span × List Char)}

theorem LineCheck.outcome_of_line (hc : check ∈ forTypes) (h : here.line = there.line)
    (scope other : Scope) (names : Names) :
    check.rule.outcome scope names here = check.rule.outcome other names there := by
  have hcode : here.code = there.code := congrArg Line.code h
  simp only [forTypes, List.mem_cons, List.not_mem_nil, or_false] at hc
  rcases hc with rfl | rfl | rfl | rfl | rfl | rfl | rfl | rfl <;>
    simp only [Rule.outcome, rule, judge, Check.typedDeclarations, Check.assignedNames,
      Check.bracketDeclarations, Check.tupleNames, Check.bareNames, Check.parameterNames,
      Check.parameterBrackets, Check.laterUses, hcode]

theorem rulesOutcome_of_line (hc : ∀ check ∈ checks, check ∈ LineCheck.forTypes)
    (h : here.line = there.line) (scope other : Scope) (names : Names) :
    rulesOutcome scope here (checks.map LineCheck.rule) names =
      rulesOutcome other there (checks.map LineCheck.rule) names := by
  induction checks generalizing names with
  | nil => rfl
  | cons check checks ih =>
    obtain ⟨hcheck, hchecks⟩ := List.forall_mem_cons.mp hc
    simp only [List.map_cons, rulesOutcome, LineCheck.outcome_of_line hcheck h scope other,
      ih hchecks]

theorem rulesOutcome_forTypes (scope : Scope) (here : Context) (names : Names) :
    rulesOutcome scope here (LineCheck.forTypes.map LineCheck.rule) names =
      typeOutcome here.line names := by
  have hline : here.line = (⟨[], here.line, []⟩ : Context).line := rfl
  exact rulesOutcome_of_line (fun _ h => h) hline _ _ names

theorem Names.mem_undeclared {place : Span × List Char} :
    place ∈ names.undeclared places ↔ place ∈ places ∧ place.2 ∉ names.declared := by
  simp [undeclared]

theorem Check.exists_tupleNames (here : Context) :
    ∃ places : List (Span × List Char), (∀ place ∈ places, place.1.of here.code = place.2) ∧
      ∀ names, tupleNames here names = missingNames (names.undeclared places) names := by
  cases hs : (tupleAssignment.search? here.code).bind (·.group? 1) with
  | none =>
    refine ⟨[], List.forall_mem_nil _, fun names => ?_⟩
    simp only [tupleNames, hs]
    rfl
  | some slots =>
    refine ⟨(listItems slots.start (slots.of here.code)).filterMap (untypedSlot? {}), ?_, ?_⟩
    · intro place hp
      obtain ⟨slot, hslot, hp⟩ := List.mem_filterMap.mp hp
      have hstands := listItems_standsAt hslot (standsAt_slice here.code _ _)
      simp only [untypedSlot?] at hp
      split at hp
      · cases hp
      · exact namePlace?_of (Option.filter_eq_some_iff.mp hp).1 hstands
    · intro names
      have hslot (slot : Nat × List Char) : untypedSlot? names slot =
          (untypedSlot? {} slot).filter (!names.declared.contains ·.2) := by
        simp only [untypedSlot?]
        split
        · rfl
        · rw [Option.filter_filter]
          simp
      simp only [tupleNames, hs, Names.undeclared, List.filter_filterMap, ← hslot]

theorem Check.exists_bareNames (here : Context) :
    ∃ (spans : List Span) (found : List (List Char)), ∀ names, bareNames here names =
      { marks := spans.map dataTypeMark, names := found.foldl Names.markMissing names } := by
  cases hs : (bareDeclaration.match? here.code).bind (·.group? 1) with
  | none => exact ⟨[], [], fun names => by simp only [bareNames, hs]; rfl⟩
  | some span =>
    by_cases hskip : (someType.occursIn here.code ||
        bareStatements.any (·.toList == span.of here.code)) = true
    · exact ⟨[], [], fun names => by simp only [bareNames, hs, if_pos hskip]; rfl⟩
    · refine ⟨[span], [span.of here.code], fun names => ?_⟩
      simp only [bareNames, hs, if_neg hskip]
      rfl

theorem Check.exists_parameterNames (here : Context) :
    ∃ (spans : List Span) (found : List (List Char)), ∀ names, parameterNames here names =
      { marks := spans.map dataTypeMark, names := found.foldl Names.markMissing names } := by
  cases hs : (functionParameters.search? here.code).bind (·.group? 1) with
  | none => exact ⟨[], [], fun names => by simp only [parameterNames, hs]; rfl⟩
  | some span =>
    let found := (listItems span.start (span.of here.code)).filterMap untypedParameter?
    refine ⟨found.map (·.span), found.filterMap (·.name?), fun names => ?_⟩
    simp only [parameterNames, hs, List.map_map]
    rfl

theorem Check.exists_parameterBrackets (here : Context) :
    ∃ spans : List Span, parameterBrackets here = spans.map dataTypeMark := by
  unfold parameterBrackets
  split
  · exact ⟨[], rfl⟩
  · exact ⟨_, (List.map_map (g := dataTypeMark)).symm⟩

/-- A check for data types declares names; finds names that are not declared; finds names whatever
is declared; finds nothing that is a name; or looks for names that were found before. -/
theorem LineCheck.outcome_cases (hc : check ∈ forTypes) (scope : Scope) (here : Context) :
    (∃ found : List (List Char), ∀ names,
      check.rule.outcome scope names here = { names := found.foldl Names.declare names }) ∨
    (∃ places : List (Span × List Char), (∀ place ∈ places, place.1.of here.code = place.2) ∧
      ∀ names, check.rule.outcome scope names here =
        Check.missingNames (names.undeclared places) names) ∨
    ((check = .bareNames ∨ check = .parameterNames) ∧
      ∃ (spans : List Span) (found : List (List Char)), ∀ names,
        check.rule.outcome scope names here =
          { marks := spans.map dataTypeMark, names := found.foldl Names.markMissing names }) ∨
    (∃ spans : List Span, ∀ names,
      check.rule.outcome scope names here = { marks := spans.map dataTypeMark, names }) ∨
    ∀ names, check.rule.outcome scope names here =
      { marks := Check.laterUses here names, names } := by
  simp only [forTypes, List.mem_cons, List.not_mem_nil, or_false] at hc
  rcases hc with rfl | rfl | rfl | rfl | rfl | rfl | rfl | rfl
  · exact .inl ⟨_, fun _ => rfl⟩
  · refine .inr (.inl ⟨Check.placesIn here.code
      ((Check.plainAssignment.findAll here.code).filterMap (·.group? 1)), ?_, fun _ => rfl⟩)
    intro place hp
    obtain ⟨span, -, rfl⟩ := List.mem_map.mp hp
    rfl
  · exact .inr (.inr (.inr (.inl ⟨_, fun _ => rfl⟩)))
  · exact .inr (.inl (Check.exists_tupleNames here))
  · exact .inr (.inr (.inl ⟨.inl rfl, Check.exists_bareNames here⟩))
  · exact .inr (.inr (.inl ⟨.inr rfl, Check.exists_parameterNames here⟩))
  · obtain ⟨spans, hspans⟩ := Check.exists_parameterBrackets here
    exact .inr (.inr (.inr (.inl ⟨spans, fun names => hspans ▸ rfl⟩)))
  · exact .inr (.inr (.inr (.inr fun _ => rfl)))

theorem LineCheck.eq_dataTypeMark (hc : check ∈ forTypes) {scope : Scope}
    (hm : mark ∈ (check.rule.outcome scope names here).marks) : mark = dataTypeMark mark.span := by
  have hspans {spans : List Span} (h : mark ∈ spans.map dataTypeMark) :
      mark = dataTypeMark mark.span := by
    obtain ⟨span, -, rfl⟩ := List.mem_map.mp h
    rfl
  rcases outcome_cases hc scope here with
    ⟨found, h⟩ | ⟨places, -, h⟩ | ⟨-, spans, found, h⟩ | ⟨spans, h⟩ | h <;> rw [h] at hm
  · cases hm
  · obtain ⟨place, -, rfl⟩ := List.mem_map.mp hm
    rfl
  · exact hspans hm
  · exact hspans hm
  · obtain ⟨name, -, hm⟩ := List.mem_filterMap.mp hm
    obtain ⟨found, -, rfl⟩ := Option.map_eq_some_iff.mp hm
    rfl

theorem eq_dataTypeMark_of_typeOutcome (hm : mark ∈ (typeOutcome line names).marks) :
    mark = dataTypeMark mark.span := by
  obtain ⟨rule, hr, known, hm⟩ := exists_rule_of_mem_rulesOutcome hm
  obtain ⟨check, hc, rfl⟩ := List.mem_map.mp hr
  exact LineCheck.eq_dataTypeMark hc hm

theorem typeOutcome_onCode (hn : names.AllNamed) :
    (typeOutcome line names).OnCode ⟨[], line, []⟩ := by
  refine rulesOutcome_onCode _ _ (fun rule hr => ?_) hn
  have hsub : ∀ check ∈ LineCheck.forTypes, check ∈ LineCheck.all := by decide
  obtain ⟨check, hc, rfl⟩ := List.mem_map.mp hr
  exact List.mem_map_of_mem (hsub check hc)

end

-- ---------------------------------------------------------------------------
-- Lines
-- ---------------------------------------------------------------------------

theorem knownNames_allNamed {names : Names} (hn : names.AllNamed) (lines : List Line) :
    (knownNames lines names).AllNamed := by
  induction lines generalizing names with
  | nil => exact hn
  | cons line lines ih => exact ih (typeOutcome_onCode hn).names

theorem linesNames_forTypes (scope : Scope) (contexts : List Context) (names : Names) :
    linesNames scope (LineCheck.forTypes.map LineCheck.rule) contexts names =
      knownNames (contexts.map Context.line) names := by
  rw [linesNames, knownNames, List.foldl_map]
  simp only [rulesOutcome_forTypes]

theorem Context.map_line_eachFrom (above lines : List Line) :
    (Context.eachFrom above lines).map Context.line = lines := by
  induction lines generalizing above with
  | nil => rfl
  | cons line lines ih => rw [eachFrom, List.map_cons, ih]

theorem TypeMark.highlighted? {lines : List Line} {row : Nat} {mark : Mark}
    (h : TypeMark lines row mark) :
    ∃ line, lines[row]? = some line ∧
      (mark.report row).finding.highlighted? lines = some (mark.span.of line.code) := by
  obtain ⟨line, hline, hm⟩ := h
  have hnone : Names.AllNamed {} := List.forall_mem_nil _
  have hnamed := knownNames_allNamed hnone (lines.take row)
  have hlt : row < lines.length := (List.getElem?_eq_some_iff.mp hline).1
  have hon := (typeOutcome_onCode hnamed).marks mark hm
  exact ⟨line, hline, hon.highlighted?_of_line (position?_of_lt hlt) hline⟩

-- ---------------------------------------------------------------------------
-- Analyses
-- ---------------------------------------------------------------------------

theorem mem_firstOfEach_iff {reports : List Report} {report : Report}
    (h : ∀ one ∈ reports, ∀ other ∈ reports, one.key = other.key → one = other) :
    report ∈ firstOfEach [] reports ↔ report ∈ reports := by
  refine ⟨(firstOfEach_sublist.subset ·), fun hr => ?_⟩
  obtain ⟨kept, hkept, hkey⟩ := exists_mem_firstOfEach hr List.not_mem_nil
  rwa [← h kept (firstOfEach_sublist.subset hkept) report hr hkey]

theorem mem_linesReports_typeMark {scope : Scope} {lines : List Line} {report : Report} :
    report ∈ linesReports scope (LineCheck.forTypes.map LineCheck.rule) 0 (Context.each lines) {} ↔
      ∃ (row : Nat) (mark : Mark), TypeMark lines row mark ∧ report = mark.report row := by
  have hlines (k : Nat) : ((Context.each lines).take k).map Context.line = lines.take k := by
    rw [List.map_take, Context.each, Context.map_line_eachFrom]
  constructor
  · intro h
    obtain ⟨k, here, mark, hk, hm, rfl⟩ := exists_of_mem_linesReports h
    rw [rulesOutcome_forTypes, linesNames_forTypes, hlines] at hm
    refine ⟨k, mark, ⟨here.line, ?_, hm⟩, by rw [Nat.zero_add]⟩
    rw [Context.each_getElem?] at hk
    obtain ⟨line, hline, rfl⟩ := Option.map_eq_some_iff.mp hk
    exact hline
  · rintro ⟨row, mark, ⟨line, hline, hm⟩, rfl⟩
    have hhere : (Context.each lines)[row]? = some
        ⟨(lines.take row).reverse, line, lines.drop (row + 1)⟩ := by
      rw [Context.each_getElem?, hline]
      rfl
    rw [← Nat.zero_add row]
    refine mem_linesReports hhere ?_
    rwa [rulesOutcome_forTypes, linesNames_forTypes, hlines]

theorem mem_reports_typeMark {text : List Char} {options : Options}
    (hrules : options.rules = .only [.missingDataType]) {patterns : Option NamePatterns}
    {report : Report} :
    report ∈ options.reports lineRules text patterns ↔
      ∃ (row : Nat) (mark : Mark), TypeMark (splitLines text) row mark ∧
        report = mark.report row := by
  have htrees : (Session.fresh text options.rules options.cap patterns).treeReports
      options.trees = [] := by
    rw [hrules]
    unfold Session.treeReports
    split <;> rfl
  have hbraces : (Session.fresh text options.rules options.cap patterns).braceReports = [] := by
    rw [hrules]
    rfl
  have hactive : (Session.fresh text options.rules options.cap patterns).rules.active
      LineCheck.all = LineCheck.forTypes.map LineCheck.rule := by
    rw [← Rules.active_forTypes, ← hrules]
    rfl
  rw [Options.reports, Session.reports, htrees, hbraces, Rules.filter_lineRules, hactive]
  exact mem_linesReports_typeMark

theorem exists_analyze_typeMarks {text : List Char} {options : Options}
    (hrules : options.rules = .only [.missingDataType])
    (hnaming : options.patterns.isOk) (hample : options.IsAmple text) :
    ∃ found, analyze text options = .ok found ∧ ∀ finding, finding ∈ found ↔
      ∃ (row : Nat) (mark : Mark), TypeMark (splitLines text) row mark ∧
        finding = (mark.report row).finding := by
  obtain ⟨patterns, hp⟩ := exists_of_isOk hnaming
  have hfound := hample.analyze_eq
  rw [hp] at hfound
  have hsame : ∀ one ∈ options.reports lineRules text patterns,
      ∀ other ∈ options.reports lineRules text patterns, one.key = other.key → one = other := by
    intro one hone other hother hkey
    obtain ⟨row, mark, ⟨_, -, hm⟩, rfl⟩ := (mem_reports_typeMark hrules).mp hone
    obtain ⟨row', mark', ⟨_, -, hm'⟩, rfl⟩ := (mem_reports_typeMark hrules).mp hother
    rw [eq_dataTypeMark_of_typeOutcome hm, eq_dataTypeMark_of_typeOutcome hm'] at hkey ⊢
    simp only [Mark.report, Report.key, dataTypeMark, Key.mk.injEq] at hkey
    simp only [Mark.report, dataTypeMark, hkey]
  refine ⟨_, hfound, fun finding => ?_⟩
  rw [Options.allFindings, List.mem_map]
  simp only [mem_firstOfEach_iff hsame, mem_reports_typeMark hrules]
  constructor
  · rintro ⟨_, ⟨row, mark, hm, rfl⟩, rfl⟩
    exact ⟨row, mark, hm, rfl⟩
  · rintro ⟨row, mark, hm, rfl⟩
    exact ⟨_, ⟨row, mark, hm, rfl⟩, rfl⟩

end SolidityLint
