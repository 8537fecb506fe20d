import SolidityLint.Proofs.Comments
import SolidityLint.Proofs.Line
import SolidityLint.Proofs.Switches

/-!
# Lines are judged by what stands around them

A check looks at its line, at the five lines before it and at the next line of code. What is known
of the document as a whole reaches two kinds of checks: those for data types know names that were
met before, and the one for payable functions knows whether value is moved somewhere. With these
and the balance of braces switched off, a line that stands in two documents among the same lines
has the same findings in both, but for the number of the line
(`analyze_findings_of_surroundings`).
-/

namespace SolidityLint

-- ---------------------------------------------------------------------------
-- What is seen from a line
-- ---------------------------------------------------------------------------

/-- The same line, with the same next line of code and the same lines of code above. -/
structure Context.SameView (one other : Context) : Prop where
  line : one.line = other.line
  next : one.next? = other.next?
  previous : one.previous = other.previous

namespace Context

variable {one other : Context} {lines others : List Line} {i j : Nat}

theorem SameView.alike (h : one.SameView other) : one.Alike other :=
  ⟨congrArg Line.code h.line, h.next, h.previous⟩

/-- Blank lines and comments among the five lines above count, although they are not shown. -/
theorem previous_of_each (h : (each lines)[i]? = some one) :
    one.previous = codeLines ((lines.take i).drop (i - 5)).reverse := by
  rw [each_getElem?] at h
  obtain ⟨line, hline, rfl⟩ := Option.map_eq_some_iff.mp h
  obtain ⟨hi, -⟩ := List.getElem?_eq_some_iff.mp hline
  have hlength : (lines.take i).length = i := List.length_take_of_le (Nat.le_of_lt hi)
  change codeLines ((lines.take i).reverse.take 5) = _
  rw [List.take_reverse, hlength]

theorem sameView_of_lines (hi : (each lines)[i]? = some one) (hj : (each others)[j]? = some other)
    (hline : lines[i]? = others[j]?)
    (hbefore : (lines.take i).drop (i - 5) = (others.take j).drop (j - 5))
    (hnext : (codeLines (lines.drop (i + 1))).head? = (codeLines (others.drop (j + 1))).head?) :
    one.SameView other := by
  have hprevious : one.previous = other.previous := by
    rw [previous_of_each hi, previous_of_each hj, hbefore]
  rw [each_getElem?] at hi hj
  obtain ⟨line, hl, rfl⟩ := Option.map_eq_some_iff.mp hi
  obtain ⟨line', hl', rfl⟩ := Option.map_eq_some_iff.mp hj
  rw [hl, hl'] at hline
  refine ⟨Option.some.inj hline, ?_, hprevious⟩
  simp only [next?, nextCode?_eq_head?, hnext]

end Context

-- ---------------------------------------------------------------------------
-- Checks of lines with the same view
-- ---------------------------------------------------------------------------

namespace LineCheck

variable {check : LineCheck} {one other : Context} {scope scope' : Scope} {rules : Rules}

/-- A check that knows nothing of the document as a whole, but for its naming patterns. -/
def IsLocal (check : LineCheck) : Prop :=
  check.switch ≠ .missingDataType ∧ check.switch ≠ .missingPayable

theorem judge_eq_of_sameView (h : one.SameView other) (scope : Scope) (names : Names) :
    check.judge scope names one = check.judge scope names other := by
  by_cases hc : check = .missingParentheses
  · subst hc
    simp only [judge, Check.missingParentheses, h.line, h.previous]
  · exact judge_eq_of_alike h.alike hc scope names

theorem judge_eq_of_naming (hc : check.switch ≠ .missingPayable)
    (hnaming : scope.naming = scope'.naming) (names : Names) (here : Context) :
    check.judge scope names here = check.judge scope' names here := by
  cases check with
  | missingPayable => exact absurd rfl hc
  | functionNaming | variableNaming | contractNaming => simp only [judge, hnaming]
  | _ => rfl

theorem IsLocal.outcome_marks (hc : check.IsLocal) (h : one.SameView other)
    (hnaming : scope.naming = scope'.naming) (names names' : Names) :
    (check.rule.outcome scope names one).marks =
      (check.rule.outcome scope' names' other).marks := by
  have hjudge : check.judge scope names' one = check.judge scope' names' other :=
    (judge_eq_of_sameView h scope names').trans (judge_eq_of_naming hc.2 hnaming names' other)
  rw [outcome_eq_of_switch_ne hc.1 scope names names' one]
  simp only [Rule.outcome, rule, hjudge]

theorem isLocal_of_enabled (hdata : rules.enabled .missingDataType = false)
    (hpayable : rules.enabled .missingPayable = false) (hon : rules.enabled check.switch = true) :
    check.IsLocal := by
  refine ⟨?_, ?_⟩
  · intro hs
    rw [hs, hdata] at hon
    cases hon
  · intro hs
    rw [hs, hpayable] at hon
    cases hon

theorem rulesOutcome_marks_of_sameView (hdata : rules.enabled .missingDataType = false)
    (hpayable : rules.enabled .missingPayable = false) (h : one.SameView other)
    (hnaming : scope.naming = scope'.naming) (checks : List LineCheck) (names names' : Names) :
    (rulesOutcome scope one (rules.active checks) names).marks =
      (rulesOutcome scope' other (rules.active checks) names').marks := by
  induction checks generalizing names names' with
  | nil => rfl
  | cons check checks ih =>
    by_cases hon : rules.enabled check.switch = true
    · have hlocal := isLocal_of_enabled hdata hpayable hon
      have hfirst := hlocal.outcome_marks h hnaming names names'
      rw [Rules.active_cons_of_on hon]
      simp only [rulesOutcome, hfirst]
      rw [ih]
    · rw [Rules.active_cons_of_off hon]
      exact ih names names'

end LineCheck

-- ---------------------------------------------------------------------------
-- Another number for a line
-- ---------------------------------------------------------------------------

def Key.onLine (key : Key) (line : Int) : Key := { key with line }

def Report.onLine (report : Report) (line : Int) : Report := { report with line }

def Finding.onLine (finding : Finding) (line : Int) : Finding :=
  { finding with
    range := ⟨⟨line, finding.range.start.character⟩, ⟨line, finding.range.stop.character⟩⟩ }

theorem Key.mem_map_onLine {keys : List Key} {key : Key} {line : Int}
    (h : ∀ other ∈ keys, other.line = key.line) :
    key.onLine line ∈ keys.map (·.onLine line) ↔ key ∈ keys := by
  refine ⟨fun hm => ?_, List.mem_map_of_mem⟩
  obtain ⟨other, ho, he⟩ := List.mem_map.mp hm
  have hline := h other ho
  obtain ⟨otherLine, start, stop, code⟩ := other
  obtain ⟨keyLine, _, _, _⟩ := key
  cases hline
  cases he
  exact ho

theorem firstOfEach_map_onLine {seen : List Key} {reports : List Report} {line : Int}
    (hs : ∀ key ∈ seen, key.line = line) (hr : ∀ report ∈ reports, report.line = line)
    (other : Int) :
    firstOfEach (seen.map (·.onLine other)) (reports.map (·.onLine other)) =
      (firstOfEach seen reports).map (·.onLine other) := by
  induction reports generalizing seen with
  | nil => rfl
  | cons report later ih =>
    have hreport : report.key.line = line := hr report List.mem_cons_self
    have hlater := fun next hn => hr next (List.mem_cons_of_mem report hn)
    have hm : (report.onLine other).key ∈ seen.map (·.onLine other) ↔ report.key ∈ seen :=
      Key.mem_map_onLine fun key hk => (hs key hk).trans hreport.symm
    rw [List.map_cons]
    by_cases hseen : report.key ∈ seen
    · rw [firstOfEach_cons_of_mem hseen, firstOfEach_cons_of_mem (hm.mpr hseen)]
      exact ih hs hlater
    · rw [firstOfEach_cons_of_not_mem hseen, firstOfEach_cons_of_not_mem (mt hm.mp hseen),
        List.map_cons]
      have hall : ∀ key ∈ seen ++ [report.key], key.line = line := by
        intro key hk
        rcases List.mem_append.mp hk with hk | hk
        · exact hs key hk
        · rw [List.mem_singleton.mp hk, hreport]
      have hrest := ih hall hlater
      rw [List.map_append] at hrest
      exact congrArg (report.onLine other :: ·) hrest

theorem map_finding_map_report {marks : List Mark} {i : Int} (j : Int) :
    ((firstOfEach [] (marks.map (·.report i))).map Report.finding).map (·.onLine j) =
      (firstOfEach [] (marks.map (·.report j))).map Report.finding := by
  have hline : ∀ report ∈ marks.map (·.report i), report.line = i := by
    intro report hr
    obtain ⟨mark, -, rfl⟩ := List.mem_map.mp hr
    rfl
  have hmoved : (marks.map (·.report i)).map (·.onLine j) = marks.map (·.report j) := by
    rw [List.map_map]
    rfl
  have hkept := firstOfEach_map_onLine (List.forall_mem_nil _) hline j
  rw [hmoved, List.map_nil] at hkept
  rw [hkept, List.map_map, List.map_map]
  rfl

-- ---------------------------------------------------------------------------
-- The findings on a line
-- ---------------------------------------------------------------------------

theorem Options.reports_eq_linesReports {options : Options}
    (hbraces : options.rules.enabled .missingBraces = false)
    (htrees : options.trees = none ∨ options.rules.enabled .missingReturn = false)
    (text : List Char) (patterns : Option NamePatterns) :
    options.reports lineRules text patterns =
      linesReports ⟨(Document.ofText text).movesValue, patterns⟩
        (options.rules.active LineCheck.all) 0 (Context.each (splitLines text)) {} := by
  let session := Session.fresh text options.rules options.cap patterns
  have hnoTree : session.treeReports options.trees = [] := by
    rcases htrees with hnone | hoff
    · rw [hnone]
      rfl
    · have hoff' : session.rules.enabled .missingReturn = false := hoff
      unfold Session.treeReports
      split
      · rw [hoff']
        rfl
      · rfl
  have hnoBraces : session.braceReports = [] := by
    have hoff : session.rules.enabled .missingBraces = false := hbraces
    rw [Session.braceReports, hoff]
    rfl
  rw [← Rules.filter_lineRules]
  change session.treeReports options.trees ++ session.braceReports ++ _ = _
  rw [hnoTree, hnoBraces]
  rfl

theorem Options.exists_allFindings_on_line {options : Options} {text : List Char} {i : Nat}
    {here : Context} (hi : (Context.each (splitLines text))[i]? = some here)
    (hbraces : options.rules.enabled .missingBraces = false)
    (htrees : options.trees = none ∨ options.rules.enabled .missingReturn = false)
    (patterns : Option NamePatterns) :
    ∃ known, (options.allFindings lineRules text patterns).filter (·.range.start.line = (i : Int)) =
      (firstOfEach [] ((rulesOutcome ⟨(Document.ofText text).movesValue, patterns⟩ here
        (options.rules.active LineCheck.all) known).marks.map (·.report i))).map
          Report.finding := by
  obtain ⟨known, hknown⟩ := exists_filter_linesReports hi 0 {}
  refine ⟨known, ?_⟩
  have hkept := options.filter_allFindings lineRules text patterns (·.line = (i : Int))
  rw [Nat.zero_add] at hknown
  refine hkept.trans (congrArg (List.map Report.finding) ?_)
  rw [Options.reports_eq_linesReports hbraces htrees]
  exact congrArg (firstOfEach []) hknown

theorem Options.exists_findings_of_code_on_line (options : Options) (code : Code)
    {text : List Char} {i : Nat} {here : Context}
    (hi : (Context.each (splitLines text))[i]? = some here)
    (hbraces : (Rules.only [code.switch]).enabled .missingBraces = false)
    (hreturn : (Rules.only [code.switch]).enabled .missingReturn = false)
    (hon : options.rules.enabled code.switch = true) (patterns : Option NamePatterns) :
    ∃ known, (options.allFindings lineRules text patterns).filter (fun finding =>
        finding.code = code ∧ finding.range.start.line = (i : Int)) =
      (firstOfEach [] ((rulesOutcome ⟨(Document.ofText text).movesValue, patterns⟩ here
        ((Rules.only [code.switch]).active LineCheck.all) known).marks.map (·.report i))).map
          Report.finding := by
  have hall := options.allFindings_of_code text patterns code
  rw [if_pos hon] at hall
  obtain ⟨known, hknown⟩ := @exists_allFindings_on_line
    { options with rules := .only [code.switch] } text i here hi hbraces (.inr hreturn) patterns
  refine ⟨known, ?_⟩
  rw [← hall, List.filter_filter] at hknown
  simp only [Bool.decide_and, Bool.and_comm] at hknown ⊢
  exact hknown

theorem analyze_findings_of_surroundings (text other : List Char) (i j : Nat) (line : Line)
    (options : Options) (m n : Int)
    (hi : (splitLines text)[i]? = some line) (hj : (splitLines other)[j]? = some line)
    (hbefore : ((splitLines text).take i).drop (i - 5) =
      ((splitLines other).take j).drop (j - 5))
    (hnext : (codeLines ((splitLines text).drop (i + 1))).head? =
      (codeLines ((splitLines other).drop (j + 1))).head?)
    (hdata : options.rules.enabled .missingDataType = false)
    (hpayable : options.rules.enabled .missingPayable = false)
    (hbraces : options.rules.enabled .missingBraces = false)
    (htrees : options.trees = none ∨ options.rules.enabled .missingReturn = false)
    (hm : { options with cap := m }.IsAmple text) (hn : { options with cap := n }.IsAmple other) :
    (analyze text { options with cap := m }).map (fun found =>
        (found.filter (·.range.start.line = (i : Int))).map (·.onLine j)) =
      (analyze other { options with cap := n }).map
        (·.filter (·.range.start.line = (j : Int))) := by
  obtain ⟨hlt, -⟩ := List.getElem?_eq_some_iff.mp hi
  obtain ⟨hlt', -⟩ := List.getElem?_eq_some_iff.mp hj
  obtain ⟨here, hhere, -⟩ := Context.exists_each_getElem? hlt
  obtain ⟨there, hthere, -⟩ := Context.exists_each_getElem? hlt'
  have hview := Context.sameView_of_lines hhere hthere (hi.trans hj.symm) hbefore hnext
  rw [hm.analyze_eq, hn.analyze_eq]
  cases options.patterns with
  | error fault => simp only [Except.map]
  | ok patterns =>
    obtain ⟨known, hone⟩ := Options.exists_allFindings_on_line hhere hbraces htrees patterns
    obtain ⟨known', hother⟩ := Options.exists_allFindings_on_line hthere hbraces htrees patterns
    have hmarks : (rulesOutcome ⟨(Document.ofText text).movesValue, patterns⟩ here
          (options.rules.active LineCheck.all) known).marks =
        (rulesOutcome ⟨(Document.ofText other).movesValue, patterns⟩ there
          (options.rules.active LineCheck.all) known').marks := by
      refine LineCheck.rulesOutcome_marks_of_sameView hdata hpayable hview ?_ _ known known'
      rfl
    refine congrArg Except.ok ?_
    change ((options.allFindings lineRules text patterns).filter _).map _ =
      (options.allFindings lineRules other patterns).filter _
    rw [hone, hother, hmarks, map_finding_map_report j]

/-- Both lines below stand behind the same five lines, of which one is blank and one a comment, and
are followed by the same line of code. -/
theorem analyze_findings_of_surroundings_in_call :
    let text := "f(\n//\n\na,\nb,\ntx.origin)\n\x7d".toList
    let other := "uint A\nf(\n//\n\na,\nb,\ntx.origin)\n//\n \x7d /*".toList
    let rules : Rules := ⟨fun switch => switch != .missingBraces && switch != .missingPayable &&
      switch != .missingDataType⟩
    let options : Options := { rules, naming := some .default }
    options.IsAmple text ∧ options.IsAmple other ∧
      (analyze text options).toOption.map (·.map fun finding => (finding.code, finding.range)) =
        some [(.txOrigin, ⟨⟨5, 0⟩, ⟨5, 9⟩⟩), (.missingSemicolon, ⟨⟨5, 9⟩, ⟨5, 10⟩⟩)] ∧
      (analyze text options).map (fun found =>
          (found.filter (·.range.start.line = 5)).map (·.onLine 6)) =
        (analyze other options).map (·.filter (·.range.start.line = 6)) := by
  intro text other rules options
  have htext : options.IsAmple text := Options.isAmple_of_not_reached (by decide +kernel)
  have hother : options.IsAmple other := Options.isAmple_of_not_reached (by decide +kernel)
  have hfound : (analyze text options).toOption.map
      (·.map fun finding => (finding.code, finding.range)) =
        some [(.txOrigin, ⟨⟨5, 0⟩, ⟨5, 9⟩⟩), (.missingSemicolon, ⟨⟨5, 9⟩, ⟨5, 10⟩⟩)] := by
    decide +kernel
  have hsame := analyze_findings_of_surroundings text other 5 6 "tx.origin)".toList options 100 100
    (by decide +kernel) (by decide +kernel) (by decide +kernel) (by decide +kernel) rfl rfl rfl
    (.inl rfl) htext hother
  exact ⟨htext, hother, hfound, hsame⟩

end SolidityLint
