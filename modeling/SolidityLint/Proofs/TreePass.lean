import SolidityLint.Proofs.Cap
import SolidityLint.Proofs.Checks

/-!
# The pass over a tree only adds in front

An analysis with a syntax tree gives what is found in the tree and then all that is found without
one, cut at the cap (`analyze_tree_findings_first`). The tree pass shares the sink with the passes
after it, but its reports have a code of their own, so none of them takes the place of another
report, wherever the walk over the tree ends. A pass that fails is not taken back: what was found
before it failed stays in the sink, and so does the key of a sighting of which no finding can be
made (`assist_failed_keeps_earlier`).
-/

namespace SolidityLint

-- ---------------------------------------------------------------------------
-- Codes of reports
-- ---------------------------------------------------------------------------

theorem LineCheck.code_ne_missingReturn (check : LineCheck) : check.code ≠ .missingReturn := by
  cases check <;> nofun

namespace Session

variable {session : Session} {report : Report}

theorem treeReports_code {trees : Option TreeSource} (h : report ∈ session.treeReports trees) :
    report.code = .missingReturn := by
  unfold treeReports at h
  split at h
  · split at h
    · exact Check.returnReports_code h
    · cases h
  · cases h

theorem braceReports_code (h : report ∈ session.braceReports) : report.code = .missingBraces := by
  unfold braceReports at h
  split at h
  · exact Check.braceReports_code h
  · cases h

theorem code_ne_of_mem_reports (h : report ∈ session.reports lineRules none) :
    report.code ≠ .missingReturn := by
  rcases List.mem_append.mp h with h | h
  · have hbraces : report.code = .missingBraces := braceReports_code h
    rw [hbraces]
    nofun
  · obtain ⟨k, here, -, rule, hrule, known, mark, hm, rfl⟩ := exists_mark_of_mem_linesReports h
    obtain ⟨check, -, rfl⟩ := List.mem_map.mp (List.mem_filter.mp hrule).1
    have hcode : mark.code = check.code := check.outcome_code _ known here mark hm
    exact fun hreturn => check.code_ne_missingReturn (hcode.symm.trans hreturn)

theorem reports_eq_append (session : Session) (table : List Rule) (trees : Option TreeSource) :
    session.reports table trees = session.treeReports trees ++ session.reports table none :=
  List.append_assoc _ _ _

end Session

-- ---------------------------------------------------------------------------
-- Findings
-- ---------------------------------------------------------------------------

namespace Options

variable {options : Options} {text : List Char}

/-- What is found in the tree, as if there were no cap. -/
def treeFindings (options : Options) (text : List Char) : List Finding :=
  (firstOfEach [] ((Session.fresh text options.rules options.cap none).treeReports
    options.trees)).map Report.finding

theorem treeFindings_code {finding : Finding} (h : finding ∈ options.treeFindings text) :
    finding.code = .missingReturn := by
  obtain ⟨report, hr, rfl⟩ := List.mem_map.mp h
  exact Session.treeReports_code (firstOfEach_sublist.subset hr)

theorem treeFindings_of_tree {root : SyntaxNode}
    (hon : options.rules.enabled .missingReturn = true) :
    { options with trees := some (.tree root) }.treeFindings text =
      (firstOfEach [] (Check.returnReports text [] root.walk)).map Report.finding := by
  simp [treeFindings, Session.treeReports, Session.fresh, hon, Document.ofText]

theorem treeFindings_of_no_tree {source : TreeSource} (h : ∀ root, source ≠ .tree root) :
    { options with trees := some source }.treeFindings text = [] := by
  cases source with
  | unavailable | broken => rfl
  | tree root => exact absurd rfl (h root)

theorem treeFindings_of_disabled (h : options.rules.enabled .missingReturn = false) :
    options.treeFindings text = [] := by
  unfold treeFindings Session.treeReports
  split
  · simp [Session.fresh, h, firstOfEach]
  · rfl

theorem allFindings_eq_append (options : Options) (text : List Char)
    (patterns : Option NamePatterns) :
    options.allFindings lineRules text patterns =
      options.treeFindings text ++
        { options with trees := none }.allFindings lineRules text patterns := by
  have hapart : ∀ one ∈ (Session.fresh text options.rules options.cap patterns).treeReports
      options.trees, ∀ other ∈ (Session.fresh text options.rules options.cap patterns).reports
        lineRules none, one.key ≠ other.key := by
    intro one hone other hother he
    have hcode : other.code = .missingReturn :=
      (congrArg Key.code he).symm.trans (Session.treeReports_code hone)
    exact Session.code_ne_of_mem_reports hother hcode
  unfold allFindings Options.reports
  rw [Session.reports_eq_append, firstOfEach_append_of_apart hapart, List.map_append]
  rfl

end Options

theorem Options.exists_isAmple (options : Options) (text : List Char) :
    ∃ cap, { options with cap }.IsAmple text := by
  cases hp : options.patterns with
  | error fault =>
    refine ⟨options.cap, fun cap _ => ?_⟩
    exact (analyze_eq_error hp options.trees cap).trans
      (analyze_eq_error hp options.trees options.cap).symm
  | ok patterns =>
    refine ⟨(options.allFindings lineRules text patterns).length, fun cap hc => ?_⟩
    have hc : ((options.allFindings lineRules text patterns).length : Int) ≤ cap := hc
    rw [analyze_eq_take hp, analyze_eq_take hp, List.take_of_length_le (by omega),
      List.take_of_length_le (by omega)]

/-- Whatever tree there is, and wherever the walk over it fails: the findings in the tree come
first, and the findings without a tree follow as they are. -/
theorem analyze_tree_findings_first (text : List Char) (options : Options) (source : TreeSource) :
    ∃ missing : List Finding,
      (∀ finding ∈ missing, finding.code = .missingReturn) ∧
      ((∀ root, source ≠ .tree root) ∨ options.rules.enabled .missingReturn = false →
        missing = []) ∧
      (∀ root, source = .tree root → options.rules.enabled .missingReturn = true →
        missing = (firstOfEach [] (Check.returnReports text [] root.walk)).map Report.finding) ∧
      (∃ ample, { options with trees := none, cap := ample }.IsAmple text) ∧
      ∀ n ample : Int, { options with trees := none, cap := ample }.IsAmple text →
        analyze text { options with trees := some source, cap := n } =
          (analyze text { options with trees := none, cap := ample }).map fun found =>
            (missing ++ found).take n.toNat := by
  refine ⟨{ options with trees := some source }.treeFindings text,
    fun finding hf => Options.treeFindings_code hf, ?_, ?_,
    Options.exists_isAmple { options with trees := none } text, ?_⟩
  · rintro (hnone | hoff)
    · exact Options.treeFindings_of_no_tree hnone
    · exact Options.treeFindings_of_disabled hoff
  · rintro root rfl hon
    exact Options.treeFindings_of_tree hon
  · intro n ample hample
    have hwith : { options with trees := some source, cap := n }.patterns = options.patterns := rfl
    have hwithout : { options with trees := none, cap := ample }.patterns = options.patterns := rfl
    rw [hample.analyze_eq, analyze_eq_map, hwith, hwithout]
    cases options.patterns with
    | error fault => rfl
    | ok patterns =>
      exact congrArg (fun found => Except.ok (found.take n.toNat))
        (Options.allFindings_eq_append { options with trees := some source, cap := n } text
          patterns)

/-- The walk ends at a node without a kind, between two functions that return nothing. The cap cuts
what is found without the tree. -/
theorem analyze_tree_findings_first_up_to_fault :
    let text := "function f() returns (uint) \x7b\x7d\nx = tx.origin".toList
    let body : SyntaxNode :=
      .node { kind := some (.text "function_body"), startByte := some (.int 28) } .missing [] []
    let function (row : Int) : SyntaxNode :=
      .node { kind := some (.text "function_definition"), startByte := some (.int 0)
              startPoint := some (.list [.int row, .int 0]) } body [] []
    let source : TreeSource := .tree
      (.node { kind := some (.text "source_file") } .missing
        [function 0, .node {} .missing [] [], function 1] [])
    let missing : Finding := ⟨"Missing return statement in function with return type.",
      .missingReturn, .error, ⟨⟨0, 0⟩, ⟨0, 1⟩⟩⟩
    ∃ origin semicolon dataType,
      analyze text {} = .ok [origin, semicolon, dataType] ∧
      analyze text { trees := some source, cap := 2 } = .ok [missing, origin] := by
  intro text body function source missing
  have hfound : (analyze text {}).toOption.map (·.map Finding.code) =
      some [.txOrigin, .missingSemicolon, .missingDataType] := by decide +kernel
  obtain ⟨found, hf, hcodes⟩ := Option.map_eq_some_iff.mp hfound
  obtain ⟨origin, rest, rfl, -, hrest⟩ := List.map_eq_cons_iff.mp hcodes
  obtain ⟨semicolon, rest, rfl, -, hrest⟩ := List.map_eq_cons_iff.mp hrest
  obtain ⟨dataType, rfl, -⟩ := List.map_eq_singleton_iff.mp hrest
  have hall : analyze text {} = .ok [origin, semicolon, dataType] := eq_ok_of_toOption hf
  have hample : Options.IsAmple {} text := Options.isAmple_of_not_reached (by decide +kernel)
  obtain ⟨first, -, -, htree, -, h⟩ := analyze_tree_findings_first text {} source
  have hfirst : first = [missing] := (htree _ rfl rfl).trans (by decide +kernel)
  refine ⟨origin, semicolon, dataType, hall, ?_⟩
  rw [h 2 defaultCap hample, hall, hfirst]
  rfl

-- ---------------------------------------------------------------------------
-- Passes that fail
-- ---------------------------------------------------------------------------

namespace Check

def reportOn? (text : List Char) (node : SyntaxNode) : Option Report :=
  (returnSighting? text node).toOption.join.bind Sighting.report?

def isSilent (text : List Char) (node : SyntaxNode) : Bool :=
  match returnSighting? text node with
  | .ok none => true
  | _ => false

/-- The report on the first of some nodes that is not silent. -/
def firstReport? (text : List Char) (nodes : List SyntaxNode) : Option Report :=
  (nodes.find? (!isSilent text ·)).bind (reportOn? text)

/-- Where no report was made yet, every sighting without one stops the pass. -/
theorem returnReports_eq_nil_iff (text : List Char) (nodes : List SyntaxNode) :
    returnReports text [] nodes = [] ↔ firstReport? text nodes = none := by
  induction nodes with
  | nil => exact iff_of_true rfl rfl
  | cons node nodes ih =>
    rw [returnReports, firstReport?, List.find?_cons]
    cases hs : returnSighting? text node with
    | error fault => simp [isSilent, reportOn?, hs, Except.toOption]
    | ok sighting? =>
      cases sighting? with
      | none =>
        simp only [isSilent, hs, Bool.not_true]
        exact ih
      | some sighting =>
        cases hr : sighting.report? with
        | some report => simp [isSilent, reportOn?, hs, hr, Except.toOption]
        | none => simp [isSilent, reportOn?, hs, hr, Except.toOption, Spot.isAmong]

end Check

namespace Session

/-- What a pass over a tree leaves of a session at a node at which it fails. -/
inductive FailsAt (session : Session) (node : SyntaxNode) : Session → Prop
  | fault {fault : TreeFault} :
    Check.returnSighting? session.document.text node = .error fault → FailsAt session node session
  | unfit {sighting : Sighting} :
    Check.returnSighting? session.document.text node = .ok (some sighting) →
    sighting.report? = none → session.sink.isFull = false →
    session.sink.knows sighting.spot = false →
    FailsAt session node (session.refuse [sighting.spot])

/-- The pass fails at the first node, or pushes the report on it and goes on. -/
theorem lookAt_cons (session : Session) (node : SyntaxNode) (nodes : List SyntaxNode) :
    session.FailsAt node (session.lookAt (node :: nodes)).1 ∨
      let report? := Check.reportOn? session.document.text node
      let later := (session.pushAll report?.toList).lookAt nodes
      (Check.returnSighting? session.document.text node).isOk ∧
        (session.lookAt (node :: nodes)).1 = later.1 ∧
        (session.lookAt (node :: nodes)).2.isOk = later.2.isOk := by
  cases hs : Check.returnSighting? session.document.text node with
  | error fault =>
    rw [lookAt_of_fault hs]
    exact .inl (.fault hs)
  | ok sighting? =>
    cases sighting? with
    | none =>
      have hreport : Check.reportOn? session.document.text node = none := by
        simp [Check.reportOn?, hs, Except.toOption]
      rw [lookAt_of_none hs, hreport]
      exact .inr ⟨rfl, rfl, rfl⟩
    | some sighting =>
      have hreport : Check.reportOn? session.document.text node = sighting.report? := by
        simp [Check.reportOn?, hs, Except.toOption]
      cases hr : sighting.report? with
      | some report =>
        rw [lookAt_of_report hs hr, hreport, hr]
        refine .inr ⟨rfl, rfl, ?_⟩
        change (((session.push report).lookAt nodes).2.map _).isOk =
          ((session.push report).lookAt nodes).2.isOk
        cases ((session.push report).lookAt nodes).2 <;> rfl
      | none =>
        by_cases hpassed : session.sink.isFull = true ∨ session.sink.knows sighting.spot = true
        · rw [lookAt_of_passedOver hs hpassed, hreport, hr]
          exact .inr ⟨rfl, rfl, rfl⟩
        · rw [not_or, Bool.not_eq_true, Bool.not_eq_true] at hpassed
          rw [lookAt_of_unfit hs hr hpassed.1 hpassed.2]
          exact .inl (.unfit hs hr hpassed.1 hpassed.2)

theorem lookAt_failed {session : Session} {nodes : List SyntaxNode}
    (h : (session.lookAt nodes).2.isOk = false) :
    ∃ before node after, nodes = before ++ node :: after ∧
      (∀ earlier ∈ before, (Check.returnSighting? session.document.text earlier).isOk) ∧
      (session.pushAll (before.filterMap (Check.reportOn? session.document.text))).FailsAt node
        (session.lookAt nodes).1 := by
  induction nodes generalizing session with
  | nil => cases h
  | cons node nodes ih =>
    rcases lookAt_cons session node nodes with hfails | ⟨hok, hleft, hresult⟩
    · exact ⟨[], node, nodes, rfl, List.forall_mem_nil _, hfails⟩
    · obtain ⟨before, stop, after, rfl, hbefore, hstop⟩ := ih (hresult.symm.trans h)
      refine ⟨node :: before, stop, after, rfl, List.forall_mem_cons.mpr ⟨hok, hbefore⟩, ?_⟩
      rw [hleft]
      cases hr : Check.reportOn? session.document.text node with
      | none =>
        rw [hr] at hstop
        rwa [List.filterMap_cons_none hr]
      | some report =>
        rw [hr] at hstop
        rwa [List.filterMap_cons_some hr]

theorem FailsAt.findings_eq {session left : Session} {node : SyntaxNode}
    (h : session.FailsAt node left) : left.sink.findings = session.sink.findings := by
  cases h <;> rfl

theorem FailsAt.sink_eq_iff {session left : Session} {reports : List Report} {node : SyntaxNode}
    (h : (session.pushAll reports).FailsAt node left) :
    left.sink = session.sink ↔
      (Check.returnSighting? session.document.text node).isOk = false ∧
        (session.sink.isFull = true ∨ ∀ report ∈ reports, report.key ∈ session.sink.keys) := by
  cases h with
  | @fault fault hs =>
    have hfault : (Check.returnSighting? session.document.text node).isOk = false :=
      congrArg Except.isOk hs
    exact Sink.pushAll_eq_self_iff.trans (iff_and_self.mpr fun _ => hfault)
  | @unfit sighting hs hr hf hk =>
    have hok : (Check.returnSighting? session.document.text node).isOk = true :=
      congrArg Except.isOk hs
    refine iff_of_false (fun hsame => ?_) fun hfault => ?_
    · have hrefused : (session.sink.pushAll reports).refused ++ [sighting.spot] =
          session.sink.refused := congrArg Sink.refused hsame
      rw [Sink.pushAll_refused] at hrefused
      exact List.cons_ne_nil _ _ (List.append_right_eq_self.mp hrefused)
    · cases hok.symm.trans hfault.1

end Session

theorem Session.assist_failed {session : Session} {source : TreeSource}
    (h : (session.assist source).2 = false) :
    ((∀ root, source ≠ .tree root) ∧ (session.assist source).1 = session) ∨
    ∃ root before node after, source = .tree root ∧
      session.rules.enabled .missingReturn = true ∧ root.walk = before ++ node :: after ∧
      (∀ earlier ∈ before, (Check.returnSighting? session.document.text earlier).isOk) ∧
      (session.pushAll (before.filterMap (Check.reportOn? session.document.text))).FailsAt node
        (session.assist source).1 := by
  cases source with
  | unavailable | broken => exact .inl ⟨by simp, rfl⟩
  | tree root =>
    simp only [assist, collectReturns_eq] at h ⊢
    cases hon : session.rules.enabled .missingReturn with
    | false => simp [hon] at h
    | true =>
      simp only [hon, if_true] at h ⊢
      obtain ⟨before, node, after, hwalk, hbefore, hnode⟩ := lookAt_failed h
      exact .inr ⟨root, before, node, after, rfl, trivial, hwalk, hbefore, hnode⟩

section
variable {options : Options} {text : List Char} {source : TreeSource}

theorem analyze_eq_without_tree_iff {patterns : Option NamePatterns}
    (hp : options.patterns = .ok patterns) :
    (∀ n : Int, analyze text { options with trees := some source, cap := n } =
      analyze text { options with trees := none, cap := n }) ↔
      { options with trees := some source }.treeFindings text = [] := by
  have hwith : { options with trees := some source }.patterns = .ok patterns := hp
  have hwithout : { options with trees := none }.patterns = .ok patterns := hp
  have hanalyze : ∀ n : Int, analyze text { options with trees := some source, cap := n } =
      .ok (({ options with trees := some source }.treeFindings text ++
        { options with trees := none }.allFindings lineRules text patterns).take n.toNat) := by
    intro n
    have happend :=
      Options.allFindings_eq_append { options with trees := some source } text patterns
    rw [← happend]
    exact analyze_eq_take hwith n
  constructor
  · intro h
    -- A cap that cuts nothing shows both lists as they are.
    have hall := h ({ options with trees := some source }.treeFindings text ++
      { options with trees := none }.allFindings lineRules text patterns).length
    rw [hanalyze, analyze_eq_take hwithout] at hall
    have hlength := congrArg List.length (Except.ok.inj hall)
    simp only [List.length_take, List.length_append, Int.toNat_natCast] at hlength
    exact List.eq_nil_of_length_eq_zero (by omega)
  · intro h n
    rw [hanalyze, analyze_eq_take hwithout, h]
    rfl

end

/-- A pass without a tree leaves nothing behind, and analyses are those without a tree. A pass that
fails at a node leaves the reports on the nodes before it, as far as the sink has room for them and
does not know them. If it fails since no finding can be made of what is seen, it also leaves the key
of the sighting. Analyses are those without a tree only if no report is made before that. -/
theorem assist_failed_keeps_earlier (session : Session) (source : TreeSource)
    (h : (session.assist source).2 = false) :
    ((∀ root, source ≠ .tree root) ∧ (session.assist source).1 = session ∧
      ∀ (text : List Char) (options : Options) (n : Int),
        analyze text { options with trees := some source, cap := n } =
          analyze text { options with trees := none, cap := n }) ∨
    ∃ root before node after kept, source = .tree root ∧
      session.rules.enabled .missingReturn = true ∧ root.walk = before ++ node :: after ∧
      (∀ earlier ∈ before, (Check.returnSighting? session.document.text earlier).isOk) ∧
      kept = before.filterMap (Check.reportOn? session.document.text) ∧
      (session.pushAll kept).FailsAt node (session.assist source).1 ∧
      ((session.assist source).1.sink = session.sink ↔
        (Check.returnSighting? session.document.text node).isOk = false ∧
          (session.sink.isFull = true ∨ ∀ report ∈ kept, report.key ∈ session.sink.keys)) ∧
      ∀ options : Options, options.rules.enabled .missingReturn = true →
        options.patterns.isOk →
          ((∀ n : Int,
            analyze session.document.text { options with trees := some source, cap := n } =
              analyze session.document.text { options with trees := none, cap := n }) ↔
            Check.firstReport? session.document.text root.walk = none) := by
  rcases Session.assist_failed h with ⟨hnone, hsame⟩ |
    ⟨root, before, node, after, rfl, hon, hwalk, hbefore, hnode⟩
  · refine .inl ⟨hnone, hsame, fun text options n => ?_⟩
    cases hp : options.patterns with
    | error fault => rw [analyze_eq_error hp, analyze_eq_error hp]
    | ok patterns =>
      exact (analyze_eq_without_tree_iff hp).mpr (Options.treeFindings_of_no_tree hnone) n
  · refine .inr ⟨root, before, node, after, _, rfl, hon, hwalk, hbefore, rfl, hnode, ?_,
      fun options hrule hok => ?_⟩
    · exact hnode.sink_eq_iff
    · obtain ⟨patterns, hp⟩ := exists_of_isOk hok
      rw [analyze_eq_without_tree_iff hp, Options.treeFindings_of_tree hrule, List.map_eq_nil_iff,
        firstOfEach_eq_nil_iff, ← Check.returnReports_eq_nil_iff, List.eq_nil_iff_forall_not_mem]
      simp only [List.not_mem_nil, imp_false]

/-- A function that returns nothing, and one that has no body but a child that is missing. -/
def treeWithMissingChild : TreeSource :=
  let body : SyntaxNode :=
    .node { kind := some (.text "function_body"), startByte := some (.int 28) } .missing [] []
  .tree (.node { kind := some (.text "source_file") } .missing
    [.node { kind := some (.text "function_definition"), startByte := some (.int 0)
             startPoint := some (.list [.int 0, .int 0]) } body [] [],
      .node { kind := some (.text "function_definition") } .missing [.missing] []] [])

/-- The pass fails at the second function, and the finding on the first one stays. A function on row
7.5 leaves its key without a finding. -/
theorem assist_failed_leaves_finding :
    let text := "function f() returns (uint) \x7b\x7d".toList
    let session := Session.fresh text .allOn defaultCap none
    let missing : Finding := ⟨"Missing return statement in function with return type.",
      .missingReturn, .error, ⟨⟨0, 0⟩, ⟨0, 1⟩⟩⟩
    let body : SyntaxNode :=
      .node { kind := some (.text "function_body"), startByte := some (.int 28) } .missing [] []
    let stray : TreeSource := .tree
      (.node { kind := some (.text "function_definition"), startByte := some (.int 0)
               startPoint := some (.list [.real (.finite false 15 (-1)), .int 0]) } body [] [])
    (session.assist treeWithMissingChild).2 = false ∧ session.sink.reported = [] ∧
      (session.assist treeWithMissingChild).1.sink.findings = [missing] ∧
      analyze text { rules := .only [.missingReturn], trees := some treeWithMissingChild } =
        .ok [missing] ∧
      analyze text { rules := .only [.missingReturn] } = .ok [] ∧
      (session.assist stray).2 = false ∧ (session.assist stray).1.sink.findings = [] ∧
      (session.assist stray).1.sink.reported.length = 1 := by
  refine ⟨by decide +kernel, rfl, by decide +kernel, ?_, ?_, by decide +kernel, by decide +kernel,
    by decide +kernel⟩
  · exact eq_ok_of_toOption (by decide +kernel)
  · exact eq_ok_of_toOption (by decide +kernel)

theorem assist_failed_keeps_earlier_function :
    let text := "function f() returns (uint) \x7b\x7d".toList
    let session := Session.fresh text .allOn defaultCap none
    (session.assist treeWithMissingChild).2 = false ∧ ∃ kept node, kept ≠ [] ∧
      (session.pushAll kept).FailsAt node (session.assist treeWithMissingChild).1 ∧
      ¬∀ n : Int, analyze text { trees := some treeWithMissingChild, cap := n } =
        analyze text { trees := none, cap := n } := by
  intro text session
  have hfailed : (session.assist treeWithMissingChild).2 = false := by decide +kernel
  refine ⟨hfailed, ?_⟩
  rcases assist_failed_keeps_earlier session treeWithMissingChild hfailed with ⟨hnone, -⟩ |
    ⟨root, before, node, after, kept, hroot, -, -, -, -, hfails, -, hanalyze⟩
  · exact absurd rfl (hnone _)
  · refine ⟨kept, node, ?_, hfails, mt (hanalyze {} rfl rfl).mp ?_⟩
    · rintro rfl
      have hfound : (session.assist treeWithMissingChild).1.sink.findings ≠ [] := by decide +kernel
      exact hfound hfails.findings_eq
    · obtain rfl := TreeSource.tree.inj hroot
      decide +kernel

end SolidityLint
