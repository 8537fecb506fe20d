import SolidityLint.Analysis
import SolidityLint.Proofs.Line
import SolidityLint.Proofs.Sightings

/-!
# The reports of an analysis

Rules read the document and the names that were met before, and never look at the sink. So the
reports of a run can be listed without a sink (`Session.reports`), and the findings of an analysis
are what a sink keeps of this list (`analyzeWith_eq`).
-/

namespace SolidityLint

-- ---------------------------------------------------------------------------
-- Rules and lines
-- ---------------------------------------------------------------------------

def Rule.outcome (rule : Rule) (scope : Scope) (names : Names) (here : Context) : Outcome :=
  match rule.check scope names here with
  | .ok outcome => outcome
  | .error _ => { names }

def rulesOutcome (scope : Scope) (here : Context) : List Rule → Names → Outcome
  | [], names => { names }
  | rule :: rules, names =>
    let first := rule.outcome scope names here
    let later := rulesOutcome scope here rules first.names
    { marks := first.marks ++ later.marks, names := later.names }

theorem rulesOutcome_append (scope : Scope) (here : Context) (first second : List Rule)
    (names : Names) :
    rulesOutcome scope here (first ++ second) names =
      let earlier := rulesOutcome scope here first names
      let later := rulesOutcome scope here second earlier.names
      { marks := earlier.marks ++ later.marks, names := later.names } := by
  induction first generalizing names with
  | nil => rfl
  | cons rule rules ih => simp [rulesOutcome, ih]

def linesReports (scope : Scope) (rules : List Rule) (row : Nat) :
    List Context → Names → List Report
  | [], _ => []
  | here :: rest, names =>
    let outcome := rulesOutcome scope here rules names
    outcome.marks.map (·.report row) ++ linesReports scope rules (row + 1) rest outcome.names

theorem linesReports_le {scope : Scope} {rules : List Rule} {row : Nat} {contexts : List Context}
    {names : Names} {report : Report} (h : report ∈ linesReports scope rules row contexts names) :
    row ≤ report.line := by
  induction contexts generalizing row names with
  | nil => cases h
  | cons here rest ih =>
    rcases List.mem_append.mp h with h | h
    · obtain ⟨mark, -, rfl⟩ := List.mem_map.mp h
      exact Int.le_refl _
    · have hle := ih h
      omega

theorem exists_filter_linesReports {scope : Scope} {rules : List Rule} {k : Nat}
    {contexts : List Context} {here : Context} (hk : contexts[k]? = some here) (row : Nat)
    (names : Names) :
    ∃ known, (linesReports scope rules row contexts names).filter
        (·.line = ((row + k : Nat) : Int)) =
      (rulesOutcome scope here rules known).marks.map (·.report (row + k : Nat)) := by
  induction contexts generalizing k row names with
  | nil => cases hk
  | cons first rest ih =>
    simp only [linesReports, List.filter_append]
    cases k with
    | zero =>
      cases hk
      refine ⟨names, ?_⟩
      have hlater : (linesReports scope rules (row + 1) rest
          (rulesOutcome scope here rules names).names).filter
            (·.line = ((row + 0 : Nat) : Int)) = [] := by
        refine List.filter_eq_nil_iff.mpr fun report hr => ?_
        have hle := linesReports_le hr
        simp only [decide_eq_true_eq]
        omega
      rw [hlater, List.append_nil]
      refine List.filter_eq_self.mpr fun report hr => ?_
      obtain ⟨mark, -, rfl⟩ := List.mem_map.mp hr
      exact decide_eq_true rfl
    | succ k =>
      obtain ⟨known, hknown⟩ := ih hk (row + 1) (rulesOutcome scope first rules names).names
      rw [Nat.add_right_comm] at hknown
      refine ⟨known, ?_⟩
      have hhere : ((rulesOutcome scope first rules names).marks.map (·.report row)).filter
          (·.line = ((row + (k + 1) : Nat) : Int)) = [] := by
        refine List.filter_eq_nil_iff.mpr fun report hr => ?_
        obtain ⟨mark, -, rfl⟩ := List.mem_map.mp hr
        have hne : (row : Int) ≠ ((row + (k + 1) : Nat) : Int) := by omega
        exact fun he => hne (of_decide_eq_true he)
      rw [hhere, List.nil_append]
      exact hknown

section
variable {scope : Scope} {rules : List Rule} {here : Context} {names : Names}

theorem exists_rule_of_mem_rulesOutcome {mark : Mark}
    (h : mark ∈ (rulesOutcome scope here rules names).marks) :
    ∃ rule ∈ rules, ∃ known, mark ∈ (rule.outcome scope known here).marks := by
  induction rules generalizing names with
  | nil => cases h
  | cons rule rules ih =>
    rcases List.mem_append.mp h with h | h
    · exact ⟨rule, List.mem_cons_self, names, h⟩
    · obtain ⟨later, hl, known, hm⟩ := ih h
      exact ⟨later, List.mem_cons_of_mem _ hl, known, hm⟩

theorem exists_mark_of_mem_linesReports {row : Nat} {contexts : List Context} {report : Report}
    (h : report ∈ linesReports scope rules row contexts names) :
    ∃ (k : Nat) (here : Context), contexts[k]? = some here ∧
      ∃ rule ∈ rules, ∃ known, ∃ mark ∈ (rule.outcome scope known here).marks,
        report = mark.report (row + k : Nat) := by
  induction contexts generalizing row names with
  | nil => cases h
  | cons here rest ih =>
    rcases List.mem_append.mp h with h | h
    · obtain ⟨mark, hm, rfl⟩ := List.mem_map.mp h
      obtain ⟨rule, hr, known, hk⟩ := exists_rule_of_mem_rulesOutcome hm
      exact ⟨0, here, rfl, rule, hr, known, mark, hk, rfl⟩
    · obtain ⟨k, other, hk, rule, hr, known, mark, hm, rfl⟩ := ih h
      refine ⟨k + 1, other, hk, rule, hr, known, mark, hm, ?_⟩
      rw [Nat.add_right_comm]
      rfl

end

theorem Check.braceReports_code {lines : List Line} {report : Report}
    (h : report ∈ braceReports lines) : report.code = .missingBraces := by
  rcases List.mem_append.mp h with h | h
  all_goals
    obtain ⟨place, -, rfl⟩ := Option.map_eq_some_iff.mp (Option.mem_toList.mp h)
    rfl

namespace Session

variable {index : Int} {here : Context}

theorem record_record (session : Session) (index : Int) (first second : Outcome) :
    (session.record index first).record index second =
      session.record index { marks := first.marks ++ second.marks, names := second.names } := by
  simp [record, Sink.pushAll_append]

theorem apply_eq (session : Session) (rule : Rule) :
    session.apply index here rule =
      session.record index (rule.outcome session.scope session.names here) := by
  unfold apply Rule.outcome
  cases rule.check session.scope session.names here <;> rfl

theorem applyAll_eq (session : Session) (rules : List Rule) :
    session.applyAll index here rules =
      session.record index (rulesOutcome session.scope here rules session.names) := by
  induction rules generalizing session with
  | nil => rfl
  | cons rule rules ih =>
    have hstep : session.applyAll index here (rule :: rules) =
        (session.apply index here rule).applyAll index here rules := rfl
    rw [hstep, ih, apply_eq, record_record]
    rfl

/-- Leaving the loop at a full sink drops only reports that the sink would have refused. -/
theorem applyLines_sink (session : Session) (rules : List Rule) (row : Nat)
    (contexts : List Context) :
    (session.applyLines rules row contexts).sink =
      session.sink.pushAll (linesReports session.scope rules row contexts session.names) := by
  induction contexts generalizing session row with
  | nil => rfl
  | cons here rest ih =>
    cases hf : session.sink.isFull with
    | true =>
      rw [Sink.pushAll_of_isFull hf]
      simp [applyLines, hf]
    | false =>
      simp only [applyLines, hf, Bool.false_eq_true, ↓reduceIte]
      rw [ih, applyAll_eq, linesReports, Sink.pushAll_append]
      rfl

-- ---------------------------------------------------------------------------
-- Whole runs
-- ---------------------------------------------------------------------------

def treeReports (session : Session) : Option TreeSource → List Report
  | some (.tree root) =>
    if session.rules.enabled .missingReturn then
      Check.returnReports session.document.text [] root.walk
    else []
  | _ => []

def braceReports (session : Session) : List Report :=
  if session.rules.enabled .missingBraces then Check.braceReports session.document.lines else []

/-- All reports of an analysis in order, whether or not they are kept. -/
def reports (table : List Rule) (trees : Option TreeSource) (session : Session) : List Report :=
  session.treeReports trees ++ session.braceReports ++
    linesReports session.scope (table.filter (session.rules.enabled ·.switch)) 0
      (Context.each session.document.lines) session.names

theorem collectReturns_eq (session : Session) (root : SyntaxNode) :
    session.collectReturns root = session.lookAt root.walk := by
  rw [collectReturns, SyntaxNode.traverse_eq_walk]

theorem assistIf_eq {session : Session} (h : session.sink.reported = [])
    (trees : Option TreeSource) :
    ∃ stray, (∀ spot ∈ stray, spot.IsStray session.document.text) ∧
      session.assistIf trees = (session.pushAll (session.treeReports trees)).refuse stray := by
  have hnothing : ∃ stray, (∀ spot ∈ stray, Spot.IsStray session.document.text spot) ∧
      session = (session.pushAll []).refuse stray :=
    ⟨[], List.forall_mem_nil _, (refuse_nil session).symm⟩
  match trees with
  | none | some .unavailable | some .broken => exact hnothing
  | some (.tree root) =>
    simp only [assistIf, assist, treeReports]
    split
    · rw [collectReturns_eq]
      exact session.lookAt_eq root.walk [] fun _ spot => by rw [h]
    · exact hnothing

theorem assistIf_eq_with_sink (session : Session) (trees : Option TreeSource) :
    session.assistIf trees = { session with sink := (session.assistIf trees).sink } := by
  match trees with
  | none | some .unavailable | some .broken => rfl
  | some (.tree root) =>
    simp only [assistIf, assist]
    split
    · obtain ⟨stray, -, hleft⟩ :=
        session.lookAt_eq root.walk session.sink.reported fun _ _ => Iff.rfl
      rw [collectReturns_eq, hleft]
      rfl
    · rfl

theorem checkBracesIf_eq (session : Session) :
    session.checkBracesIf = session.pushAll session.braceReports := by
  simp only [checkBracesIf, checkBraces, braceReports]
  split <;> rfl

def fresh (text : List Char) (rules : Rules) (cap : Int) (patterns : Option NamePatterns) :
    Session where
  document := .ofText text
  rules
  sink := .ofCap cap
  scope := { movesValue := (Document.ofText text).movesValue, naming := patterns }

theorem start_eq (text : List Char) (rules : Rules) (cap : Int) (naming : Option Naming)
    (fits : List Char → Bool) :
    start text rules cap naming fits =
      (naming.mapM (Naming.patterns fits)).map (fresh text rules cap) := by
  unfold start
  cases naming.mapM (Naming.patterns fits) <;> rfl

theorem exists_fresh_of_start {text : List Char} {rules : Rules} {cap : Int}
    {naming : Option Naming} {fits : List Char → Bool} {session : Session}
    (h : start text rules cap naming fits = .ok session) :
    ∃ patterns, naming.mapM (Naming.patterns fits) = .ok patterns ∧
      session = fresh text rules cap patterns := by
  rw [start_eq] at h
  cases hp : naming.mapM (Naming.patterns fits) with
  | error fault =>
    rw [hp] at h
    cases h
  | ok patterns =>
    rw [hp] at h
    cases h
    exact ⟨patterns, rfl, rfl⟩

/-- Reports on braces and on lines have no key that a pass over a tree has left without a
finding. -/
theorem key_ne_of_isStray {text : List Char} {spot : Spot} (h : spot.IsStray text)
    {report : Report} {rules : List Rule} {session : Session}
    (hlines : session.document = .ofText text)
    (hr : report ∈ session.braceReports ++
      linesReports session.scope rules 0 (Context.each session.document.lines) session.names) :
    report.key.spot ≠ spot := by
  refine h.ne_spot ?_
  rcases List.mem_append.mp hr with hr | hr
  · unfold braceReports at hr
    split at hr
    · refine .inl fun hcode => ?_
      cases (Check.braceReports_code hr).symm.trans hcode
    · cases hr
  · obtain ⟨k, here, hk, rule, -, known, mark, -, rfl⟩ := exists_mark_of_mem_linesReports hr
    rw [hlines, Context.each_getElem?] at hk
    obtain ⟨line, hline, -⟩ := Option.map_eq_some_iff.mp hk
    obtain ⟨stop, hrow⟩ := exists_rows_getElem? hline
    obtain ⟨hlt, -⟩ := List.getElem?_eq_some_iff.mp hrow
    refine .inr ?_
    change ((0 + k : Nat) : Int) < _
    omega

theorem analyze_fresh_findings (text : List Char) (rules : Rules) (cap : Int)
    (patterns : Option NamePatterns) (table : List Rule) (trees : Option TreeSource) :
    ((fresh text rules cap patterns).analyze table trees).sink.findings =
      ((Sink.ofCap cap).pushAll
        ((fresh text rules cap patterns).reports table trees)).findings := by
  obtain ⟨stray, hstray, hassist⟩ :=
    @assistIf_eq (fresh text rules cap patterns) rfl trees
  have hsink : ((fresh text rules cap patterns).analyze table trees).sink =
      (((Sink.ofCap cap).pushAll ((fresh text rules cap patterns).treeReports trees)).refuse
        stray).pushAll ((fresh text rules cap patterns).braceReports ++
          linesReports (fresh text rules cap patterns).scope (table.filter (rules.enabled ·.switch))
            0 (Context.each (fresh text rules cap patterns).document.lines) {}) := by
    rw [analyze, applyLines_sink, hassist, checkBracesIf_eq, Sink.pushAll_append]
    rfl
  rw [reports, List.append_assoc, Sink.pushAll_append, hsink]
  refine Sink.findings_refuse_pushAll fun report hr hspot => ?_
  exact key_ne_of_isStray (hstray _ hspot) rfl hr rfl

end Session

/-- The reports of an analysis with these naming patterns. The cap has no part in them. -/
def Options.reports (options : Options) (table : List Rule) (text : List Char)
    (patterns : Option NamePatterns) : List Report :=
  (Session.fresh text options.rules options.cap patterns).reports table options.trees

/-- All findings of an analysis with these naming patterns, as if there were no cap. -/
def Options.allFindings (options : Options) (table : List Rule) (text : List Char)
    (patterns : Option NamePatterns) : List Finding :=
  (firstOfEach [] (options.reports table text patterns)).map Report.finding

theorem Options.filter_allFindings (options : Options) (table : List Rule) (text : List Char)
    (patterns : Option NamePatterns) (p : Key → Bool) :
    (options.allFindings table text patterns).filter (p ·.key) =
      (firstOfEach [] ((options.reports table text patterns).filter (p ·.key))).map
        Report.finding := by
  have hkept := filter_firstOfEach p [] (options.reports table text patterns)
  rw [List.filter_nil] at hkept
  rw [allFindings, List.filter_map, ← hkept]
  rfl

theorem analyzeWith_eq (table : List Rule) (text : List Char) (options : Options) :
    analyzeWith table text options =
      options.patterns.map fun patterns =>
        (options.allFindings table text patterns).take options.cap.toNat := by
  rw [analyzeWith, Session.start_eq, Options.patterns]
  cases options.naming.mapM (Naming.patterns options.fits) with
  | error fault => rfl
  | ok patterns =>
    simp only [Except.map, bind, Except.bind, pure, Except.pure, Session.analyze_fresh_findings]
    rw [Options.allFindings, ← Sink.ofCap_pushAll_findings]
    rfl

end SolidityLint
