import SolidityLint.Proofs.Pattern.Numbering
import SolidityLint.Proofs.Strict
import SolidityLint.Proofs.WrongNames

/-!
# When a check fails

Nothing that a check looks at is ever missing (`Proofs.Strict`), and still a check can fail: one
that compares a name with a pattern does, if the match that the pattern has in the name has crossed
groups. There is no other way to fail, and none at all unless something longer than a character is
repeated possessively. A name with crossed groups has a match, so there would have been nothing to
say about it, and an analysis that goes on behind such a failure has lost nothing
(`checks_fail_only_by_crossed_groups`).
-/

namespace SolidityLint

open Text

-- ---------------------------------------------------------------------------
-- Matches that cannot be given back
-- ---------------------------------------------------------------------------

namespace Expression

variable {expression : Expression} {text : List Char}

/-- The match that a search comes to, whether or not it can be given back. -/
def found? (expression : Expression) (text : List Char) : Option Match :=
  if text.length < expression.least then none
  else expression.searchFrom? text.length 0 [] text

def crosses (expression : Expression) (text : List Char) : Bool :=
  (expression.found? text).any (·.marks.areCrossed)

theorem search_eq (expression : Expression) (text : List Char) :
    expression.search text =
      if expression.crosses text then .error .crossedGroup else .ok (expression.found? text) := by
  unfold search crosses found?
  split
  · rfl
  · cases expression.searchFrom? text.length 0 [] text <;> rfl

theorem exists_matchAt?_of_searchFrom? {length pos : Nat} {before after : List Char}
    {found : Match} (h : expression.searchFrom? length pos before after = some found) :
    ∃ a, expression.pattern.matchAt? a = some found := by
  have hplace {a : Place} (h : expression.matchAt? length a = some found) :
      ∃ a, expression.pattern.matchAt? a = some found := by
    unfold Expression.matchAt? at h
    split at h
    · exact ⟨a, h⟩
    · cases h
  induction after generalizing pos before with
  | nil => exact hplace h
  | cons c after ih =>
    unfold searchFrom? at h
    split at h
    · rename_i hm
      exact hplace (hm.trans h)
    · exact ih h

/-- Groups of a pattern that was read cross only behind a possessive repeat of more than a
character. -/
theorem crosses_of_isYielding {written : List Char} (hread : parse written = .ok expression)
    (h : expression.pattern.isYielding = true) (text : List Char) :
    expression.crosses text = false := by
  unfold crosses found?
  split
  · rfl
  · cases hs : expression.searchFrom? text.length 0 [] text with
    | none => rfl
    | some found =>
      obtain ⟨a, hm⟩ := exists_matchAt?_of_searchFrom? hs
      exact Pattern.matchAt?_areCrossed (lastGroup?_of_parse hread) h hm

end Expression

-- ---------------------------------------------------------------------------
-- Names
-- ---------------------------------------------------------------------------

def Text.soleName? (segment : List Char) : Option (List Char) :=
  let text := trimStart segment
  let name := leadingName text
  if name.isEmpty || !(trim (text.drop name.length)).isEmpty then none else some name

section
variable {segment name : List Char} (offset : Nat) (pattern : Expression) (code : Code)
  (label : String)

theorem Check.nameMarks_of_not_soleName (h : soleName? segment = none) :
    let text := trimStart segment
    let first := offset + (segment.length - text.length)
    nameMarks offset segment pattern code label =
      .ok [⟨⟨first, first + max 1 (leadingName text).length⟩,
        "Invalid " ++ label ++ " identifier.", code⟩] := by
  unfold soleName? at h
  dsimp only at h ⊢
  rw [nameMarks]
  dsimp only
  cases hname : leadingName (trimStart segment) with
  | nil => rfl
  | cons c rest =>
    rw [hname] at h
    cases hmore : (trim ((trimStart segment).drop (c :: rest).length)).isEmpty with
    | true =>
      rw [hmore] at h
      cases h
    | false =>
      have hwidth : max 1 (c :: rest).length = (c :: rest).length :=
        Nat.max_eq_right (Nat.succ_le_succ (Nat.zero_le _))
      dsimp only
      rw [hmore, hwidth]
      rfl

theorem Check.nameMarks_of_soleName (h : soleName? segment = some name) :
    let first := offset + (segment.length - (trimStart segment).length)
    nameMarks offset segment pattern code label =
      ((pattern.search name).mapError Fault.matching).map fun found? =>
        if found?.isSome then []
        else [⟨⟨first, first + name.length⟩,
          "Invalid " ++ label ++ " identifier '" ++ String.ofList name ++ "'.", code⟩] := by
  unfold soleName? at h
  dsimp only at h ⊢
  rw [nameMarks]
  dsimp only
  cases hname : leadingName (trimStart segment) with
  | nil =>
    rw [hname] at h
    cases h
  | cons c rest =>
    rw [hname] at h
    cases hmore : (trim ((trimStart segment).drop (c :: rest).length)).isEmpty with
    | true =>
      rw [hmore] at h
      cases h
      dsimp only
      rw [hmore]
      cases pattern.search (c :: rest) with
      | error fault => rfl
      | ok found? => cases found? <;> rfl
    | false =>
      rw [hmore] at h
      cases h

end

structure NameTask where
  kind : NameKind
  pattern : Expression
  offset : Nat
  segment : List Char

namespace NameTask

def marks (task : NameTask) : Except Fault (List Mark) :=
  Check.nameMarks task.offset task.segment task.pattern task.kind.code task.kind.label

def crosses (task : NameTask) : Bool :=
  (soleName? task.segment).any task.pattern.crosses

/-- What is to be said about the name, whatever the groups of the match are. -/
def verdict (task : NameTask) : List Mark :=
  let text := trimStart task.segment
  let first := task.offset + (task.segment.length - text.length)
  match soleName? task.segment with
  | none =>
    [⟨⟨first, first + max 1 (leadingName text).length⟩, task.kind.message none, task.kind.code⟩]
  | some name =>
    if (task.pattern.found? name).isSome then []
    else [⟨⟨first, first + name.length⟩, task.kind.message (some name), task.kind.code⟩]

theorem verdict_of_crosses {task : NameTask} (h : task.crosses = true) : task.verdict = [] := by
  obtain ⟨name, hname, hcrosses⟩ := (Option.any_eq_true _ _).mp h
  obtain ⟨found, hfound, -⟩ := (Option.any_eq_true _ _).mp hcrosses
  unfold verdict
  simp only [hname, hfound, Option.isSome_some, if_true]

theorem marks_eq (task : NameTask) :
    task.marks =
      if task.crosses then .error (.matching .crossedGroup) else .ok task.verdict := by
  unfold marks crosses verdict
  cases h : soleName? task.segment with
  | none => exact Check.nameMarks_of_not_soleName _ _ _ _ h
  | some name =>
    rw [Check.nameMarks_of_soleName _ _ _ _ h, Expression.search_eq, Option.any_some]
    cases task.pattern.crosses name <;> rfl

end NameTask

-- ---------------------------------------------------------------------------
-- Checks
-- ---------------------------------------------------------------------------

namespace LineCheck

def nameField? (line : Line) : LineCheck → Option (Nat × List Char)
  | .functionNaming =>
    ((Check.functionDeclaration.search? line.code).bind (·.group? 1)).map fun span =>
      (span.start, span.of line.code)
  | .variableNaming =>
    if Check.declaresVariable line.trimmedCode then
      ((tokens (Line.maskMappings line.code)).tail.find? (Check.startsVariable line.code)).map
        fun token => (token.offset, Check.variableSegment line.code token.offset)
    else none
  | .contractNaming =>
    ((Check.contractDeclaration.search? line.code).bind (·.group? 1)).map fun span =>
      (span.start, Check.beforeInheritance (span.of line.code))
  | _ => none

def nameTask? (naming : Option NamePatterns) (line : Line) (check : LineCheck) :
    Option NameTask := do
  let kind ← check.nameKind? line
  let pattern ← naming.bind (·.read? kind)
  (check.nameField? line).map fun (offset, segment) => { kind, pattern, offset, segment }

variable {check : LineCheck} {scope : Scope} {names : Names} {here : Context}

theorem judge_of_nameKind? {kind : NameKind} (hkind : check.nameKind? here.line = some kind) :
    check.judge scope names here =
      (check.nameTask? scope.naming here.line).elim (.ok { names }) fun task =>
        task.marks.map fun marks => { marks, names } := by
  have htask : check.nameTask? scope.naming here.line =
      (scope.naming.bind (·.read? kind)).bind fun pattern =>
        (check.nameField? here.line).map fun field => ⟨kind, pattern, field.1, field.2⟩ := by
    rw [nameTask?, hkind]
    rfl
  rw [htask]
  cases check with
  | functionNaming =>
    cases hkind
    have hread : scope.naming.bind (·.read? .functionName) =
      scope.naming.bind (·.functionNames) := rfl
    rw [judge, hread]
    cases scope.naming.bind (·.functionNames) with
    | none => rfl
    | some pattern =>
      dsimp only
      unfold Check.functionNaming nameField? Context.code
      cases (Check.functionDeclaration.search? here.line.code).bind (·.group? 1) <;> rfl
  | variableNaming =>
    cases hkind
    rw [judge]
    cases scope.naming with
    | none => rfl
    | some patterns =>
      dsimp only
      rw [Option.bind_some, ← Check.variablePattern?_eq]
      unfold Check.variableNaming nameField? Context.code Context.trimmedCode
      cases Check.declaresVariable here.line.trimmedCode with
      | false => cases Check.variablePattern? patterns here.line.trimmedCode <;> rfl
      | true =>
        cases Check.variablePattern? patterns here.line.trimmedCode with
        | none => rfl
        | some pattern =>
          dsimp only
          cases (tokens (Line.maskMappings here.line.code)).tail.find?
              (Check.startsVariable here.line.code) with
          | none => rfl
          | some token =>
            change _ = (Check.nameMarks token.offset _ pattern here.line.variableKind.code
              here.line.variableKind.label).map _
            rw [Line.code_variableKind, Line.label_variableKind]
            rfl
  | contractNaming =>
    cases hkind
    have hread : scope.naming.bind (·.read? .contractName) =
      scope.naming.bind (·.contractNames) := rfl
    rw [judge, hread]
    cases scope.naming.bind (·.contractNames) with
    | none => rfl
    | some pattern =>
      dsimp only
      unfold Check.contractNaming nameField? Context.code
      cases (Check.contractDeclaration.search? here.line.code).bind (·.group? 1) <;> rfl
  | _ => cases hkind

def verdict (scope : Scope) (names : Names) (here : Context) (check : LineCheck) : Outcome :=
  match check.nameTask? scope.naming here.line with
  | some task => { marks := task.verdict, names }
  | none => check.rule.outcome scope names here

def crosses (naming : Option NamePatterns) (line : Line) (check : LineCheck) : Bool :=
  (check.nameTask? naming line).any NameTask.crosses

/-- A check fails exactly where it comes to such a match, which leaves nothing to be said. -/
theorem judge_eq (check : LineCheck) (scope : Scope) (names : Names) (here : Context) :
    check.judge scope names here =
      if check.crosses scope.naming here.line then .error (.matching .crossedGroup)
      else .ok (check.verdict scope names here) := by
  cases hkind : check.nameKind? here.line with
  | none =>
    -- Patterns that were read have no part in these checks.
    cases check with
    | functionNaming | variableNaming | contractNaming => cases hkind
    | _ => rfl
  | some kind =>
    have hjudge : check.judge scope names here = _ := judge_of_nameKind? hkind
    unfold crosses verdict
    cases htask : check.nameTask? scope.naming here.line with
    | none =>
      rw [htask] at hjudge
      rw [hjudge]
      have hcheck : check.rule.check scope names here = .ok { names } := hjudge
      rw [Rule.outcome, hcheck]
      rfl
    | some task =>
      rw [hjudge, htask, Option.elim_some, NameTask.marks_eq, Option.any_some]
      cases task.crosses <;> rfl

def steadyRule (check : LineCheck) : Rule where
  switch := check.switch
  check scope names here := .ok (check.verdict scope names here)

theorem outcome_steadyRule (check : LineCheck) (scope : Scope) (names : Names) (here : Context) :
    check.steadyRule.outcome scope names here = check.rule.outcome scope names here := by
  have hsteady : check.steadyRule.outcome scope names here = check.verdict scope names here := rfl
  have hrule : check.rule.check scope names here = check.judge scope names here := rfl
  rw [hsteady, Rule.outcome, hrule, judge_eq]
  by_cases h : check.crosses scope.naming here.line = true
  · -- The rule fails and says nothing, and there is a match, so there is nothing to say.
    obtain ⟨task, htask, hcrosses⟩ := (Option.any_eq_true _ _).mp h
    rw [if_pos h, verdict, htask]
    dsimp only
    rw [NameTask.verdict_of_crosses hcrosses]
  · rw [if_neg h]

end LineCheck

-- ---------------------------------------------------------------------------
-- Whole runs
-- ---------------------------------------------------------------------------

section
variable {scope : Scope} {names : Names} {here : Context} {lines : List Line} {index : Int}

theorem LineCheck.run_eq_judge (check : LineCheck) (scope : Scope) (names : Names)
    (h : Context.at? lines index = some here) :
    check.run scope lines names index = check.judge scope names here := by
  rw [run, h]
  split
  · rename_i hidle
    cases check with
    | laterUses => simp only [judge, Check.laterUses, List.isEmpty_iff.mp hidle, List.filterMap_nil]
    | missingPayable =>
      have hstill : scope.movesValue = false := by simpa [isIdle] using hidle
      rw [judge, hstill]
      rfl
    | functionNaming => rw [judge, Option.isNone_iff_eq_none.mp hidle]
    | variableNaming => rw [judge, Option.isNone_iff_eq_none.mp hidle]
    | contractNaming => rw [judge, Option.isNone_iff_eq_none.mp hidle]
    | _ => cases hidle
  · rfl

theorem Context.exists_at? (h : -lines.length ≤ index) (h' : index < lines.length) :
    ∃ here, Context.at? lines index = some here := by
  obtain ⟨row, hrow, hlt⟩ : ∃ row, position? lines.length index = some row ∧
      row < lines.length := by
    by_cases hindex : 0 ≤ index
    · exact ⟨index.toNat, by rw [position?, if_pos hindex, if_pos h'], by omega⟩
    · exact ⟨(lines.length + index).toNat, by rw [position?, if_neg hindex, if_pos h], by omega⟩
  unfold Context.at?
  rw [hrow, Option.bind_eq_bind, Option.bind_some, List.getElem?_eq_getElem hlt]
  by_cases hindex : 0 ≤ index
  · exact ⟨_, if_pos hindex⟩
  · exact ⟨_, if_neg hindex⟩

theorem rulesOutcome_steady (scope : Scope) (here : Context) (checks : List LineCheck)
    (names : Names) :
    rulesOutcome scope here (checks.map LineCheck.steadyRule) names =
      rulesOutcome scope here (checks.map LineCheck.rule) names := by
  induction checks generalizing names with
  | nil => rfl
  | cons check checks ih =>
    simp only [List.map_cons, rulesOutcome, LineCheck.outcome_steadyRule, ih]

theorem linesReports_steady (scope : Scope) (checks : List LineCheck) (row : Nat)
    (contexts : List Context) (names : Names) :
    linesReports scope (checks.map LineCheck.steadyRule) row contexts names =
      linesReports scope (checks.map LineCheck.rule) row contexts names := by
  induction contexts generalizing row names with
  | nil => rfl
  | cons here rest ih => simp only [linesReports, rulesOutcome_steady, ih]

end

def steadyRules : List Rule := LineCheck.all.map LineCheck.steadyRule

theorem analyzeWith_steadyRules (text : List Char) (options : Options) :
    analyzeWith steadyRules text options = analyze text options := by
  have hreports (patterns : Option NamePatterns) :
      options.reports steadyRules text patterns = options.reports lineRules text patterns := by
    have hfilter : steadyRules.filter (options.rules.enabled ·.switch) =
        (LineCheck.all.filter (options.rules.enabled ·.switch)).map LineCheck.steadyRule :=
      List.filter_map
    have hlines := linesReports_steady
      { movesValue := (Document.ofText text).movesValue, naming := patterns }
      (LineCheck.all.filter (options.rules.enabled ·.switch)) 0 (Context.each (splitLines text)) {}
    rw [← hfilter, ← Rules.active, ← Rules.filter_lineRules] at hlines
    exact congrArg (_ ++ ·) hlines
  rw [analyze, analyzeWith_eq, analyzeWith_eq]
  simp only [Options.allFindings, hreports]

namespace Session

def checkStrictly (session : Session) (check : LineCheck) (index : Int) : Except Fault Session := do
  let outcome ← check.runStrictly session.scope session.document.lines session.names index
  return session.record index outcome

variable {session : Session} {check : LineCheck} {index : Int} {here : Context}

theorem checkStrictly_eq_check (h : Context.at? session.document.lines index = some here) :
    session.checkStrictly check index = session.check check index := by
  rw [checkStrictly, LineCheck.runStrictly_eq_run h]
  rfl

theorem check_eq (session : Session) (h : Context.at? session.document.lines index = some here) :
    session.check check index =
      if check.crosses session.scope.naming here.line then .error (.matching .crossedGroup)
      else .ok (session.record index (check.verdict session.scope session.names here)) := by
  rw [Session.check, check.run_eq_judge _ _ h, LineCheck.judge_eq]
  split <;> rfl

theorem check_eq_error_iff {fault : Fault}
    (h : Context.at? session.document.lines index = some here) :
    session.check check index = .error fault ↔
      fault = .matching .crossedGroup ∧ check.crosses session.scope.naming here.line = true := by
  rw [session.check_eq h]
  split
  · rename_i hcrosses
    exact ⟨fun he => ⟨(Except.error.inj he).symm, hcrosses⟩, fun he => congrArg _ he.1.symm⟩
  · rename_i hcrosses
    exact ⟨fun he => (nomatch he), fun he => absurd he.2 hcrosses⟩

end Session

/-- No pattern repeats more than a character possessively. -/
def Naming.isYielding (naming : Naming) : Bool :=
  naming.texts.all fun text => (Expression.parse text.toList).toOption.all (·.pattern.isYielding)

theorem Naming.isYielding_of_read? {fits : List Char → Bool} {naming : Option Naming}
    {patterns : Option NamePatterns} {kind : NameKind} {pattern : Expression}
    (hp : naming.mapM (Naming.patterns fits) = .ok patterns)
    (hyields : naming.all isYielding = true)
    (h : patterns.bind (·.read? kind) = some pattern) :
    ∃ text, Expression.parse text = .ok pattern ∧ pattern.pattern.isYielding = true := by
  obtain ⟨asked, rfl, hwritten⟩ := exists_written_of_read? hp h
  have hread := Expression.parse_of_read (read_of_namingPattern? hwritten).2
  have hmem : asked.written kind ∈ asked.texts := by
    cases kind <;> simp [written, texts]
  have hall := List.all_eq_true.mp hyields _ hmem
  rw [hread] at hall
  exact ⟨_, hread, hall⟩

theorem LineCheck.crosses_of_isYielding {fits : List Char → Bool} {naming : Option Naming}
    {patterns : Option NamePatterns} (hp : naming.mapM (Naming.patterns fits) = .ok patterns)
    (hyields : naming.all Naming.isYielding = true) (check : LineCheck) (line : Line) :
    check.crosses patterns line = false := by
  refine Bool.eq_false_iff.mpr fun hcrosses => ?_
  obtain ⟨task, htask, hcrosses⟩ := (Option.any_eq_true _ _).mp hcrosses
  obtain ⟨name, -, hcrosses⟩ := (Option.any_eq_true _ _).mp hcrosses
  obtain ⟨kind, -, htask⟩ := Option.bind_eq_some_iff.mp htask
  obtain ⟨pattern, hpattern, htask⟩ := Option.bind_eq_some_iff.mp htask
  obtain ⟨field, -, rfl⟩ := Option.map_eq_some_iff.mp htask
  obtain ⟨text, hread, hyields⟩ := Naming.isYielding_of_read? hp hyields hpattern
  rw [Expression.crosses_of_isYielding hread hyields] at hcrosses
  cases hcrosses

/-- In a session that could be started, whatever was found and met before: a check that insists on
all it looks at says what the check says, a check fails exactly at crossed groups, which takes a
possessive repeat of more than a character, and an analysis finds what it would find if no rule
could fail. -/
theorem checks_fail_only_by_crossed_groups (text : List Char) (options : Options)
    (started : Session)
    (hstart : Session.start text options.rules options.cap options.naming options.fits =
      .ok started) :
    (∀ (sink : Sink) (names : Names) (check : LineCheck) (index : Int),
      -started.document.lines.length ≤ index → index < started.document.lines.length →
      let session : Session := { started with sink, names }
      ∃ here, Context.at? session.document.lines index = some here ∧
        session.checkStrictly check index = session.check check index ∧
        (∀ fault, session.check check index = .error fault ↔
          fault = .matching .crossedGroup ∧
            check.crosses session.scope.naming here.line = true) ∧
        (options.naming.all Naming.isYielding = true →
          ∃ next, session.check check index = .ok next)) ∧
    (options.naming.all Naming.isYielding = true →
      ∀ rule ∈ lineRules, ∀ (names : Names) (here : Context),
        ∃ outcome, rule.check started.scope names here = .ok outcome) ∧
    analyze text options = analyzeWith steadyRules text options := by
  obtain ⟨patterns, hp, rfl⟩ := Session.exists_fresh_of_start hstart
  refine ⟨fun sink names check index hfirst hlast => ?_, fun hyields rule hrule names here => ?_,
    (analyzeWith_steadyRules text options).symm⟩
  · intro session
    obtain ⟨here, hat⟩ := Context.exists_at? hfirst hlast
    refine ⟨here, hat, Session.checkStrictly_eq_check hat,
      fun fault => Session.check_eq_error_iff hat, fun hyields => ?_⟩
    have hcrosses := check.crosses_of_isYielding hp hyields here.line
    exact ⟨_, (session.check_eq hat).trans (if_neg (Bool.eq_false_iff.mp hcrosses))⟩
  · obtain ⟨check, -, rfl⟩ := List.mem_map.mp hrule
    have hcrosses := check.crosses_of_isYielding hp hyields here.line
    exact ⟨_, (check.judge_eq _ names here).trans (if_neg (Bool.eq_false_iff.mp hcrosses))⟩

/-- With the default patterns, all checks of two lines with names that are not as asked for. -/
theorem checks_fail_only_by_crossed_groups_by_default :
    let text := "function Aa() public \x7b\x7d\nuint Total;".toList
    let options : Options := { naming := some .default }
    options.naming.all Naming.isYielding = true ∧
      ∃ started, Session.start text options.rules options.cap options.naming options.fits =
          .ok started ∧
        ∀ check ∈ LineCheck.all, ∀ index ∈ [0, 1, -1, -2],
          ∃ next, started.checkStrictly check index = .ok next ∧
            started.check check index = .ok next := by
  intro text options
  have hyields : options.naming.all Naming.isYielding = true := by decide +kernel
  have hok : (Session.start text options.rules options.cap options.naming options.fits).isOk =
      true := by
    decide +kernel
  obtain ⟨started, hstart⟩ := exists_of_isOk hok
  refine ⟨hyields, started, hstart, fun check _ index hindex => ?_⟩
  have hcount : started.document.lines.length = 2 := by
    obtain ⟨patterns, -, rfl⟩ := Session.exists_fresh_of_start hstart
    have hsplit : (splitLines text).length = 2 := by decide +kernel
    exact hsplit
  have hrange : -2 ≤ index ∧ index < 2 := by
    simp only [List.mem_cons, List.not_mem_nil, or_false] at hindex
    omega
  obtain ⟨here, -, hstrict, -, hnext⟩ := (checks_fail_only_by_crossed_groups text options started
    hstart).1 started.sink started.names check index (by rw [hcount]; exact hrange.1)
    (by rw [hcount]; exact hrange.2)
  obtain ⟨next, hnext⟩ := hnext hyields
  exact ⟨next, hstrict.trans hnext, hnext⟩

/-- A check fails on the name of this function. -/
theorem function_check_fails_by_crossed_groups :
    let line := "function aa() public \x7b\x7d".toList
    let naming : Naming := { functionPattern := "((.+)a|)++" }
    ∃ started, Session.start line .allOn defaultCap (some naming) fitsUsually = .ok started ∧
      started.check .functionNaming 0 = .error (.matching .crossedGroup) := by
  intro line naming
  have hok : (naming.patterns fitsUsually).isOk = true := by decide +kernel
  have hcrosses : (naming.patterns fitsUsually).toOption.all (fun patterns =>
      LineCheck.functionNaming.crosses (some patterns) line) = true := by decide +kernel
  have hat : Context.at? (splitLines line) 0 = some ⟨[], line, []⟩ := by decide +kernel
  clear_value line naming
  obtain ⟨patterns, hp⟩ := exists_of_isOk hok
  rw [hp] at hcrosses
  have hstart : Session.start line .allOn defaultCap (some naming) fitsUsually =
      .ok (Session.fresh line .allOn defaultCap (some patterns)) := by
    rw [Session.start_eq, mapM_patterns_some, hp]
    rfl
  have hline : Context.at? (Session.fresh line .allOn defaultCap (some patterns)).document.lines 0 =
      some ⟨[], line, []⟩ := hat
  exact ⟨_, hstart, (Session.check_eq_error_iff hline).mpr ⟨rfl, hcrosses⟩⟩

end SolidityLint
