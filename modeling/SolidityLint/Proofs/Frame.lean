import SolidityLint.Proofs.Highlights
import SolidityLint.Proofs.KeyedSink

/-!
# What a check may touch

A check is judged as a whole, but it pushes and remembers as it goes, and a fault takes nothing
back. So a call is written here as what it does to the session step by step, up to the fault that
ends it (`LineCheck.call`), which comes to the same (`Session.check_eq_call`). What a single step
may touch depends on the check (`LineCheck.Allows`), and what the whole call may touch follows
(`LineCheck.Frame`), whatever the session was before (`call_keeps_frame`).
-/

namespace SolidityLint

open Pattern Text Vocabulary

-- ---------------------------------------------------------------------------
-- Effects
-- ---------------------------------------------------------------------------

inductive Effect
  | push (report : Report)
  | declare (name : List Char)
  | markMissing (name : List Char)

def Effect.report? : Effect → Option Report
  | .push report => some report
  | .declare _ | .markMissing _ => none

namespace Session

def perform (session : Session) : Effect → Session
  | .push report => session.push report
  | .declare name => { session with names := session.names.declare name }
  | .markMissing name => session.markMissing name

def performAll (session : Session) (effects : List Effect) : Session :=
  effects.foldl perform session

end Session

structure Call where
  effects : List Effect := []
  fault? : Option Fault := none

-- ---------------------------------------------------------------------------
-- Checks step by step
-- ---------------------------------------------------------------------------

/-- Marks are pushed in order. Where a mark shows a name without a type, the name is remembered
before the next mark is looked at. -/
def markEffects (index : Int) (found : List (Mark × Option (List Char))) : List Effect :=
  found.flatMap fun (mark, name?) =>
    .push (mark.report index) :: name?.toList.map .markMissing

def Call.ofMarks (index : Int) : Except Fault Outcome → Call
  | .ok outcome => { effects := markEffects index (outcome.marks.map (·, none)) }
  | .error fault => { fault? := some fault }

namespace Check

def assignedPlaces (here : Context) (names : Names) : List (Span × List Char) :=
  (placesIn here.code ((plainAssignment.findAll here.code).filterMap (·.group? 1))).filter
    fun (_, name) => !names.declared.contains name

def tuplePlaces (here : Context) (names : Names) : List (Span × List Char) :=
  match (tupleAssignment.search? here.code).bind (·.group? 1) with
  | none => []
  | some slots => (listItems slots.start (slots.of here.code)).filterMap (untypedSlot? names)

def barePlaces (here : Context) : List (Span × List Char) :=
  match (bareDeclaration.match? here.code).bind (·.group? 1) with
  | none => []
  | some span =>
    if someType.occursIn here.code || bareStatements.any (·.toList == span.of here.code) then []
    else [(span, span.of here.code)]

def untypedParameters (here : Context) : List UntypedParameter :=
  match (functionParameters.search? here.code).bind (·.group? 1) with
  | none => []
  | some span => (listItems span.start (span.of here.code)).filterMap untypedParameter?

def namedMarks (places : List (Span × List Char)) : List (Mark × Option (List Char)) :=
  places.map fun (span, name) => (dataTypeMark span, some name)

end Check

namespace LineCheck

def steps (scope : Scope) (names : Names) (here : Context) (index : Int) : LineCheck → Call
  | .typedDeclarations => { effects := (Check.typedNames here.code).map .declare }
  | .assignedNames =>
    { effects := markEffects index (Check.namedMarks (Check.assignedPlaces here names)) }
  | .tupleNames =>
    { effects := markEffects index (Check.namedMarks (Check.tuplePlaces here names)) }
  | .bareNames => { effects := markEffects index (Check.namedMarks (Check.barePlaces here)) }
  | .parameterNames =>
    { effects := markEffects index ((Check.untypedParameters here).map fun parameter =>
        (Check.dataTypeMark parameter.span, parameter.name?)) }
  | check => .ofMarks index (check.judge scope names here)

/-- A check of the line at an index, step by step. The line is read first, unless the check has
nothing to look for. -/
def call (check : LineCheck) (session : Session) (index : Int) : Call :=
  if check.isIdle session.scope session.names then {}
  else match Context.at? session.document.lines index with
    | some here => check.steps session.scope session.names here index
    | none => { fault? := some .lineOutOfRange }

end LineCheck

namespace Session

theorem performAll_markEffects (session : Session) (index : Int)
    (found : List (Mark × Option (List Char))) :
    session.performAll (markEffects index found) = session.record index
      { marks := found.map Prod.fst
        names := (found.filterMap Prod.snd).foldl Names.markMissing session.names } := by
  induction found generalizing session with
  | nil => rfl
  | cons first found ih =>
    obtain ⟨mark, name?⟩ := first
    cases name? with
    | none => exact ih (session.push (mark.report index))
    | some name => exact ih ((session.push (mark.report index)).markMissing name)

theorem performAll_declare (session : Session) (index : Int) (found : List (List Char)) :
    session.performAll (found.map .declare) =
      session.record index { names := found.foldl Names.declare session.names } := by
  induction found generalizing session with
  | nil => rfl
  | cons name found ih => exact ih { session with names := session.names.declare name }

end Session

namespace Check

variable {here : Context} {names : Names}

theorem tupleNames_eq_missingNames :
    tupleNames here names = missingNames (tuplePlaces here names) names := by
  unfold tupleNames tuplePlaces
  cases (tupleAssignment.search? here.code).bind (·.group? 1) <;> rfl

theorem bareNames_eq_missingNames :
    bareNames here names = missingNames (barePlaces here) names := by
  unfold bareNames barePlaces
  cases (bareDeclaration.match? here.code).bind (·.group? 1) with
  | none => rfl
  | some span =>
    dsimp only
    split <;> rfl

theorem parameterNames_eq_untypedParameters :
    parameterNames here names =
      { marks := (untypedParameters here).map fun parameter => dataTypeMark parameter.span
        names :=
          ((untypedParameters here).filterMap (·.name?)).foldl Names.markMissing names } := by
  unfold parameterNames untypedParameters
  cases (functionParameters.search? here.code).bind (·.group? 1) <;> rfl

end Check

namespace Session

variable {check : LineCheck} {index : Int} {here : Context}

theorem performAll_namedMarks (session : Session) (index : Int)
    (places : List (Span × List Char)) :
    session.performAll (markEffects index (Check.namedMarks places)) =
      session.record index (Check.missingNames places session.names) := by
  have hmarks : (Check.namedMarks places).map Prod.fst =
      places.map fun place => Check.dataTypeMark place.1 := List.map_map
  have hnames : (Check.namedMarks places).filterMap Prod.snd = places.map Prod.snd := by
    rw [Check.namedMarks, List.filterMap_map]
    exact congrFun List.filterMap_eq_map places
  rw [performAll_markEffects, hmarks, hnames]
  rfl

theorem performAll_marks (session : Session) (index : Int) (marks : List Mark) :
    session.performAll (markEffects index (marks.map (·, none))) =
      session.record index { marks, names := session.names } := by
  have hmarks : (marks.map (·, (none : Option (List Char)))).map Prod.fst = marks := by
    rw [List.map_map]
    exact List.map_id marks
  have hnames : (marks.map (·, (none : Option (List Char)))).filterMap Prod.snd = [] := by
    rw [List.filterMap_map]
    exact List.filterMap_none marks
  rw [performAll_markEffects, hmarks, hnames]
  rfl

theorem performAll_ofMarks (session : Session) (index : Int) {judged : Except Fault Outcome}
    (h : ∀ outcome, judged = .ok outcome → outcome.names = session.names) :
    judged.map (session.record index) =
      (Call.ofMarks index judged).fault?.elim
        (.ok (session.performAll (Call.ofMarks index judged).effects)) .error := by
  cases judged with
  | error fault => rfl
  | ok outcome =>
    refine congrArg Except.ok ?_
    dsimp only [Call.ofMarks]
    rw [performAll_marks, ← h outcome rfl]

/-- Step by step, a check does to the session what it does as a whole. -/
theorem performAll_steps (session : Session) (check : LineCheck) (here : Context) (index : Int) :
    let steps := check.steps session.scope session.names here index
    (check.judge session.scope session.names here).map (session.record index) =
      steps.fault?.elim (.ok (session.performAll steps.effects)) .error := by
  cases check with
  | typedDeclarations => exact congrArg Except.ok (session.performAll_declare index _).symm
  | assignedNames => exact congrArg Except.ok (session.performAll_namedMarks index _).symm
  | tupleNames =>
    refine congrArg Except.ok ?_
    rw [Check.tupleNames_eq_missingNames]
    exact (session.performAll_namedMarks index _).symm
  | bareNames =>
    refine congrArg Except.ok ?_
    rw [Check.bareNames_eq_missingNames]
    exact (session.performAll_namedMarks index _).symm
  | parameterNames =>
    refine congrArg Except.ok ?_
    dsimp only [LineCheck.steps]
    rw [Check.parameterNames_eq_untypedParameters, performAll_markEffects, List.map_map,
      List.filterMap_map]
    rfl
  | functionNaming =>
    exact session.performAll_ofMarks index fun _ h => (LineCheck.functionNaming_ok h).1
  | variableNaming =>
    exact session.performAll_ofMarks index fun _ h => (LineCheck.variableNaming_ok h).1
  | contractNaming =>
    exact session.performAll_ofMarks index fun _ h => (LineCheck.contractNaming_ok h).1
  | _ => exact session.performAll_ofMarks index fun _ h => by cases h; rfl

theorem check_eq_call (session : Session) (check : LineCheck) (index : Int) :
    session.check check index = (check.call session index).fault?.elim
      (.ok (session.performAll (check.call session index).effects)) .error := by
  have hcheck : session.check check index =
      (check.run session.scope session.document.lines session.names index).map
        (session.record index) := by
    unfold Session.check
    cases check.run session.scope session.document.lines session.names index <;> rfl
  rw [hcheck, LineCheck.run, LineCheck.call]
  by_cases hidle : check.isIdle session.scope session.names = true
  · rw [if_pos hidle, if_pos hidle]
    rfl
  · rw [if_neg hidle, if_neg hidle]
    cases Context.at? session.document.lines index with
    | none => rfl
    | some here => exact session.performAll_steps check here index

end Session

-- ---------------------------------------------------------------------------
-- What is allowed
-- ---------------------------------------------------------------------------

namespace LineCheck

def remembering : List LineCheck := [.assignedNames, .tupleNames, .bareNames, .parameterNames]

def Allows (check : LineCheck) (index : Int) : Effect → Prop
  | .push report => report.line = index ∧ report.code.switch = check.switch
  | .declare _ => check = .typedDeclarations
  | .markMissing _ => check ∈ remembering

/-- A finding on the line at an index with the code that the switch of a check asks for. -/
def MayAdd (check : LineCheck) (index : Int) (finding : Finding) : Prop :=
  finding.range.start.line = index ∧ finding.range.stop.line = index ∧
    finding.code.switch = check.switch

/-- What has become of a session through a check of the line at an index. -/
structure Frame (check : LineCheck) (index : Int) (before after : Session) : Prop where
  document : after.document = before.document
  rules : after.rules = before.rules
  scope : after.scope = before.scope
  cap : after.sink.cap = before.sink.cap
  refused : after.sink.refused = before.sink.refused
  findings : ∃ added, after.sink.findings = before.sink.findings ++ added ∧
    ∀ finding ∈ added, check.MayAdd index finding
  declared : before.names.declared ⊆ after.names.declared
  declares : after.names.declared ≠ before.names.declared → check = .typedDeclarations
  missing : before.names.missing <+: after.names.missing
  remembers : after.names.missing ≠ before.names.missing → check ∈ remembering

variable {check : LineCheck} {index : Int} {session : Session}

theorem Frame.refl (check : LineCheck) (index : Int) (session : Session) :
    check.Frame index session session where
  document := rfl
  rules := rfl
  scope := rfl
  cap := rfl
  refused := rfl
  findings := ⟨[], (List.append_nil _).symm, List.forall_mem_nil _⟩
  declared := List.Subset.refl _
  declares h := absurd rfl h
  missing := List.prefix_rfl
  remembers h := absurd rfl h

theorem Frame.trans {first second third : Session} (h : check.Frame index first second)
    (h' : check.Frame index second third) : check.Frame index first third where
  document := h'.document.trans h.document
  rules := h'.rules.trans h.rules
  scope := h'.scope.trans h.scope
  cap := h'.cap.trans h.cap
  refused := h'.refused.trans h.refused
  findings := by
    obtain ⟨added, hadded, hmem⟩ := h.findings
    obtain ⟨later, hlater, hmem'⟩ := h'.findings
    refine ⟨added ++ later, ?_, fun finding hf => ?_⟩
    · rw [hlater, hadded, List.append_assoc]
    · exact (List.mem_append.mp hf).elim (hmem finding) (hmem' finding)
  declared := List.Subset.trans h.declared h'.declared
  declares hne := by
    by_cases heq : second.names.declared = first.names.declared
    · exact h'.declares (heq ▸ hne)
    · exact h.declares heq
  missing := h.missing.trans h'.missing
  remembers hne := by
    by_cases heq : second.names.missing = first.names.missing
    · exact h'.remembers (heq ▸ hne)
    · exact h.remembers heq

theorem Frame.perform {effect : Effect} (h : check.Allows index effect) :
    check.Frame index session (session.perform effect) := by
  have hsame := Frame.refl check index session
  cases effect with
  | push report =>
    refine { hsame with
      cap := Sink.push_cap _ _
      refused := Sink.push_refused _ _
      findings := ?_ }
    obtain ⟨hline, hcode⟩ := h
    change ∃ added, (session.sink.push report).findings = session.sink.findings ++ added ∧ _
    unfold Sink.push
    split
    · refine ⟨[report.finding], rfl, fun finding hf => ?_⟩
      rw [List.mem_singleton.mp hf]
      exact ⟨hline, hline, hcode⟩
    · exact hsame.findings
  | declare name =>
    have hmissing : ([name].foldl Names.declare session.names).missing = session.names.missing :=
      Names.foldl_declare_missing
    have hdeclared : session.names.declared ⊆ ([name].foldl Names.declare session.names).declared :=
      fun _ ho => Names.mem_foldl_declare.mpr (.inl ho)
    exact { hsame with
      declared := hdeclared
      declares := fun _ => h
      missing := hmissing ▸ List.prefix_rfl
      remembers := fun hne => absurd hmissing hne }
  | markMissing name =>
    have hdeclared : ([name].foldl Names.markMissing session.names).declared =
        session.names.declared := Names.foldl_markMissing_declared
    exact { hsame with
      declared := fun _ ho => hdeclared.symm ▸ ho
      declares := fun hne => absurd hdeclared hne
      missing := Names.markMissing_grows
      remembers := fun _ => h }

theorem Frame.performAll {effects : List Effect}
    (h : ∀ effect ∈ effects, check.Allows index effect) :
    check.Frame index session (session.performAll effects) := by
  induction effects generalizing session with
  | nil => exact .refl check index session
  | cons effect effects ih =>
    obtain ⟨hfirst, hlater⟩ := List.forall_mem_cons.mp h
    exact (Frame.perform hfirst).trans (ih hlater)

theorem allows_markEffects {found : List (Mark × Option (List Char))}
    (hcode : ∀ step ∈ found, step.1.code.switch = check.switch)
    (hname : ∀ step ∈ found, step.2 ≠ none → check ∈ remembering) :
    ∀ effect ∈ markEffects index found, check.Allows index effect := by
  intro effect he
  obtain ⟨⟨mark, name?⟩, hstep, he⟩ := List.mem_flatMap.mp he
  rcases List.mem_cons.mp he with rfl | he
  · exact ⟨rfl, hcode _ hstep⟩
  · obtain ⟨name, hn, rfl⟩ := List.mem_map.mp he
    refine hname _ hstep fun hnone => ?_
    rw [show name? = none from hnone] at hn
    cases hn

theorem allows_namedMarks (h : check ∈ remembering) (places : List (Span × List Char)) :
    ∀ effect ∈ markEffects index (Check.namedMarks places), check.Allows index effect := by
  have hswitch : check.switch = .missingDataType := by
    revert h
    cases check <;> decide
  refine allows_markEffects (fun step hstep => ?_) fun _ _ _ => h
  obtain ⟨place, -, rfl⟩ := List.mem_map.mp hstep
  exact hswitch.symm

theorem allows_ofMarks {judged : Except Fault Outcome}
    (h : ∀ outcome, judged = .ok outcome → ∀ mark ∈ outcome.marks, mark.code = check.code) :
    ∀ effect ∈ (Call.ofMarks index judged).effects, check.Allows index effect := by
  cases judged with
  | error fault => exact List.forall_mem_nil _
  | ok outcome =>
    refine allows_markEffects (fun step hstep => ?_) fun step hstep hname => ?_
    all_goals obtain ⟨mark, hmark, rfl⟩ := List.mem_map.mp hstep
    · rw [h outcome rfl mark hmark, switch_code]
    · exact absurd rfl hname

theorem allows_steps (check : LineCheck) (scope : Scope) (names : Names) (here : Context)
    (index : Int) :
    ∀ effect ∈ (check.steps scope names here index).effects, check.Allows index effect := by
  cases check with
  | typedDeclarations =>
    intro effect he
    obtain ⟨name, -, rfl⟩ := List.mem_map.mp he
    rfl
  | assignedNames | tupleNames | bareNames => exact allows_namedMarks (by decide) _
  | parameterNames =>
    refine allows_markEffects (fun step hstep => ?_) fun _ _ _ => by decide
    obtain ⟨parameter, -, rfl⟩ := List.mem_map.mp hstep
    rfl
  | _ => exact allows_ofMarks fun _ h => judge_code h

theorem allows_call (check : LineCheck) (session : Session) (index : Int) :
    ∀ effect ∈ (check.call session index).effects, check.Allows index effect := by
  unfold call
  split
  · exact List.forall_mem_nil _
  · split
    · exact check.allows_steps _ _ _ _
    · exact List.forall_mem_nil _

/-- A fault comes before the first step. -/
theorem effects_of_fault (h : (check.call session index).fault? ≠ none) :
    (check.call session index).effects = [] := by
  have hofMarks (judged : Except Fault Outcome) (h : (Call.ofMarks index judged).fault? ≠ none) :
      (Call.ofMarks index judged).effects = [] := by
    cases judged with
    | error fault => rfl
    | ok outcome => exact absurd rfl h
  unfold call at h ⊢
  split
  · rfl
  · rename_i hidle
    rw [if_neg hidle] at h
    cases hat : Context.at? session.document.lines index with
    | none => rfl
    | some here =>
      rw [hat] at h
      cases check with
      | typedDeclarations | assignedNames | tupleNames | bareNames | parameterNames =>
        exact absurd rfl h
      | _ => exact hofMarks _ h

end LineCheck

theorem Context.at?_eq_none {lines : List Line} {index : Int}
    (h : index < -lines.length ∨ lines.length ≤ index) : Context.at? lines index = none := by
  have hposition : position? lines.length index = none := by
    unfold position?
    split
    · exact if_neg (by omega)
    · exact if_neg (by omega)
  rw [Context.at?, hposition]
  rfl

theorem KeyedSink.exists_added (sink : KeyedSink) (reports : List Report) :
    ∃ added, (sink.pushAll reports).findings = sink.findings ++ added ∧
      ∀ finding ∈ added, ∃ report ∈ reports, finding = report.finding := by
  induction reports generalizing sink with
  | nil => exact ⟨[], (List.append_nil _).symm, List.forall_mem_nil _⟩
  | cons report reports ih =>
    obtain ⟨added, hadded, hmem⟩ := ih (sink.push report).1
    have hlater : ∀ finding ∈ added, ∃ other ∈ report :: reports, finding = other.finding := by
      intro finding hf
      obtain ⟨other, ho, he⟩ := hmem finding hf
      exact ⟨other, List.mem_cons_of_mem _ ho, he⟩
    rw [pushAll_cons, hadded]
    rcases sink.push_cases report with ⟨-, hp⟩ | ⟨-, -, hp⟩
    · rw [hp]
      exact ⟨added, rfl, hlater⟩
    · rw [hp]
      refine ⟨report.finding :: added, List.append_assoc _ _ _, ?_⟩
      exact List.forall_mem_cons.mpr ⟨⟨report, List.mem_cons_self, rfl⟩, hlater⟩

/-- Whatever a session holds, and whatever the index is: a check does to the session what the steps
of its call do. They append findings on the line that have the code of the check's switch, also in a
sink that takes any other keys for reported, and change the names only as far as the check is for
that. A fault leaves the session as it was. An index out of range is a fault, unless the check has
nothing to look for, and then it does nothing. -/
theorem call_keeps_frame (session : Session) (check : LineCheck) (index : Int) :
    let call := check.call session index
    let after := session.performAll call.effects
    session.check check index = call.fault?.elim (.ok after) .error ∧
    check.Frame index session after ∧
    (∀ sink : KeyedSink, ∃ added,
      (sink.pushAll (call.effects.filterMap Effect.report?)).findings = sink.findings ++ added ∧
        ∀ finding ∈ added, check.MayAdd index finding) ∧
    (call.fault? ≠ none → after = session) ∧
    (index < -session.document.lines.length ∨ session.document.lines.length ≤ index →
      after = session ∧ (call.fault? = some .lineOutOfRange ∨
        check.isIdle session.scope session.names = true)) := by
  intro call after
  have hallows := check.allows_call session index
  refine ⟨session.check_eq_call check index, .performAll hallows, fun sink => ?_, fun hfault => ?_,
    fun hrange => ?_⟩
  · obtain ⟨added, hadded, hmem⟩ := sink.exists_added (call.effects.filterMap Effect.report?)
    refine ⟨added, hadded, fun finding hf => ?_⟩
    obtain ⟨report, hr, rfl⟩ := hmem finding hf
    obtain ⟨effect, he, hreport⟩ := List.mem_filterMap.mp hr
    cases effect with
    | push pushed =>
      cases hreport
      obtain ⟨hline, hcode⟩ := hallows _ he
      exact ⟨hline, hline, hcode⟩
    | declare _ | markMissing _ => cases hreport
  · change session.performAll call.effects = session
    rw [LineCheck.effects_of_fault hfault]
    rfl
  · have hcall : call = if check.isIdle session.scope session.names then {}
        else { fault? := some .lineOutOfRange } := by
      change check.call session index = _
      rw [LineCheck.call, Context.at?_eq_none hrange]
    change session.performAll call.effects = session ∧ _
    rw [hcall]
    split
    · rename_i hidle
      exact ⟨rfl, .inr hidle⟩
    · exact ⟨rfl, .inl rfl⟩

/-- A session with a finding elsewhere and a marked text that is no name. The line assigns a name,
and the next line is missing. -/
theorem call_keeps_frame_past_last_line :
    let session : Session :=
      { document := .ofText "x = 1;".toList, rules := .allOn
        scope := { movesValue := false, naming := none }
        sink := { cap := 5, findings := [⟨"", .txOrigin, .error, ⟨⟨7, 9⟩, ⟨-2, 0⟩⟩⟩] }
        names := { missing := ["(".toList] } }
    let here := LineCheck.assignedNames.call session 0
    let past := LineCheck.assignedNames.call session 1
    here.fault? = none ∧
      (session.performAll here.effects).names.missing = ["(".toList, "x".toList] ∧
      LineCheck.assignedNames.Frame 0 session (session.performAll here.effects) ∧
      past.fault? = some .lineOutOfRange ∧ session.performAll past.effects = session := by
  intro session here past
  have hfault : past.fault? = some .lineOutOfRange := by decide +kernel
  refine ⟨by decide +kernel, by decide +kernel, ?_, hfault, ?_⟩
  · exact (call_keeps_frame session .assignedNames 0).2.1
  · exact (call_keeps_frame session .assignedNames 1).2.2.2.1 (hfault ▸ Option.some_ne_none _)

end SolidityLint
