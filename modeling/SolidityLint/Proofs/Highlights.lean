import SolidityLint.Proofs.Document
import SolidityLint.Proofs.Marks
import SolidityLint.Proofs.Pattern.Words

/-!
# Names without a type are shown

The names that are remembered as missing and the findings about missing types are kept in step,
whichever checks are made on whichever lines: each such name is what some finding highlights, and
each such finding highlights such a name or a pair of empty brackets
(`calls_highlight_missing_names`). The names only ever become more (`Outcome.Shows.grows`).
-/

namespace SolidityLint

open Pattern

/-- Brackets with nothing but blanks between them. -/
def Text.IsEmptyBrackets (text : List Char) : Prop :=
  ∃ gap, (∀ x ∈ gap, isBlank x = true) ∧ text = '[' :: gap ++ [']']

/-- What a check says about missing types on a line, beside the names that it knew before. -/
structure Outcome.Shows (outcome : Outcome) (here : Context) (names : Names) : Prop where
  grows : names.missing <+: outcome.names.missing
  named : ∀ name ∈ outcome.names.missing, name ∈ names.missing ∨
    ∃ mark ∈ outcome.marks, mark.code = .missingDataType ∧ mark.span.of here.code = name
  shown : ∀ mark ∈ outcome.marks, mark.code = .missingDataType →
    mark.span.of here.code ∈ outcome.names.missing ∨
      Text.IsEmptyBrackets (mark.span.of here.code)

-- ---------------------------------------------------------------------------
-- Names
-- ---------------------------------------------------------------------------

namespace Names

variable {names : Names} {name : List Char} {found : List (List Char)}

theorem markMissing_grows : names.missing <+: (names.markMissing name).missing := by
  unfold markMissing
  split
  · exact List.prefix_rfl
  · exact List.prefix_append _ _

theorem foldl_markMissing_grows :
    names.missing <+: (found.foldl markMissing names).missing := by
  induction found generalizing names with
  | nil => exact List.prefix_rfl
  | cons name found ih => exact markMissing_grows.trans ih

theorem mem_markMissing {other : List Char} :
    other ∈ (names.markMissing name).missing ↔ other ∈ names.missing ∨ other = name := by
  unfold markMissing
  split
  · rename_i h
    refine ⟨.inl, ?_⟩
    rintro (ho | rfl)
    · exact ho
    · exact List.contains_iff_mem.mp h
  · exact List.mem_append.trans (or_congr_right List.mem_singleton)

theorem mem_foldl_markMissing :
    name ∈ (found.foldl markMissing names).missing ↔ name ∈ names.missing ∨ name ∈ found := by
  induction found generalizing names with
  | nil => exact ⟨.inl, fun h => h.resolve_right List.not_mem_nil⟩
  | cons first found ih =>
    rw [List.foldl_cons, ih, mem_markMissing, List.mem_cons, or_assoc]

theorem foldl_declare_missing : (found.foldl declare names).missing = names.missing := by
  induction found generalizing names with
  | nil => rfl
  | cons name found ih =>
    rw [List.foldl_cons, ih]
    unfold declare
    split <;> rfl

theorem foldl_markMissing_declared :
    (found.foldl markMissing names).declared = names.declared := by
  induction found generalizing names with
  | nil => rfl
  | cons name found ih =>
    rw [List.foldl_cons, ih]
    unfold markMissing
    split <;> rfl

theorem mem_foldl_declare :
    name ∈ (found.foldl declare names).declared ↔ name ∈ names.declared ∨ name ∈ found := by
  induction found generalizing names with
  | nil => exact ⟨.inl, fun h => h.resolve_right List.not_mem_nil⟩
  | cons first found ih =>
    have hfirst : name ∈ (names.declare first).declared ↔ name ∈ names.declared ∨ name = first := by
      unfold declare
      split
      · rename_i hf
        refine ⟨.inl, ?_⟩
        rintro (hn | rfl)
        · exact hn
        · exact List.contains_iff_mem.mp hf
      · exact List.mem_cons.trans or_comm
    rw [List.foldl_cons, ih, hfirst, List.mem_cons, or_assoc]

end Names

variable {here : Context} {names : Names} {marks : List Mark} {mark : Mark}

theorem Outcome.Shows.same
    (h : ∀ mark ∈ marks, mark.code = .missingDataType →
      mark.span.of here.code ∈ names.missing ∨ Text.IsEmptyBrackets (mark.span.of here.code)) :
    Outcome.Shows { marks, names } here names :=
  ⟨List.prefix_rfl, fun _ hname => .inl hname, h⟩

theorem Outcome.Shows.silent : Outcome.Shows { names } here names :=
  .same (List.forall_mem_nil _)

-- ---------------------------------------------------------------------------
-- Names and brackets in a text
-- ---------------------------------------------------------------------------

theorem Span.of_shift {span : Span} {part text : List Char} {offset : Nat}
    (hf : span.Fits part.length) (h : Text.StandsAt part offset text) :
    (span.shift offset).of text = span.of part := by
  have hlt := hf.start_lt
  have hlength := Span.length_of hf.stop_le
  have hstop : span.stop + offset = offset + span.start + (span.of part).length := by omega
  have hinner : Text.StandsAt (span.of part) (offset + span.start) text :=
    (Text.standsAt_slice part span.start span.stop).trans h
  have hslice := hinner.slice_eq
  rwa [← hstop, Nat.add_comm offset] at hslice

namespace Check

theorem isEmptyBrackets_of_spells {word : List Char} (h : emptyBrackets.Spells word) :
    Text.IsEmptyBrackets word := by
  obtain ⟨opening, rest, hopening, hrest, rfl⟩ := spells_all_cons.mp h
  obtain ⟨gap, closing, hgap, hclosing, rfl⟩ := spells_all_cons.mp hrest
  refine ⟨gap, fun x hx => ?_, ?_⟩
  · simpa [CharSet.contains, CharItem.contains, CharClass.contains] using
      spells_many_one.mp hgap x hx
  · rw [spells_char.mp hopening, spells_char.mp hclosing]
    rfl

theorem isEmptyBrackets_of_foundIn {p : Pattern} {text : List Char} {found : Match} {span : Span}
    (h : p.FoundIn text found) (hp : p.parts?.map (·.2.1) = some emptyBrackets)
    (hs : found.group? 1 = some span) : Text.IsEmptyBrackets (span.of text) :=
  isEmptyBrackets_of_spells (h.group_spells hp rfl hs)

theorem namePlace?_of {offset : Nat} {part name text : List Char} {span : Span}
    (h : namePlace? offset part = some (span, name)) (ht : Text.StandsAt part offset text) :
    span.of text = name := by
  obtain ⟨⟨before, name⟩, hf, he⟩ := Option.map_eq_some_iff.mp h
  cases he
  exact ((Text.firstName?_standsAt hf).trans ht).slice_eq

theorem untypedParameter?_of {parameter : Nat × List Char} {found : UntypedParameter}
    {text : List Char} (h : untypedParameter? parameter = some found)
    (ht : Text.StandsAt parameter.2 parameter.1 text) :
    found.name? = some (found.span.of text) ∨
      found.name? = none ∧ Text.IsEmptyBrackets (found.span.of text) := by
  simp only [untypedParameter?] at h
  split at h
  · cases h
  · split at h
    · rename_i brackets hb
      obtain ⟨span, hs, rfl⟩ := Option.map_eq_some_iff.mp h
      have hfound := foundIn_of_match? hb
      refine .inr ⟨rfl, ?_⟩
      rw [UntypedParameter.span, Span.of_shift (hfound.group_fits rfl hs) ht]
      exact isEmptyBrackets_of_foundIn hfound rfl hs
    · split at h
      · cases h
      · obtain ⟨⟨span, name⟩, hp, rfl⟩ := Option.map_eq_some_iff.mp h
        exact .inl (congrArg some (namePlace?_of hp ht).symm)

-- ---------------------------------------------------------------------------
-- Checks for data types
-- ---------------------------------------------------------------------------

theorem missingNames_shows {found : List (Span × List Char)}
    (h : ∀ place ∈ found, place.1.of here.code = place.2) :
    (missingNames found names).Shows here names where
  grows := Names.foldl_markMissing_grows
  named := by
    intro name hname
    refine (Names.mem_foldl_markMissing.mp hname).imp_right fun hfound => ?_
    obtain ⟨place, hp, rfl⟩ := List.mem_map.mp hfound
    exact ⟨dataTypeMark place.1, List.mem_map.mpr ⟨place, hp, rfl⟩, rfl, h place hp⟩
  shown := by
    intro mark hm _
    obtain ⟨place, hp, rfl⟩ := List.mem_map.mp hm
    exact .inl (Names.mem_foldl_markMissing.mpr
      (.inr (List.mem_map.mpr ⟨place, hp, (h place hp).symm⟩)))

theorem assignedNames_shows : (assignedNames here names).Shows here names := by
  refine missingNames_shows fun place hp => ?_
  obtain ⟨span, -, rfl⟩ := List.mem_map.mp (List.mem_filter.mp hp).1
  rfl

theorem bareNames_shows : (bareNames here names).Shows here names := by
  unfold bareNames
  split
  · exact .silent
  · simp only
    split
    · exact .silent
    · refine missingNames_shows fun place hp => ?_
      rw [List.mem_singleton.mp hp]

theorem tupleNames_shows : (tupleNames here names).Shows here names := by
  unfold tupleNames
  split
  · exact .silent
  · rename_i slots hs
    refine missingNames_shows fun place hp => ?_
    obtain ⟨slot, hslot, hp⟩ := List.mem_filterMap.mp hp
    have hstands := Text.listItems_standsAt hslot (Text.standsAt_slice here.code _ _)
    simp only [untypedSlot?] at hp
    split at hp
    · cases hp
    · exact namePlace?_of (Option.filter_eq_some_iff.mp hp).1 hstands

theorem parameterNames_shows : (parameterNames here names).Shows here names := by
  unfold parameterNames
  split
  · exact .silent
  · rename_i span hs
    have hparameter : ∀ found ∈ (Text.listItems span.start (span.of here.code)).filterMap
        untypedParameter?, found.name? = some (found.span.of here.code) ∨
          found.name? = none ∧ Text.IsEmptyBrackets (found.span.of here.code) := by
      intro found hf
      obtain ⟨parameter, hp, hu⟩ := List.mem_filterMap.mp hf
      exact untypedParameter?_of hu
        (Text.listItems_standsAt hp (Text.standsAt_slice here.code _ _))
    constructor
    · exact Names.foldl_markMissing_grows
    · intro name hname
      refine (Names.mem_foldl_markMissing.mp hname).imp_right fun hfound => ?_
      obtain ⟨found, hf, hname⟩ := List.mem_filterMap.mp hfound
      refine ⟨dataTypeMark found.span, List.mem_map.mpr ⟨found, hf, rfl⟩, rfl, ?_⟩
      rcases hparameter found hf with hshown | ⟨hnone, -⟩
      · exact Option.some.inj (hshown.symm.trans hname)
      · cases hnone.symm.trans hname
    · intro mark hm _
      obtain ⟨found, hf, rfl⟩ := List.mem_map.mp hm
      rcases hparameter found hf with hshown | ⟨-, hbrackets⟩
      · exact .inl (Names.mem_foldl_markMissing.mpr
          (.inr (List.mem_filterMap.mpr ⟨found, hf, hshown⟩)))
      · exact .inr hbrackets

theorem bracketDeclarations_shows (h : mark ∈ bracketDeclarations here) :
    Text.IsEmptyBrackets (mark.span.of here.code) := by
  obtain ⟨span, hs, rfl⟩ := List.mem_map.mp h
  obtain ⟨found, hf, hs⟩ := List.mem_filterMap.mp hs
  exact isEmptyBrackets_of_foundIn (foundIn_of_mem_findAll hf) rfl hs

theorem parameterBrackets_shows (h : mark ∈ parameterBrackets here) :
    Text.IsEmptyBrackets (mark.span.of here.code) := by
  unfold parameterBrackets at h
  split at h
  · cases h
  · obtain ⟨span, hs, rfl⟩ := List.mem_map.mp h
    obtain ⟨found, hf, hs⟩ := List.mem_filterMap.mp (List.mem_filter.mp hs).1
    have hfound := foundIn_of_mem_findAll hf
    rw [dataTypeMark, Span.of_shift (hfound.group_fits rfl hs) (Text.standsAt_slice here.code _ _)]
    exact isEmptyBrackets_of_foundIn hfound rfl hs

theorem takes_wholeWord {name : List Char} {a b : Place} :
    (wholeWord name).Takes a b ↔ (Anchor.wordBoundary false).holds a = true ∧
      a.Reads name b ∧ (Anchor.wordBoundary false).holds b = true := by
  simp only [wholeWord, takes_all_cons, takes_chars]
  constructor
  · rintro ⟨_, ⟨hstart, rfl⟩, mid, hr, _, ⟨hstop, rfl⟩, rfl⟩
    exact ⟨hstart, hr, hstop⟩
  · rintro ⟨hstart, hr, hstop⟩
    exact ⟨a, ⟨hstart, rfl⟩, b, hr, b, ⟨hstop, rfl⟩, rfl⟩

theorem search?_wholeWord_of {name text : List Char} {found : Match}
    (h : (wholeWord name).search? text = some found) : found.span.of text = name := by
  obtain ⟨a, ha, hm⟩ := foundIn_of_search? h
  obtain ⟨b, htakes, hspan⟩ := takes_of_matchAt? (isPlain_wholeWord name) hm
  rw [hspan, Span.of, (takes_wholeWord.mp htakes).2.1.slice_eq ha]

theorem laterUses_shows (h : mark ∈ laterUses here names) :
    mark.span.of here.code ∈ names.missing := by
  obtain ⟨name, hname, h⟩ := List.mem_filterMap.mp h
  obtain ⟨found, hf, rfl⟩ := Option.map_eq_some_iff.mp h
  rwa [dataTypeMark, search?_wholeWord_of hf]

end Check

-- ---------------------------------------------------------------------------
-- All checks
-- ---------------------------------------------------------------------------

namespace LineCheck

variable {check : LineCheck} {scope : Scope} {outcome : Outcome}

theorem judge_shows_of_switch_ne (hs : check.switch ≠ .missingDataType)
    (h : check.judge scope names here = .ok outcome) : outcome.Shows here names := by
  have hsame : check.judge scope names here =
      (check.judge scope names here).map fun outcome => { outcome with names } :=
    judge_eq_map hs names names
  rw [h] at hsame
  obtain ⟨marks, other⟩ := outcome
  obtain rfl : other = names := congrArg Outcome.names (Except.ok.inj hsame)
  refine .same fun mark hm hcode => absurd ?_ hs
  rw [← check.switch_code, ← judge_code h mark hm, hcode]
  rfl

theorem judge_shows (h : check.judge scope names here = .ok outcome) :
    outcome.Shows here names := by
  cases check with
  | typedDeclarations =>
    cases h
    have hmissing : (Check.typedDeclarations here names).names.missing = names.missing :=
      Names.foldl_declare_missing
    exact ⟨hmissing ▸ List.prefix_rfl, fun _ hname => .inl (hmissing ▸ hname),
      List.forall_mem_nil _⟩
  | assignedNames => cases h; exact Check.assignedNames_shows
  | bracketDeclarations =>
    cases h
    exact .same fun _ hm _ => .inr (Check.bracketDeclarations_shows hm)
  | tupleNames => cases h; exact Check.tupleNames_shows
  | bareNames => cases h; exact Check.bareNames_shows
  | parameterNames => cases h; exact Check.parameterNames_shows
  | parameterBrackets =>
    cases h
    exact .same fun _ hm _ => .inr (Check.parameterBrackets_shows hm)
  | laterUses =>
    cases h
    exact .same fun _ hm _ => .inl (Check.laterUses_shows hm)
  | _ => exact judge_shows_of_switch_ne (by decide) h

theorem outcome_shows (check : LineCheck) (scope : Scope) (names : Names) (here : Context) :
    (check.rule.outcome scope names here).Shows here names := by
  simp only [Rule.outcome, rule]
  split
  · rename_i outcome h
    exact judge_shows h
  · exact .silent

end LineCheck

-- ---------------------------------------------------------------------------
-- Sessions
-- ---------------------------------------------------------------------------

def Finding.highlighted? (lines : List Line) (finding : Finding) : Option (List Char) := do
  let row ← position? lines.length finding.range.start.line
  let line ← lines[row]?
  let first ← finding.range.start.character.toNat?
  let last ← finding.range.stop.character.toNat?
  return Text.slice line first last

theorem Finding.highlighted?_of_key_eq {one other : Finding} (h : one.key = other.key)
    (lines : List Line) : one.highlighted? lines = other.highlighted? lines := by
  simp only [Finding.key, Key.mk.injEq] at h
  simp only [highlighted?, h]

theorem Context.exists_of_at? {lines : List Line} {index : Int}
    (h : Context.at? lines index = some here) :
    ∃ row, position? lines.length index = some row ∧ lines[row]? = some here.line := by
  obtain ⟨row, hrow, h⟩ := Option.bind_eq_some_iff.mp h
  obtain ⟨line, hline, h⟩ := Option.bind_eq_some_iff.mp h
  refine ⟨row, hrow, ?_⟩
  split at h <;> cases h <;> exact hline

theorem Mark.OnCode.highlighted?_of_line {lines : List Line} {index : Int} {row : Nat}
    (hm : mark.OnCode here) (hrow : position? lines.length index = some row)
    (hline : lines[row]? = some here.line) :
    (mark.report index).finding.highlighted? lines = some (mark.span.of here.code) := by
  have hstands : Text.StandsAt here.code 0 here.line := Line.code_prefix here.line
  have hspan : mark.span.of here.line = mark.span.of here.code := Span.of_shift hm hstands
  rw [← hspan]
  simp only [Finding.highlighted?, Mark.report, Report.finding, hrow, hline, Option.bind_eq_bind,
    Option.bind_some]
  rfl

theorem Mark.OnCode.highlighted? {lines : List Line} {index : Int} (hm : mark.OnCode here)
    (h : Context.at? lines index = some here) :
    (mark.report index).finding.highlighted? lines = some (mark.span.of here.code) := by
  obtain ⟨row, hrow, hline⟩ := Context.exists_of_at? h
  exact hm.highlighted?_of_line hrow hline

namespace Session

variable {session : Session} {index : Int} {outcome : Outcome}

/-- Missing names and findings about missing types are in step. -/
structure Shows (session : Session) : Prop where
  allNamed : session.names.AllNamed
  refused : session.sink.refused = []
  named : ∀ name ∈ session.names.missing, ∃ finding ∈ session.sink.findings,
    finding.code = .missingDataType ∧ finding.highlighted? session.document.lines = some name
  shown : ∀ finding ∈ session.sink.findings, finding.code = .missingDataType →
    ∃ text, finding.highlighted? session.document.lines = some text ∧
      (text ∈ session.names.missing ∨ Text.IsEmptyBrackets text)

theorem Shows.record (h : session.Shows)
    (hat : Context.at? session.document.lines index = some here) (hcode : outcome.OnCode here)
    (ho : outcome.Shows here session.names)
    (hroom : (session.record index outcome).sink.isFull = false) :
    (session.record index outcome).Shows where
  allNamed := hcode.names
  refused := (Sink.pushAll_refused _ _).trans h.refused
  named := by
    intro name hname
    rcases ho.named name hname with hold | ⟨mark, hm, hdata, rfl⟩
    · obtain ⟨finding, hf, hfinding⟩ := h.named name hold
      exact ⟨finding, Sink.findings_subset_pushAll _ _ hf, hfinding⟩
    · obtain ⟨finding, hf, hkey⟩ :=
        Sink.exists_mem_pushAll h.refused hroom (List.mem_map_of_mem hm)
      have hcode' : finding.code = mark.code := congrArg Key.code hkey
      refine ⟨finding, hf, hcode'.trans hdata, ?_⟩
      exact (Finding.highlighted?_of_key_eq hkey _).trans ((hcode.marks mark hm).highlighted? hat)
  shown := by
    intro finding hf hdata
    rcases Sink.mem_pushAll hf with hold | ⟨report, hr, rfl⟩
    · obtain ⟨text, htext, hshown⟩ := h.shown finding hold hdata
      exact ⟨text, htext, hshown.imp_left (ho.grows.subset ·)⟩
    · obtain ⟨mark, hm, rfl⟩ := List.mem_map.mp hr
      exact ⟨_, (hcode.marks mark hm).highlighted? hat, ho.shown mark hm hdata⟩

/-- A check of the line at an index. Where it fails, the session stays as it is. -/
def call (session : Session) (call : LineCheck × Int) : Session :=
  match session.check call.1 call.2 with
  | .ok next => next
  | .error _ => session

theorem call_cases (session : Session) (check : LineCheck) (index : Int) :
    session.call (check, index) = session ∨ ∃ here outcome,
      Context.at? session.document.lines index = some here ∧
      check.judge session.scope session.names here = .ok outcome ∧
      session.call (check, index) = session.record index outcome := by
  have hcheck : session.check check index =
      (check.run session.scope session.document.lines session.names index).map
        (session.record index) := by
    unfold Session.check
    cases check.run session.scope session.document.lines session.names index <;> rfl
  simp only [call, hcheck, LineCheck.run]
  by_cases hidle : check.isIdle session.scope session.names = true
  · rw [if_pos hidle]
    exact .inl rfl
  · rw [if_neg hidle]
    cases hat : Context.at? session.document.lines index with
    | none => exact .inl rfl
    | some here =>
      cases hjudge : check.judge session.scope session.names here with
      | error fault => exact .inl (by simp only [hjudge, Except.map])
      | ok outcome => exact .inr ⟨here, outcome, rfl, hjudge, by simp only [hjudge, Except.map]⟩

theorem call_document (session : Session) (call : LineCheck × Int) :
    (session.call call).document = session.document := by
  rcases session.call_cases call.1 call.2 with h | ⟨here, outcome, -, -, h⟩ <;> rw [h]
  rfl

theorem isFull_of_call {call : LineCheck × Int} (h : (session.call call).sink.isFull = false) :
    session.sink.isFull = false := by
  rcases session.call_cases call.1 call.2 with hc | ⟨here, outcome, -, -, hc⟩
  · rwa [hc] at h
  · cases hf : session.sink.isFull with
    | false => rfl
    | true =>
      rw [hc, record, Sink.pushAll_of_isFull hf, hf] at h
      cases h

theorem Shows.call {call : LineCheck × Int} (h : session.Shows)
    (hroom : (session.call call).sink.isFull = false) : (session.call call).Shows := by
  rcases session.call_cases call.1 call.2 with hc | ⟨here, outcome, hat, hjudge, hc⟩
  · rwa [hc]
  · rw [hc] at hroom ⊢
    exact h.record hat (LineCheck.judge_onCode h.allNamed hjudge) (LineCheck.judge_shows hjudge)
      hroom

theorem isFull_of_calls {calls : List (LineCheck × Int)}
    (h : (calls.foldl Session.call session).sink.isFull = false) :
    session.sink.isFull = false := by
  induction calls generalizing session with
  | nil => exact h
  | cons call calls ih => exact isFull_of_call (ih h)

theorem Shows.calls {calls : List (LineCheck × Int)} (h : session.Shows)
    (hroom : (calls.foldl Session.call session).sink.isFull = false) :
    (calls.foldl Session.call session).Shows := by
  induction calls generalizing session with
  | nil => exact h
  | cons call calls ih => exact ih (h.call (isFull_of_calls hroom)) hroom

theorem calls_document (session : Session) (calls : List (LineCheck × Int)) :
    (calls.foldl Session.call session).document = session.document := by
  induction calls generalizing session with
  | nil => rfl
  | cons call calls ih => rw [List.foldl_cons, ih, call_document]

end Session

/-- Whatever checks were made on whatever lines, as long as the cap was not reached: every name that
is remembered as missing is highlighted by a finding about missing types, and every such finding
highlights a name that is remembered as missing, or empty brackets. -/
theorem calls_highlight_missing_names {text : List Char} {rules : Rules} {cap : Int}
    {naming : Option Naming} {fits : List Char → Bool} {session : Session}
    (hstart : Session.start text rules cap naming fits = .ok session)
    (calls : List (LineCheck × Int))
    (hroom : (calls.foldl Session.call session).sink.isFull = false) :
    let final := calls.foldl Session.call session
    (∀ name ∈ final.names.missing, ∃ finding ∈ final.sink.findings,
      finding.code = .missingDataType ∧ finding.highlighted? (splitLines text) = some name) ∧
    (∀ finding ∈ final.sink.findings, finding.code = .missingDataType →
      ∃ shown, finding.highlighted? (splitLines text) = some shown ∧
        (shown ∈ final.names.missing ∨ Text.IsEmptyBrackets shown)) := by
  obtain ⟨patterns, -, rfl⟩ := Session.exists_fresh_of_start hstart
  have hfresh : (Session.fresh text rules cap patterns).Shows :=
    ⟨List.forall_mem_nil _, rfl, List.forall_mem_nil _, List.forall_mem_nil _⟩
  obtain ⟨-, -, hnamed, hshown⟩ := hfresh.calls hroom
  have hlines : (calls.foldl Session.call (.fresh text rules cap patterns)).document.lines =
      splitLines text :=
    congrArg Document.lines (Session.calls_document _ calls)
  rw [hlines] at hnamed hshown
  exact ⟨hnamed, hshown⟩

/-- A name is used before and after it is found, brackets stand in front of another, and the last
line is also counted from the end. -/
theorem calls_highlight_missing_names_out_of_order :
    let text := "x = y;\n  [ ] z;\nfoo(x);".toList
    let calls : List (LineCheck × Int) :=
      [(.laterUses, 2), (.assignedNames, 0), (.bracketDeclarations, 1), (.laterUses, -1)]
    ∃ session, Session.start text .allOn 4 none fitsUsually = .ok session ∧
      let final := calls.foldl Session.call session
      final.sink.isFull = false ∧ final.names.missing = ["x".toList] ∧
      final.sink.findings.map (·.highlighted? (splitLines text)) =
        [some "x".toList, some "[ ]".toList, some "x".toList] ∧
      (∃ finding ∈ final.sink.findings,
        finding.code = .missingDataType ∧
          finding.highlighted? (splitLines text) = some "x".toList) ∧
      ∀ finding ∈ final.sink.findings, finding.code = .missingDataType →
        ∃ shown, finding.highlighted? (splitLines text) = some shown ∧
          (shown ∈ final.names.missing ∨ Text.IsEmptyBrackets shown) := by
  intro text calls
  have hstart : Session.start text .allOn 4 none fitsUsually = .ok (.fresh text .allOn 4 none) :=
    rfl
  refine ⟨_, hstart, by decide +kernel, by decide +kernel, by decide +kernel, ?_⟩
  obtain ⟨hnamed, hshown⟩ := calls_highlight_missing_names hstart calls (by decide +kernel)
  exact ⟨hnamed "x".toList (by decide +kernel), hshown⟩

end SolidityLint
