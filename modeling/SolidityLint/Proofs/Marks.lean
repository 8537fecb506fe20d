import SolidityLint.Proofs.Checks
import SolidityLint.Proofs.Line

/-!
# Marks lie on code

Every mark of a check lies on the code of its line and is not empty (`judge_onCode`). Later uses of
a name are marked by a search for the name, so names that were found without a type must not be
empty, and this is carried from line to line beside the marks.
-/

namespace SolidityLint

open Pattern

def Mark.OnCode (mark : Mark) (here : Context) : Prop :=
  mark.span.Fits here.code.length

def Names.AllNamed (names : Names) : Prop :=
  ∀ name ∈ names.missing, name ≠ []

structure Outcome.OnCode (outcome : Outcome) (here : Context) : Prop where
  marks : ∀ mark ∈ outcome.marks, mark.OnCode here
  names : outcome.names.AllNamed

section
variable {names : Names} {here : Context} {mark : Mark}

theorem Outcome.OnCode.silent (hn : names.AllNamed) : Outcome.OnCode { names } here :=
  ⟨fun _ h => (nomatch h), hn⟩

theorem Names.AllNamed.markMissing {name : List Char} (hn : names.AllNamed) (h : name ≠ []) :
    (names.markMissing name).AllNamed := by
  unfold Names.markMissing
  split
  · exact hn
  · intro other ho
    rcases List.mem_append.mp ho with ho | ho
    · exact hn other ho
    · rwa [List.mem_singleton.mp ho]

theorem Names.AllNamed.foldl_markMissing {found : List (List Char)} (hn : names.AllNamed)
    (h : ∀ name ∈ found, name ≠ []) : (found.foldl Names.markMissing names).AllNamed := by
  induction found generalizing names with
  | nil => exact hn
  | cons name found ih =>
    exact ih (hn.markMissing (h name List.mem_cons_self))
      fun other ho => h other (List.mem_cons_of_mem _ ho)

theorem Names.AllNamed.foldl_declare {found : List (List Char)} (hn : names.AllNamed) :
    (found.foldl Names.declare names).AllNamed := by
  induction found generalizing names with
  | nil => exact hn
  | cons name found ih =>
    refine ih ?_
    unfold Names.declare
    split <;> exact hn

end

namespace Check

variable {here : Context} {names : Names} {mark : Mark} {marks : List Mark}

-- ---------------------------------------------------------------------------
-- Security, keywords and value
-- ---------------------------------------------------------------------------

theorem txOrigin_onCode (h : mark ∈ txOrigin here) : mark.OnCode here := by
  obtain ⟨found, hf, rfl⟩ := List.mem_map.mp h
  exact search?_fits rfl (by decide) (Option.mem_toList.mp hf)

theorem selfdestruct_onCode (h : mark ∈ selfdestruct here) : mark.OnCode here := by
  obtain ⟨span, hs, rfl⟩ := List.mem_map.mp h
  exact search?_group_fits rfl (Option.mem_toList.mp hs)

theorem delegatecall_onCode (h : mark ∈ delegatecall here) : mark.OnCode here := by
  obtain ⟨found, hf, rfl⟩ := List.mem_map.mp h
  obtain ⟨hw, hl⟩ := (foundIn_of_search? (Option.mem_toList.mp hf)).span_bounds 14 rfl rfl
  have hlength : "delegatecall".length = 12 := rfl
  constructor
  · simp only [behindDot, hlength]
    omega
  · simp only [behindDot, hlength]
    omega

theorem callValueMark_onCode {found : Match} {width : Nat} (hw : 0 < width)
    (h : found.span.start + 2 ≤ found.span.stop ∧ found.span.stop ≤ here.code.length) :
    (callValueMark found width).OnCode here := by
  constructor
  · simp only [callValueMark, behindDot]
    omega
  · simp only [callValueMark, behindDot]
    omega

theorem lowLevelCallValue_onCode (h : mark ∈ lowLevelCallValue here) : mark.OnCode here := by
  unfold lowLevelCallValue at h
  split at h
  · rename_i found hf
    rcases List.mem_singleton.mp h with rfl
    obtain ⟨hw, hl⟩ := (foundIn_of_search? hf).span_bounds 12 rfl rfl
    exact callValueMark_onCode (by decide) ⟨by omega, hl⟩
  · obtain ⟨found, hf, rfl⟩ := List.mem_map.mp h
    obtain ⟨hw, hl⟩ := (foundIn_of_search? (Option.mem_toList.mp hf)).span_bounds 12 rfl rfl
    exact callValueMark_onCode (by decide) ⟨by omega, hl⟩

theorem wrongKeywords_onCode (h : mark ∈ wrongKeywords here) : mark.OnCode here := by
  obtain ⟨⟨pattern, message⟩, hp, h⟩ := List.mem_filterMap.mp h
  obtain ⟨span, hs, rfl⟩ := Option.map_eq_some_iff.mp h
  have hall : ∀ entry ∈ wrongKeywordPatterns, entry.1.groupWidths?.any (0 < ·.1) = true := by
    decide
  exact search?_group_fits (hall _ hp) hs

theorem missingPayable_onCode (h : mark ∈ missingPayable here) : mark.OnCode here := by
  unfold missingPayable at h
  split at h
  · cases h
  · rename_i found hf
    split at h
    · cases h
    · rcases List.mem_singleton.mp h with rfl
      exact search?_fits rfl (by decide) hf

-- ---------------------------------------------------------------------------
-- Semicolons and parentheses
-- ---------------------------------------------------------------------------

theorem MarksSemicolon.onCode (h : MarksSemicolon here mark) : mark.OnCode here := by
  obtain ⟨hc, message, rfl⟩ := h
  exact ⟨Nat.lt_succ_self _, Line.lastCodeColumn_lt (Line.code_ne_nil hc)⟩

/-- A word and a stray character leave no room for a comment. -/
theorem code_of_strayCharacter {line : Line} (h : strayCharacter.opens line = true) :
    line ≠ [] ∧ line.code = line := by
  obtain ⟨found, hm⟩ := Option.isSome_iff_exists.mp h
  obtain ⟨last, htakes, -⟩ := takes_of_matchAt? rfl hm
  obtain ⟨a, ⟨-, rfl⟩, b, hb, c, hc, d, hd, e, ⟨x, rest, he, -, rfl⟩, hend, rfl⟩ := htakes
  obtain ⟨first, hfirst, hblanks⟩ := takes_times_one hb
  obtain ⟨word, hword, hletters⟩ := takes_times_one hc
  obtain ⟨second, hsecond, hmore⟩ := takes_times_one hd
  have hline : line = (first ++ word ++ second) ++ d.after :=
    ((hfirst.trans hword).trans hsecond).after
  have hfront : '/' ∉ first ++ word ++ second := by
    simp only [List.mem_append, not_or]
    refine ⟨⟨fun hx => ?_, fun hx => ?_⟩, fun hx => ?_⟩
    · exact absurd (hblanks _ hx) (by decide +kernel)
    · exact absurd (hletters _ hx) (by decide +kernel)
    · exact absurd (hmore _ hx) (by decide +kernel)
  have hrest : rest = [] ∨ rest = ['\n'] := by
    simpa [Anchor.holds, Place.step] using hend
  have hcode : Line.code (x :: rest) = x :: rest := by
    rcases hrest with rfl | rfl <;> simp [Line.code]
  rw [hline, he, Line.code_append_of_not_mem hfront, hcode]
  simp

theorem missingParentheses_onCode (h : mark ∈ missingParentheses here) : mark.OnCode here := by
  unfold missingParentheses at h
  simp only at h
  split at h
  · rename_i hc
    rcases List.mem_singleton.mp h with rfl
    simp only [Bool.and_eq_true] at hc
    obtain ⟨hne, hcode⟩ := code_of_strayCharacter hc.1.1.1.1
    have hpos := List.length_pos_iff.mpr hne
    constructor
    · exact Nat.lt_succ_self _
    · rw [Context.code, hcode]
      dsimp only
      omega
  · cases h

-- ---------------------------------------------------------------------------
-- Data types
-- ---------------------------------------------------------------------------

theorem missingNames_onCode {found : List (Span × List Char)} (hn : names.AllNamed)
    (h : ∀ place ∈ found, place.1.Fits here.code.length ∧ place.2 ≠ []) :
    (missingNames found names).OnCode here where
  marks := by
    intro mark hm
    obtain ⟨place, hp, rfl⟩ := List.mem_map.mp hm
    exact (h place hp).1
  names := by
    refine hn.foldl_markMissing fun name hname => ?_
    obtain ⟨place, hp, rfl⟩ := List.mem_map.mp hname
    exact (h place hp).2

theorem assignedNames_onCode (hn : names.AllNamed) : (assignedNames here names).OnCode here := by
  refine missingNames_onCode hn fun place hp => ?_
  obtain ⟨span, hs, rfl⟩ := List.mem_map.mp (List.mem_filter.mp hp).1
  have hfits : span.Fits here.code.length := findAll_group_fits rfl hs
  exact ⟨hfits, hfits.of_ne_nil⟩

theorem bracketDeclarations_onCode (h : mark ∈ bracketDeclarations here) : mark.OnCode here := by
  obtain ⟨span, hs, rfl⟩ := List.mem_map.mp h
  exact findAll_group_fits rfl hs

theorem bareNames_onCode (hn : names.AllNamed) : (bareNames here names).OnCode here := by
  unfold bareNames
  split
  · exact .silent hn
  · rename_i span hs
    have hfits : span.Fits here.code.length := match?_group_fits rfl hs
    simp only
    split
    · exact .silent hn
    · refine missingNames_onCode hn fun place hp => ?_
      rcases List.mem_singleton.mp hp with rfl
      exact ⟨hfits, hfits.of_ne_nil⟩

theorem namePlace?_fits {offset : Nat} {part name : List Char} {span : Span}
    (h : namePlace? offset part = some (span, name)) :
    span.Fits (offset + part.length) ∧ name ≠ [] := by
  obtain ⟨⟨before, name⟩, hf, he⟩ := Option.map_eq_some_iff.mp h
  cases he
  obtain ⟨hne, hl⟩ := Text.firstName?_bounds hf
  have hpos := List.length_pos_iff.mpr hne
  refine ⟨⟨?_, ?_⟩, hne⟩
  · dsimp only
    omega
  · dsimp only
    omega

theorem listItems_le {span : Span} {item : Nat × List Char} {text : List Char}
    (hl : span.start ≤ span.stop) (hr : span.stop ≤ text.length)
    (h : item ∈ Text.listItems span.start (span.of text)) :
    item.1 + item.2.length ≤ text.length := by
  obtain ⟨-, hitem⟩ := Text.listItems_bounds h
  rw [Span.length_of hr] at hitem
  omega

theorem tupleNames_onCode (hn : names.AllNamed) : (tupleNames here names).OnCode here := by
  unfold tupleNames
  split
  · exact .silent hn
  · rename_i slots hs
    obtain ⟨hslots, hstop⟩ := search?_group_bounds 0 2 rfl hs
    refine missingNames_onCode hn fun place hp => ?_
    obtain ⟨slot, hslot, hp⟩ := List.mem_filterMap.mp hp
    have hle := listItems_le hslots (by omega) hslot
    simp only [untypedSlot?] at hp
    split at hp
    · cases hp
    · obtain ⟨hfits, hne⟩ := namePlace?_fits (Option.filter_eq_some_iff.mp hp).1
      exact ⟨⟨hfits.start_lt, Nat.le_trans hfits.stop_le hle⟩, hne⟩

theorem untypedParameter?_fits {parameter : Nat × List Char} {found : UntypedParameter}
    (h : untypedParameter? parameter = some found) :
    found.span.Fits (parameter.1 + parameter.2.length) ∧ ∀ name ∈ found.name?, name ≠ [] := by
  simp only [untypedParameter?] at h
  split at h
  · cases h
  · split at h
    · rename_i brackets hb
      obtain ⟨span, hs, rfl⟩ := Option.map_eq_some_iff.mp h
      obtain ⟨hlt, hle⟩ := (foundIn_of_match? hb).group_fits rfl hs
      refine ⟨⟨?_, ?_⟩, fun _ hname => (nomatch hname)⟩
      · simp only [UntypedParameter.span, Span.shift]
        omega
      · simp only [UntypedParameter.span, Span.shift]
        omega
    · split at h
      · cases h
      · obtain ⟨⟨span, name⟩, hp, rfl⟩ := Option.map_eq_some_iff.mp h
        obtain ⟨hfits, hne⟩ := namePlace?_fits hp
        refine ⟨hfits, fun other ho => ?_⟩
        cases ho
        exact hne

theorem parameterNames_onCode (hn : names.AllNamed) : (parameterNames here names).OnCode here := by
  unfold parameterNames
  split
  · exact .silent hn
  · rename_i span hs
    obtain ⟨hspan, hstop⟩ := search?_group_bounds 0 1 rfl hs
    constructor
    · intro mark hm
      obtain ⟨found, hf, rfl⟩ := List.mem_map.mp hm
      obtain ⟨parameter, hp, hu⟩ := List.mem_filterMap.mp hf
      obtain ⟨⟨hlt, hle⟩, -⟩ := untypedParameter?_fits hu
      exact ⟨hlt, Nat.le_trans hle (listItems_le hspan (by omega) hp)⟩
    · refine hn.foldl_markMissing fun name hname => ?_
      obtain ⟨found, hf, hname⟩ := List.mem_filterMap.mp hname
      obtain ⟨parameter, hp, hu⟩ := List.mem_filterMap.mp hf
      exact (untypedParameter?_fits hu).2 name hname

theorem parameterBrackets_onCode (h : mark ∈ parameterBrackets here) : mark.OnCode here := by
  unfold parameterBrackets at h
  split at h
  · cases h
  · rename_i span hs
    obtain ⟨hspan, hstop⟩ := search?_group_bounds 0 1 rfl hs
    obtain ⟨found, hf, rfl⟩ := List.mem_map.mp h
    obtain ⟨hlt, hle⟩ := findAll_group_fits rfl (List.mem_filter.mp hf).1
    rw [Span.length_of (by omega)] at hle
    constructor
    · simp only [dataTypeMark, Span.shift]
      omega
    · simp only [dataTypeMark, Span.shift]
      omega

theorem isPlain_wholeWord (name : List Char) : (wholeWord name).isPlain = true := by
  have hname : (all (name.map char)).isPlain = true := by
    induction name with
    | nil => rfl
    | cons x name ih =>
      rw [List.map_cons, isPlain_all_cons, ih]
      rfl
  simp only [wholeWord, isPlain_all_cons, hname]
  rfl

theorem width_wholeWord (name : List Char) : ((wholeWord name).width []).least = name.length := by
  have hname : ((all (name.map char)).width []).least = name.length := by
    induction name with
    | nil => rfl
    | cons x name ih =>
      rw [List.map_cons, least_width_all_cons, ih, List.length_cons, Nat.add_comm]
      rfl
  simp only [wholeWord, least_width_all_cons, hname]
  simp [boundary, all, width, Width.exactly]

theorem laterUses_onCode (hn : names.AllNamed) (h : mark ∈ laterUses here names) :
    mark.OnCode here := by
  obtain ⟨name, hname, h⟩ := List.mem_filterMap.mp h
  obtain ⟨found, hf, rfl⟩ := Option.map_eq_some_iff.mp h
  refine search?_fits (isPlain_wholeWord name) ?_ hf
  rw [width_wholeWord]
  exact List.length_pos_iff.mpr (hn name hname)

-- ---------------------------------------------------------------------------
-- Naming
-- ---------------------------------------------------------------------------

theorem nameMarks_fits {offset length : Nat} {segment : List Char} {pattern : Expression}
    {code : Code} {label : String} (hm : nameMarks offset segment pattern code label = .ok marks)
    (hfirst : offset + (segment.length - (Text.trimStart segment).length) < length)
    (hlast : offset + segment.length ≤ length) (h : mark ∈ marks) : mark.span.Fits length := by
  have htrim := Text.trimStart_length_le segment
  have hname := Text.leadingName_length_le (Text.trimStart segment)
  have hpos := List.length_pos_iff (l := Text.leadingName (Text.trimStart segment))
  rcases nameMarks_ok hm with ⟨-, rfl⟩ | ⟨hne, -, rfl⟩ | ⟨-, -, -, rfl⟩ | ⟨hne, -, -, rfl⟩
  · rcases List.mem_singleton.mp h with rfl
    exact ⟨Nat.lt_succ_self _, hfirst⟩
  · rcases List.mem_singleton.mp h with rfl
    have := hpos.mpr hne
    exact ⟨by dsimp only; omega, by dsimp only; omega⟩
  · cases h
  · rcases List.mem_singleton.mp h with rfl
    have := hpos.mpr hne
    exact ⟨by dsimp only; omega, by dsimp only; omega⟩

theorem functionNaming_onCode {pattern : Expression}
    (hm : functionNaming pattern here = .ok marks) (h : mark ∈ marks) : mark.OnCode here := by
  unfold functionNaming at hm
  split at hm
  · cases hm; cases h
  · rename_i span hs
    obtain ⟨hspan, hstop⟩ := search?_group_bounds 0 1 rfl hs
    have hl : (span.of here.code).length = span.stop - span.start := Span.length_of (by omega)
    exact nameMarks_fits hm (by omega) (by omega) h

theorem beforeInheritance_length_le (segment : List Char) :
    (beforeInheritance segment).length ≤ segment.length := by
  unfold beforeInheritance
  split
  · exact (List.take_sublist _ _).length_le
  · exact Nat.le_refl _

theorem contractNaming_onCode {pattern : Expression}
    (hm : contractNaming pattern here = .ok marks) (h : mark ∈ marks) : mark.OnCode here := by
  unfold contractNaming at hm
  split at hm
  · cases hm; cases h
  · rename_i span hs
    obtain ⟨hspan, hstop⟩ := search?_group_bounds 0 1 rfl hs
    have hl : (span.of here.code).length = span.stop - span.start := Span.length_of (by omega)
    have hle := beforeInheritance_length_le (span.of here.code)
    exact nameMarks_fits hm (by omega) (by omega) h

theorem variableSegment_bounds {code : Line} {token : Text.Token}
    (ht : token ∈ Text.tokens (Line.maskMappings code))
    (hs : startsVariable code token = true) :
    let segment := variableSegment code token.offset
    Text.trimStart segment = segment ∧ 0 < segment.length ∧
      token.offset + segment.length ≤ code.length := by
  intro segment
  obtain ⟨x, hx, hblank⟩ := Text.tokens_start ht
  obtain ⟨y, hy, hb⟩ := Line.getElem?_of_maskMappings hx hblank
  have hne : segment ≠ [] := by
    simp only [startsVariable, Bool.and_eq_true] at hs
    simpa using hs.2
  obtain ⟨hi, hy⟩ := List.getElem?_eq_some_iff.mp hy
  have hdrop : code.drop token.offset = y :: code.drop (token.offset + 1) := by
    rw [← hy]
    exact List.drop_eq_getElem_cons hi
  have hle : segment.length ≤ (code.drop token.offset).length :=
    (List.takeWhile_sublist _).length_le
  rw [List.length_drop] at hle
  refine ⟨?_, List.length_pos_iff.mpr hne, by omega⟩
  have hsegment : segment = (y :: code.drop (token.offset + 1)).takeWhile (!endsVariable ·) := by
    rw [← hdrop]
    rfl
  rw [List.takeWhile_cons] at hsegment
  split at hsegment
  · rw [hsegment]
    exact Text.trimStart_of_not_isBlank hb
  · exact absurd hsegment hne

theorem variableNaming_onCode {patterns : NamePatterns}
    (hm : variableNaming patterns here = .ok marks) (h : mark ∈ marks) : mark.OnCode here := by
  unfold variableNaming at hm
  split at hm
  · split at hm
    · cases hm; cases h
    · simp only at hm
      split at hm
      · cases hm; cases h
      · rename_i token htoken
        have hmem := List.mem_of_mem_tail (List.mem_of_find?_eq_some htoken)
        obtain ⟨htrim, hpos, hl⟩ := variableSegment_bounds hmem (List.find?_some htoken)
        refine nameMarks_fits hm ?_ hl h
        rw [htrim]
        omega
  · cases hm; cases h

end Check

theorem LineCheck.judge_onCode {check : LineCheck} {scope : Scope} {names : Names} {here : Context}
    {outcome : Outcome} (hn : names.AllNamed) (h : check.judge scope names here = .ok outcome) :
    outcome.OnCode here := by
  cases check with
  | txOrigin => cases h; exact ⟨fun _ => Check.txOrigin_onCode, hn⟩
  | selfdestruct => cases h; exact ⟨fun _ => Check.selfdestruct_onCode, hn⟩
  | delegatecall => cases h; exact ⟨fun _ => Check.delegatecall_onCode, hn⟩
  | lowLevelCallValue => cases h; exact ⟨fun _ => Check.lowLevelCallValue_onCode, hn⟩
  | openDeclaration => cases h; exact ⟨fun _ hm => (Check.openDeclaration_marks hm).onCode, hn⟩
  | openStatement => cases h; exact ⟨fun _ hm => (Check.openStatement_marks hm).onCode, hn⟩
  | openLastLine => cases h; exact ⟨fun _ hm => (Check.openLastLine_marks hm).onCode, hn⟩
  | loneName => cases h; exact ⟨fun _ hm => (Check.loneName_marks hm).onCode, hn⟩
  | missingParentheses => cases h; exact ⟨fun _ => Check.missingParentheses_onCode, hn⟩
  | wrongKeywords => cases h; exact ⟨fun _ => Check.wrongKeywords_onCode, hn⟩
  | typedDeclarations => cases h; exact ⟨fun _ hm => (nomatch hm), hn.foldl_declare⟩
  | assignedNames => cases h; exact Check.assignedNames_onCode hn
  | bracketDeclarations => cases h; exact ⟨fun _ => Check.bracketDeclarations_onCode, hn⟩
  | tupleNames => cases h; exact Check.tupleNames_onCode hn
  | bareNames => cases h; exact Check.bareNames_onCode hn
  | parameterNames => cases h; exact Check.parameterNames_onCode hn
  | parameterBrackets => cases h; exact ⟨fun _ => Check.parameterBrackets_onCode, hn⟩
  | laterUses => cases h; exact ⟨fun _ => Check.laterUses_onCode hn, hn⟩
  | missingPayable =>
    cases h
    refine ⟨fun mark hm => ?_, hn⟩
    simp only at hm
    split at hm
    · exact Check.missingPayable_onCode hm
    · cases hm
  | functionNaming =>
    obtain ⟨hnames, hmarks⟩ := functionNaming_ok h
    refine ⟨fun mark hm => ?_, hnames ▸ hn⟩
    rcases hmarks with he | ⟨pattern, -, hmarks⟩
    · rw [he] at hm
      cases hm
    · exact Check.functionNaming_onCode hmarks hm
  | variableNaming =>
    obtain ⟨hnames, hmarks⟩ := variableNaming_ok h
    refine ⟨fun mark hm => ?_, hnames ▸ hn⟩
    rcases hmarks with he | ⟨patterns, -, hmarks⟩
    · rw [he] at hm
      cases hm
    · exact Check.variableNaming_onCode hmarks hm
  | contractNaming =>
    obtain ⟨hnames, hmarks⟩ := contractNaming_ok h
    refine ⟨fun mark hm => ?_, hnames ▸ hn⟩
    rcases hmarks with he | ⟨pattern, -, hmarks⟩
    · rw [he] at hm
      cases hm
    · exact Check.contractNaming_onCode hmarks hm

theorem LineCheck.outcome_onCode {names : Names} (check : LineCheck) (scope : Scope)
    (here : Context) (hn : names.AllNamed) : (check.rule.outcome scope names here).OnCode here := by
  simp only [Rule.outcome, rule]
  split
  · rename_i outcome h
    exact judge_onCode hn h
  · exact .silent hn

end SolidityLint
