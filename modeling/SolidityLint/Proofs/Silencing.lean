import SolidityLint.Proofs.DeclaringLine
import SolidityLint.Proofs.Document

/-!
# A declaration silences its name

A run that knows a name more is kept beside one that does not (`Names.Quieter`): on every line the
second one says all that the first one says, and beside it only what shows the name. So a line in
front that declares a name takes away findings that show the name, and nothing else
(`analyze_declaring_silences`).
-/

namespace SolidityLint

open Pattern Text Vocabulary

-- ---------------------------------------------------------------------------
-- Two runs side by side
-- ---------------------------------------------------------------------------

/-- Two runs that know the same names but for one. The quiet run may have it declared where the loud
one does not, and the loud one may miss it where the quiet one does not. -/
structure Names.Quieter (name : List Char) (quiet loud : Names) : Prop where
  declared : loud.declared ⊆ quiet.declared
  declared_only : ∀ other ∈ quiet.declared, other ∈ loud.declared ∨ other = name
  missing : quiet.missing ⊆ loud.missing
  missing_only : ∀ other ∈ loud.missing, other ∈ quiet.missing ∨ other = name

/-- What such runs say about a line: the loud one says all that the quiet one says, and beside it
nothing but what shows the name. -/
structure Outcome.Quieter (name : List Char) (code : Line) (quiet loud : Outcome) : Prop where
  names : quiet.names.Quieter name loud.names
  marks : quiet.marks ⊆ loud.marks
  marks_only : ∀ mark ∈ loud.marks, mark ∈ quiet.marks ∨ mark.span.of code = name

section
variable {check : LineCheck} {checks : List LineCheck} {here : Context} {quiet loud : Names}
  {name : List Char} {code : Line} {found few : List (List Char)}

namespace Names.Quieter

variable (h : quiet.Quieter name loud)
include h

theorem foldl_declare (found : List (List Char)) :
    (found.foldl Names.declare quiet).Quieter name (found.foldl Names.declare loud) where
  declared other ho :=
    Names.mem_foldl_declare.mpr ((Names.mem_foldl_declare.mp ho).imp_left (h.declared ·))
  declared_only other ho := by
    rcases Names.mem_foldl_declare.mp ho with ho | ho
    · exact (h.declared_only other ho).imp_left fun ho => Names.mem_foldl_declare.mpr (.inl ho)
    · exact .inl (Names.mem_foldl_declare.mpr (.inr ho))
  missing := by simpa only [Names.foldl_declare_missing] using h.missing
  missing_only := by simpa only [Names.foldl_declare_missing] using h.missing_only

theorem foldl_markMissing (hfew : few ⊆ found)
    (hrest : ∀ other ∈ found, other ∈ few ∨ other = name) :
    (few.foldl Names.markMissing quiet).Quieter name (found.foldl Names.markMissing loud) where
  declared := by simpa only [Names.foldl_markMissing_declared] using h.declared
  declared_only := by simpa only [Names.foldl_markMissing_declared] using h.declared_only
  missing other ho :=
    Names.mem_foldl_markMissing.mpr ((Names.mem_foldl_markMissing.mp ho).imp (h.missing ·) (hfew ·))
  missing_only other ho := by
    simp only [Names.mem_foldl_markMissing] at ho ⊢
    rcases ho with ho | ho
    · exact (h.missing_only other ho).imp_left .inl
    · exact (hrest other ho).imp_left .inr

theorem undeclared {places : List (Span × List Char)}
    (hp : ∀ place ∈ places, place.1.of code = place.2) :
    Outcome.Quieter name code (Check.missingNames (quiet.undeclared places) quiet)
      (Check.missingNames (loud.undeclared places) loud) := by
  have hfew : quiet.undeclared places ⊆ loud.undeclared places := by
    intro place hm
    obtain ⟨hm, hq⟩ := Names.mem_undeclared.mp hm
    exact Names.mem_undeclared.mpr ⟨hm, fun hl => hq (h.declared hl)⟩
  have hrest : ∀ place ∈ loud.undeclared places,
      place ∈ quiet.undeclared places ∨ place.2 = name := by
    intro place hm
    obtain ⟨hm, hl⟩ := Names.mem_undeclared.mp hm
    by_cases hq : place.2 ∈ quiet.declared
    · exact .inr ((h.declared_only _ hq).resolve_left hl)
    · exact .inl (Names.mem_undeclared.mpr ⟨hm, hq⟩)
  refine ⟨h.foldl_markMissing (List.map_subset _ hfew) ?_, List.map_subset _ hfew, ?_⟩
  · intro other ho
    obtain ⟨place, hplace, rfl⟩ := List.mem_map.mp ho
    exact (hrest place hplace).imp_left (List.mem_map_of_mem ·)
  · intro mark hm
    obtain ⟨place, hplace, rfl⟩ := List.mem_map.mp hm
    refine (hrest place hplace).imp (List.mem_map.mpr ⟨place, ·, rfl⟩) fun hname => ?_
    exact (hp place (Names.mem_undeclared.mp hplace).1).trans hname

theorem laterUses :
    Outcome.Quieter name here.code { marks := Check.laterUses here quiet, names := quiet }
      { marks := Check.laterUses here loud, names := loud } := by
  refine ⟨h, fun mark hm => ?_, fun mark hm => ?_⟩
  · obtain ⟨other, ho, hm⟩ := List.mem_filterMap.mp hm
    exact List.mem_filterMap.mpr ⟨other, h.missing ho, hm⟩
  · obtain ⟨other, ho, hm⟩ := List.mem_filterMap.mp hm
    rcases h.missing_only other ho with ho | rfl
    · exact .inl (List.mem_filterMap.mpr ⟨other, ho, hm⟩)
    · obtain ⟨found, hf, rfl⟩ := Option.map_eq_some_iff.mp hm
      exact .inr (Check.search?_wholeWord_of hf)

theorem outcome (hc : check ∈ LineCheck.forTypes) (scope : Scope) (here : Context) :
    Outcome.Quieter name here.code (check.rule.outcome scope quiet here)
      (check.rule.outcome scope loud here) := by
  rcases LineCheck.outcome_cases hc scope here with
    ⟨found, ho⟩ | ⟨places, hp, ho⟩ | ⟨-, spans, found, ho⟩ | ⟨spans, ho⟩ | ho <;> rw [ho, ho]
  · exact ⟨h.foldl_declare found, List.Subset.refl _, fun mark hm => .inl hm⟩
  · exact h.undeclared hp
  · exact ⟨h.foldl_markMissing (List.Subset.refl _) fun _ hm => .inl hm, List.Subset.refl _,
      fun mark hm => .inl hm⟩
  · exact ⟨h, List.Subset.refl _, fun mark hm => .inl hm⟩
  · exact h.laterUses

theorem rulesOutcome (hc : ∀ check ∈ checks, check ∈ LineCheck.forTypes) (scope : Scope)
    (here : Context) :
    Outcome.Quieter name here.code
      (SolidityLint.rulesOutcome scope here (checks.map LineCheck.rule) quiet)
      (SolidityLint.rulesOutcome scope here (checks.map LineCheck.rule) loud) := by
  induction checks generalizing quiet loud with
  | nil => exact ⟨h, List.Subset.refl _, fun mark hm => .inl hm⟩
  | cons check checks ih =>
    obtain ⟨hcheck, hchecks⟩ := List.forall_mem_cons.mp hc
    have hfirst := h.outcome hcheck scope here
    have hlater := ih hfirst.names hchecks
    refine ⟨hlater.names, fun mark hm => ?_, fun mark hm => ?_⟩
    · exact List.mem_append.mpr ((List.mem_append.mp hm).imp (hfirst.marks ·) (hlater.marks ·))
    rcases List.mem_append.mp hm with hm | hm
    · exact (hfirst.marks_only mark hm).imp_left (List.mem_append_left _ ·)
    · exact (hlater.marks_only mark hm).imp_left (List.mem_append_right _ ·)

theorem typeOutcome (line : Line) :
    Outcome.Quieter name line.code (SolidityLint.typeOutcome line quiet)
      (SolidityLint.typeOutcome line loud) :=
  h.rulesOutcome (fun _ hc => hc) _ ⟨[], line, []⟩

theorem knownNames (lines : List Line) :
    (SolidityLint.knownNames lines quiet).Quieter name (SolidityLint.knownNames lines loud) := by
  induction lines generalizing quiet loud with
  | nil => exact h
  | cons line lines ih => exact ih (h.typeOutcome line).names

end Names.Quieter

end

-- ---------------------------------------------------------------------------
-- Names that stay known
-- ---------------------------------------------------------------------------

/-- The name is declared and was not found without a type. -/
structure Names.Knows (names : Names) (name : List Char) : Prop where
  declared : name ∈ names.declared
  missing : name ∉ names.missing

/-- The name is neither a bare declaration nor a parameter without a type on the line. -/
def Context.Spares (here : Context) (name : List Char) : Prop :=
  ∀ mark ∈ (Check.bareNames here {}).marks ++ (Check.parameterNames here {}).marks,
    mark.span.of here.code ≠ name

section
variable {check : LineCheck} {checks : List LineCheck} {here there : Context} {names : Names}
  {name : List Char}

theorem Text.not_isEmptyBrackets_of_isName (hname : isName name = true) :
    ¬IsEmptyBrackets name := by
  rintro ⟨gap, -, rfl⟩
  cases hname

theorem Context.Spares.of_line (h : here.Spares name) (hline : here.line = there.line) :
    there.Spares name := by
  have hcode : here.code = there.code := congrArg Line.code hline
  have hbare : Check.bareNames here {} = Check.bareNames there {} := by
    simp only [Check.bareNames, hcode]
  have hparameter : Check.parameterNames here {} = Check.parameterNames there {} := by
    simp only [Check.parameterNames, hcode]
  rwa [Spares, hbare, hparameter, hcode] at h

namespace Names.Knows

variable (h : names.Knows name) (hname : isName name = true) (hs : here.Spares name)
include h hname hs

theorem outcome (hc : check ∈ LineCheck.forTypes) (scope : Scope) :
    (check.rule.outcome scope names here).names.Knows name ∧
      ∀ mark ∈ (check.rule.outcome scope names here).marks, mark.span.of here.code ≠ name := by
  have hshows := check.outcome_shows scope names here
  have hkept (found : List (List Char)) :
      name ∈ (found.foldl Names.markMissing names).declared := by
    rw [Names.foldl_markMissing_declared]
    exact h.declared
  have hknows : (check.rule.outcome scope names here).names.Knows name := by
    rcases LineCheck.outcome_cases hc scope here with
      ⟨found, ho⟩ | ⟨places, -, ho⟩ | ⟨hcheck, spans, found, ho⟩ | ⟨spans, ho⟩ | ho
    · rw [ho]
      refine ⟨Names.mem_foldl_declare.mpr (.inl h.declared), ?_⟩
      rw [Names.foldl_declare_missing]
      exact h.missing
    · rw [ho]
      refine ⟨hkept _, fun hm => ?_⟩
      refine (Names.mem_foldl_markMissing.mp hm).elim h.missing fun hm => ?_
      obtain ⟨place, hp, rfl⟩ := List.mem_map.mp hm
      exact (Names.mem_undeclared.mp hp).2 h.declared
    · constructor
      · rw [ho]
        exact hkept found
      · intro hm
        obtain ⟨mark, hm, -, hshown⟩ := (hshows.named name hm).resolve_left h.missing
        have hsame : (check.rule.outcome scope names here).marks =
            (check.rule.outcome scope {} here).marks := by
          rw [ho, ho]
        rw [hsame] at hm
        rcases hcheck with rfl | rfl
        · exact hs mark (List.mem_append_left _ hm) hshown
        · exact hs mark (List.mem_append_right _ hm) hshown
    · rw [ho]
      exact h
    · rw [ho]
      exact h
  refine ⟨hknows, fun mark hm hshown => ?_⟩
  have hcode : mark.code = .missingDataType := by
    rw [LineCheck.eq_dataTypeMark hc hm]
    rfl
  rcases hshows.shown mark hm hcode with hmissing | hbrackets
  · exact hknows.missing (hshown ▸ hmissing)
  · exact not_isEmptyBrackets_of_isName hname (hshown ▸ hbrackets)

theorem rulesOutcome (hc : ∀ check ∈ checks, check ∈ LineCheck.forTypes) (scope : Scope) :
    let said := SolidityLint.rulesOutcome scope here (checks.map LineCheck.rule) names
    said.names.Knows name ∧ ∀ mark ∈ said.marks, mark.span.of here.code ≠ name := by
  induction checks generalizing names with
  | nil => exact ⟨h, List.forall_mem_nil _⟩
  | cons check checks ih =>
    obtain ⟨hcheck, hchecks⟩ := List.forall_mem_cons.mp hc
    obtain ⟨hfirst, hmarks⟩ := h.outcome hname hs hcheck scope
    obtain ⟨hlater, hothers⟩ := ih hfirst hchecks
    refine ⟨hlater, fun mark hm => ?_⟩
    rcases List.mem_append.mp hm with hm | hm
    · exact hmarks mark hm
    · exact hothers mark hm

end Names.Knows

theorem Names.Knows.typeOutcome {line : Line} (h : names.Knows name) (hname : isName name = true)
    (hs : Context.Spares ⟨[], line, []⟩ name) :
    (typeOutcome line names).names.Knows name ∧
      ∀ mark ∈ (SolidityLint.typeOutcome line names).marks, mark.span.of line.code ≠ name :=
  h.rulesOutcome hname hs (fun _ hc => hc) _

theorem Names.Knows.knownNames {lines : List Line} (h : names.Knows name)
    (hname : isName name = true) (hs : ∀ line ∈ lines, Context.Spares ⟨[], line, []⟩ name) :
    (knownNames lines names).Knows name := by
  induction lines generalizing names with
  | nil => exact h
  | cons line lines ih =>
    obtain ⟨hline, hlines⟩ := List.forall_mem_cons.mp hs
    exact ih (h.typeOutcome hname hline).1 hlines

end

-- ---------------------------------------------------------------------------
-- Analyses
-- ---------------------------------------------------------------------------

def Finding.up (finding : Finding) : Finding :=
  { finding with
    range :=
      ⟨⟨finding.range.start.line - 1, finding.range.start.character⟩,
        ⟨finding.range.stop.line - 1, finding.range.stop.character⟩⟩ }

section
variable {name : List Char} {lines : List Line} {row : Nat} {mark : Mark}

theorem typeOutcome_declaring_quieter (hn : isName name = true) :
    (typeOutcome (Line.declaring name) {}).names.Quieter name {} := by
  rw [typeOutcome_declaring hn]
  refine ⟨List.nil_subset _, fun other ho => ?_, ?_, List.forall_mem_nil _⟩
  · have ho := (Names.mem_foldl_declare.mp ho).resolve_left List.not_mem_nil
    exact .inr ((Check.mem_typedNames_declaring hn).mp ho).1
  · rw [Names.foldl_declare_missing]
    exact List.Subset.refl _

theorem typeOutcome_declaring_knows (hn : isName name = true)
    (hk : isKeywordOf modifiers name = false) (hf : ¬SameLetters name "function".toList) :
    (typeOutcome (Line.declaring name) {}).names.Knows name := by
  have hword : Check.functionWord.occursIn (Line.declaring name) = false :=
    Bool.eq_false_iff.mpr fun h => hf (Check.sameLetters_of_functionWord hn h)
  rw [typeOutcome_declaring hn]
  refine ⟨Names.mem_foldl_declare.mpr (.inr ?_), ?_⟩
  · exact (Check.mem_typedNames_declaring hn).mpr ⟨rfl, hk, hword⟩
  · rw [Names.foldl_declare_missing]
    exact List.not_mem_nil

theorem Mark.report_up (mark : Mark) (row : Nat) :
    (mark.report (row + 1 : Nat)).finding.up = (mark.report row).finding := by
  have hrow : ((row + 1 : Nat) : Int) - 1 = row := by omega
  simp only [Finding.up, Mark.report, Report.finding, hrow]

theorem splitLines_declaring (hn : isName name = true) (text : List Char) :
    splitLines (Line.declaring name ++ '\n' :: text) =
      Line.declaring name :: splitLines text := by
  have hfeed : '\n' ∉ Line.declaring name :=
    Line.not_mem_declaring hn (by decide) (by decide) (by decide)
  have hreturn : '\r' ∉ Line.declaring name :=
    Line.not_mem_declaring hn (by decide) (by decide) (by decide)
  exact splitLines_append hfeed (fun hlast => absurd (List.mem_of_getLast? hlast) hreturn)
    (splitLines_lineEnd .feed text)

/-- Behind a line that declares a name, the marks are those of a run that knows the name. -/
theorem typeMark_declaring (hn : isName name = true) :
    TypeMark (Line.declaring name :: lines) row mark ↔
      ∃ k line, row = k + 1 ∧ lines[k]? = some line ∧
        mark ∈ (typeOutcome line (knownNames (lines.take k)
          (typeOutcome (Line.declaring name) {}).names)).marks := by
  cases row with
  | zero =>
    constructor
    · rintro ⟨line, hline, hm⟩
      cases hline
      have hm : mark ∈ (typeOutcome (Line.declaring name) {}).marks := hm
      rw [typeOutcome_declaring hn] at hm
      cases hm
    · rintro ⟨k, line, hrow, -⟩
      cases hrow
  | succ row =>
    constructor
    · rintro ⟨line, hline, hm⟩
      exact ⟨row, line, rfl, hline, hm⟩
    · rintro ⟨k, line, hrow, hline, hm⟩
      cases hrow
      exact ⟨line, hline, hm⟩

end

theorem Context.spares_of_each {lines : List Line} {name : List Char}
    (h : ∀ here ∈ Context.each lines, here.Spares name) :
    ∀ line ∈ lines, Context.Spares ⟨[], line, []⟩ name := by
  intro line hm
  obtain ⟨k, hk⟩ := List.getElem?_of_mem hm
  have hhere : (Context.each lines)[k]? =
      some ⟨(lines.take k).reverse, line, lines.drop (k + 1)⟩ := by
    rw [Context.each_getElem?, hk]
    rfl
  exact (h _ (List.mem_of_getElem? hhere)).of_line rfl

/-- With a line in front that declares a name, an analysis for missing types finds no more than
before, and what it does not find any more shows the name. If the name is neither a modifier nor the
word `function`, and no bare declaration and no parameter, nothing shows it any more. -/
theorem analyze_declaring_silences {text name : List Char} {options : Options}
    (hrules : options.rules = .only [.missingDataType])
    (hnaming : options.patterns.isOk) (hname : isName name = true)
    (hloud : options.IsAmple text)
    (hquiet : options.IsAmple (Line.declaring name ++ '\n' :: text)) :
    ∃ loud quiet, analyze text options = .ok loud ∧
      analyze (Line.declaring name ++ '\n' :: text) options = .ok quiet ∧
      (∀ finding ∈ quiet, finding.up ∈ loud) ∧
      (∀ finding ∈ loud, finding ∈ quiet.map Finding.up ∨
        finding.highlighted? (splitLines text) = some name) ∧
      (isKeywordOf modifiers name = false → ¬SameLetters name "function".toList →
        (∀ here ∈ Context.each (splitLines text), here.Spares name) →
        ∀ finding ∈ quiet, finding.highlighted?
          (splitLines (Line.declaring name ++ '\n' :: text)) ≠ some name) := by
  obtain ⟨loud, hl, hmemLoud⟩ := exists_analyze_typeMarks hrules hnaming hloud
  obtain ⟨quiet, hq, hmemQuiet⟩ := exists_analyze_typeMarks hrules hnaming hquiet
  rw [splitLines_declaring hname] at hmemQuiet ⊢
  have hknown (k : Nat) :=
    (typeOutcome_declaring_quieter hname).knownNames ((splitLines text).take k)
  refine ⟨loud, quiet, hl, hq, ?_, ?_, ?_⟩
  · intro finding hf
    obtain ⟨row, mark, hm, rfl⟩ := (hmemQuiet finding).mp hf
    obtain ⟨k, line, rfl, hline, hm⟩ := (typeMark_declaring hname).mp hm
    rw [Mark.report_up]
    exact (hmemLoud _).mpr ⟨k, mark, ⟨line, hline, ((hknown k).typeOutcome line).marks hm⟩, rfl⟩
  · intro finding hf
    obtain ⟨row, mark, hmark, rfl⟩ := (hmemLoud finding).mp hf
    obtain ⟨line, hline, hm⟩ := hmark
    rcases ((hknown row).typeOutcome line).marks_only mark hm with hm | hshown
    · refine .inl (List.mem_map.mpr ⟨(mark.report (row + 1 : Nat)).finding, ?_, mark.report_up row⟩)
      exact (hmemQuiet _).mpr
        ⟨row + 1, mark, (typeMark_declaring hname).mpr ⟨row, line, rfl, hline, hm⟩, rfl⟩
    · obtain ⟨other, hother, hhighlighted⟩ := TypeMark.highlighted? ⟨line, hline, hm⟩
      cases hline.symm.trans hother
      exact .inr (hshown ▸ hhighlighted)
  · intro hk hf hspares finding hfinding
    obtain ⟨row, mark, hmark, rfl⟩ := (hmemQuiet finding).mp hfinding
    obtain ⟨other, hother, hhighlighted⟩ := hmark.highlighted?
    obtain ⟨k, line, rfl, hline, hm⟩ := (typeMark_declaring hname).mp hmark
    cases hline.symm.trans hother
    have hlines := Context.spares_of_each hspares
    have hknows : (knownNames ((splitLines text).take k)
        (typeOutcome (Line.declaring name) {}).names).Knows name :=
      (typeOutcome_declaring_knows hname hk hf).knownNames hname
        fun line hm => hlines line (List.mem_of_mem_take hm)
    have hsilent := (hknows.typeOutcome hname (hlines _ (List.mem_of_getElem? hline))).2 mark hm
    rw [hhighlighted]
    exact fun hshown => hsilent (Option.some.inj hshown)

/-- Two names are found in one assignment, and one of them again below. -/
theorem analyze_declaring_silences_one_of_two :
    let text := "(x, z) = f();\ny = x;".toList
    let declaring := Line.declaring "x".toList ++ '\n' :: text
    let options : Options := { rules := .only [.missingDataType] }
    options.IsAmple text ∧ options.IsAmple declaring ∧
    (∀ here ∈ Context.each (splitLines text), here.Spares "x".toList) ∧
    ∃ loud quiet, analyze text options = .ok loud ∧ analyze declaring options = .ok quiet ∧
      loud.map (·.highlighted? (splitLines text)) =
        ["x".toList, "z".toList, "y".toList, "x".toList].map some ∧
      quiet.map (·.highlighted? (splitLines declaring)) = ["z".toList, "y".toList].map some ∧
      (∀ finding ∈ quiet, finding.up ∈ loud) ∧
      (∀ finding ∈ loud, finding ∈ quiet.map Finding.up ∨
        finding.highlighted? (splitLines text) = some "x".toList) ∧
      ∀ finding ∈ quiet, finding.highlighted? (splitLines declaring) ≠ some "x".toList := by
  intro text declaring options
  have hloud : options.IsAmple text := Options.isAmple_of_not_reached (by decide +kernel)
  have hquiet : options.IsAmple declaring := Options.isAmple_of_not_reached (by decide +kernel)
  have hspares : ∀ here ∈ Context.each (splitLines text), here.Spares "x".toList := by
    unfold Context.Spares
    decide +kernel
  have hfunction : ¬SameLetters "x".toList "function".toList :=
    fun h => absurd (List.Forall₂.length_eq h) (by decide)
  obtain ⟨loud, quiet, hl, hq, hup, hrest, hsilent⟩ :=
    analyze_declaring_silences rfl rfl (by decide) hloud hquiet
  have hshown : (analyze text options).toOption.map (·.map (·.highlighted? (splitLines text))) =
      some (["x".toList, "z".toList, "y".toList, "x".toList].map some) := by decide +kernel
  have hleft : (analyze declaring options).toOption.map
      (·.map (·.highlighted? (splitLines declaring))) =
        some (["z".toList, "y".toList].map some) := by decide +kernel
  rw [hl] at hshown
  rw [hq] at hleft
  exact ⟨hloud, hquiet, hspares, loud, quiet, hl, hq, Option.some.inj hshown, Option.some.inj hleft,
    hup, hrest, hsilent (by decide) hfunction hspares⟩

end SolidityLint
