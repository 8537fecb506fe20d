import SolidityLint.Proofs.Faults

/-!
# Findings that stand once on a line

Where all that is said with a code about a line is said of one place, the line has at most one
finding of this code, whichever checks said it and whatever they said
(`length_findings_on_line_le_one`). Four checks look for missing semicolons, each in its own way.
All of them mark the last character of the code, and none of them marks a line that is terminated
or that a list goes on from (`analyze_semicolons_at_end_of_code`).
-/

namespace SolidityLint

-- ---------------------------------------------------------------------------
-- One place for a code
-- ---------------------------------------------------------------------------

/-- Two marks with this code on a line mark the same place, also if they come from different checks
that knew different names. -/
def Code.HasOnePlace (code : Code) (scope : Scope) : Prop :=
  ∀ (here : Context) (check other : LineCheck) (names known : Names),
    ∀ mark ∈ (check.rule.outcome scope names here).marks,
      ∀ next ∈ (other.rule.outcome scope known here).marks,
        mark.code = code → next.code = code → mark.span = next.span

section
variable {text : List Char} {options : Options} {patterns : Option NamePatterns}

theorem Options.allFindings_pairwise_key :
    (options.allFindings lineRules text patterns).Pairwise fun one other => one.key ≠ other.key :=
  List.pairwise_map.mpr firstOfEach_pairwise

theorem Options.key_eq_of_mem_allFindings {code : Code} {one other : Finding}
    (hreturn : code ≠ .missingReturn) (hbraces : code ≠ .missingBraces)
    (hplace : code.HasOnePlace ⟨(Document.ofText text).movesValue, patterns⟩)
    (hone : one ∈ options.allFindings lineRules text patterns)
    (hother : other ∈ options.allFindings lineRules text patterns) (hc : one.code = code)
    (hc' : other.code = code) (hline : one.range.start.line = other.range.start.line) :
    one.key = other.key := by
  obtain ⟨k, here, check, names, mark, hk, -, hm, rfl⟩ :=
    exists_mark_of_mem_allFindings hone (hc ▸ hreturn) (hc ▸ hbraces)
  obtain ⟨l, there, next, known, second, hl, -, hm', rfl⟩ :=
    exists_mark_of_mem_allFindings hother (hc' ▸ hreturn) (hc' ▸ hbraces)
  obtain rfl : k = l := Int.ofNat.inj hline
  cases hk.symm.trans hl
  have hspan : mark.span = second.span :=
    hplace here check next names known mark hm second hm' hc hc'
  have hcode : mark.code = second.code := hc.trans hc'.symm
  simp only [Sink.key_finding, Report.key, Mark.report, hspan, hcode]

theorem length_le_one_of_same_key {findings : List Finding}
    (hkeys : findings.Pairwise fun one other => one.key ≠ other.key)
    (hsame : ∀ one ∈ findings, ∀ other ∈ findings, one.key = other.key) : findings.length ≤ 1 := by
  match findings with
  | [] | [_] => simp
  | one :: other :: _ =>
    have hne := (List.pairwise_cons.mp hkeys).1 other (by simp)
    exact absurd (hsame one (by simp) other (by simp)) hne

theorem length_findings_on_line_le_one {code : Code} {found : List Finding}
    (hreturn : code ≠ .missingReturn) (hbraces : code ≠ .missingBraces)
    (hplace : ∀ scope, code.HasOnePlace scope) (h : analyze text options = .ok found)
    (row : Int) :
    (found.filter fun finding =>
      finding.code = code ∧ finding.range.start.line = row).length ≤ 1 := by
  obtain ⟨patterns, -, rfl⟩ := analyze_ok_iff.mp h
  have htaken := List.take_sublist options.cap.toNat (options.allFindings lineRules text patterns)
  refine length_le_one_of_same_key ?_ fun one hone other hother => ?_
  · exact Options.allFindings_pairwise_key.sublist (List.filter_sublist.trans htaken)
  · obtain ⟨hone, hc⟩ := List.mem_filter.mp hone
    obtain ⟨hother, hc'⟩ := List.mem_filter.mp hother
    rw [decide_eq_true_eq] at hc hc'
    exact options.key_eq_of_mem_allFindings hreturn hbraces (hplace _) (htaken.subset hone)
      (htaken.subset hother) hc.1 hc'.1 (hc.2.trans hc'.2.symm)

end

-- ---------------------------------------------------------------------------
-- Semicolons
-- ---------------------------------------------------------------------------

theorem Line.endsWithAny_eq_false_iff {marks : List Char} {line : Line} :
    line.endsWithAny marks = false ↔ ∀ c ∈ marks, line.getLast? ≠ some c := by
  cases h : line.getLast? with
  | none => simp [endsWithAny, h]
  | some last =>
    simp only [endsWithAny, h, Option.any_some, Option.some.injEq, ne_eq]
    rw [← Bool.not_eq_true, List.contains_iff_mem]
    exact ⟨fun hl c hc he => hl (he ▸ hc), fun hl hm => hl last hm rfl⟩

namespace Check

variable {here : Context} {mark : Mark}

def closers : List Char := [';', '{', '}', ',', '(']

theorem endsWithAny_closers {text : Line} (hterminated : text.isTerminated = false)
    (hlist : text.endsWithAny [',', '('] = false) : text.endsWithAny closers = false := by
  rw [Line.isTerminated, Line.endsWithAny_eq_false_iff] at hterminated
  rw [Line.endsWithAny_eq_false_iff] at hlist ⊢
  intro c hc
  rcases List.mem_append.mp (show c ∈ [';', '{', '}'] ++ [',', '('] from hc) with hc | hc
  · exact hterminated c hc
  · exact hlist c hc

theorem openDeclaration_leaves_open (h : mark ∈ openDeclaration here) :
    here.trimmedCode.endsWithAny closers = false := by
  unfold openDeclaration at h
  simp only at h
  split at h
  · rename_i hc
    simp only [Bool.and_eq_true, Bool.not_eq_true', listGoesOn, Bool.or_eq_false_iff] at hc
    exact endsWithAny_closers hc.1.1.1.2 hc.1.1.2.1
  · cases h

theorem openStatement_leaves_open (h : mark ∈ openStatement here) :
    here.trimmedCode.endsWithAny closers = false := by
  unfold openStatement at h
  simp only at h
  split at h
  · rename_i hc
    simp only [Bool.and_eq_true, Bool.not_eq_true'] at hc
    exact endsWithAny_closers hc.1.1.2 hc.1.2
  · cases h

theorem openLastLine_leaves_open (h : mark ∈ openLastLine here) :
    here.trimmedCode.endsWithAny closers = false := by
  unfold openLastLine at h
  split at h
  · rename_i hc
    simp only [Bool.and_eq_true] at hc
    have hlast : here.trimmedCode.getLast? = some ')' := by
      cases hl : here.trimmedCode.getLast? with
      | none => simp [Line.endsWithAny, hl] at hc
      | some c => simpa [Line.endsWithAny, hl] using hc.1.1
    simp [Line.endsWithAny, hlast, closers]
  · cases h

theorem loneName_leaves_open (h : mark ∈ loneName here) :
    here.trimmedCode.endsWithAny closers = false := by
  unfold loneName at h
  split at h
  · rename_i hc
    simp only [Bool.and_eq_true] at hc
    have hnone : closers.all (!Text.continuesName ·) = true := by decide
    refine Line.endsWithAny_eq_false_iff.mpr fun c hcloser hlast => ?_
    have hname := Text.continuesName_of_isName hc.1 c (List.mem_of_getLast? hlast)
    have hno := List.all_eq_true.mp hnone c hcloser
    simp [hname] at hno
  · cases h

end Check

/-- Whichever check misses a semicolon marks the end of the code, on a line that is left open. -/
theorem LineCheck.outcome_semicolon {check : LineCheck} {scope : Scope} {names : Names}
    {here : Context} {mark : Mark} (h : mark ∈ (check.rule.outcome scope names here).marks)
    (hc : mark.code = .missingSemicolon) :
    Check.MarksSemicolon here mark ∧ here.trimmedCode.endsWithAny Check.closers = false := by
  have hcode : check.code = .missingSemicolon :=
    (check.outcome_code scope names here mark h).symm.trans hc
  cases check with
  | openDeclaration =>
    exact ⟨Check.openDeclaration_marks h, Check.openDeclaration_leaves_open h⟩
  | openStatement => exact ⟨Check.openStatement_marks h, Check.openStatement_leaves_open h⟩
  | openLastLine => exact ⟨Check.openLastLine_marks h, Check.openLastLine_leaves_open h⟩
  | loneName => exact ⟨Check.loneName_marks h, Check.loneName_leaves_open h⟩
  | _ => cases hcode

theorem hasOnePlace_missingSemicolon (scope : Scope) : Code.missingSemicolon.HasOnePlace scope := by
  intro here check other names known mark hm next hn hc hc'
  obtain ⟨⟨-, message, rfl⟩, -⟩ := LineCheck.outcome_semicolon hm hc
  obtain ⟨⟨-, message', rfl⟩, -⟩ := LineCheck.outcome_semicolon hn hc'
  rfl

theorem analyze_semicolons_at_end_of_code (text : List Char) (options : Options)
    (found : List Finding) (h : analyze text options = .ok found) :
    (∀ row : Int, (found.filter fun finding =>
      finding.code = .missingSemicolon ∧ finding.range.start.line = row).length ≤ 1) ∧
    ∀ finding ∈ found, finding.code = .missingSemicolon →
      ∃ (row : Nat) (line : Line), (splitLines text)[row]? = some line ∧
        finding.range = ⟨⟨row, line.lastCodeColumn⟩, ⟨row, line.lastCodeColumn + 1⟩⟩ ∧
        line.trimmedCode ≠ [] ∧
        ∀ c ∈ [';', '{', '}', ',', '('], line.trimmedCode.getLast? ≠ some c := by
  constructor
  · exact length_findings_on_line_le_one (by decide) (by decide) hasOnePlace_missingSemicolon h
  · intro finding hf hc
    obtain ⟨patterns, -, rfl⟩ := analyze_ok_iff.mp h
    obtain ⟨row, here, check, names, mark, hk, -, hm, rfl⟩ :=
      Options.exists_mark_of_mem_allFindings (List.mem_of_mem_take hf) (by rw [hc]; decide)
        (by rw [hc]; decide)
    obtain ⟨⟨hne, message, rfl⟩, hopen⟩ := LineCheck.outcome_semicolon hm hc
    exact ⟨row, here.line, Context.line_of_each hk, rfl, hne,
      Line.endsWithAny_eq_false_iff.mp hopen⟩

/-- The first line misses its semicolon as a jump and as a lone name. -/
theorem analyze_semicolons_at_end_of_code_by_two_checks :
    let text := "return // done\nuint x ;".toList
    let options : Options := { rules := .only [.missingSemicolon] }
    let finding : Finding :=
      ⟨Check.statementMessage, .missingSemicolon, .error, ⟨⟨0, 5⟩, ⟨0, 6⟩⟩⟩
    analyze text options = .ok [finding] ∧
      ((Context.each (splitLines text)).map fun here =>
        ((Check.openStatement here).length, (Check.loneName here).length)) = [(1, 1), (0, 0)] ∧
      ∃ (row : Nat) (line : Line), (splitLines text)[row]? = some line ∧
        finding.range = ⟨⟨row, line.lastCodeColumn⟩, ⟨row, line.lastCodeColumn + 1⟩⟩ ∧
        line.trimmedCode ≠ [] ∧
        ∀ c ∈ [';', '{', '}', ',', '('], line.trimmedCode.getLast? ≠ some c := by
  intro text options finding
  have hf : analyze text options = .ok [finding] := eq_ok_of_toOption (by decide +kernel)
  refine ⟨hf, by decide +kernel, ?_⟩
  exact (analyze_semicolons_at_end_of_code text options _ hf).2 finding List.mem_cons_self rfl

end SolidityLint
