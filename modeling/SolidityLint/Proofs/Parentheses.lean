import SolidityLint.Proofs.Comments
import SolidityLint.Proofs.Locality
import SolidityLint.Proofs.Marks

/-!
# Comments and missing parentheses

The check for parentheses looks at the whole line, comment included, and at the lines above through
their code. A comment on a line hides what the check has to say about this line
(`Check.missingParentheses_of_comment`), and makes no difference to any other line, except that a
slash at the end of the code becomes part of the comment marker
(`analyze_parentheses_behind_comment`).
-/

namespace SolidityLint

-- ---------------------------------------------------------------------------
-- A line with a comment behind it
-- ---------------------------------------------------------------------------

namespace Line

variable {line front : Line}

theorem code_eq_self (hslashes : ¬"//".toList <:+: line) (hstar : ¬"/*".toList <:+: line) :
    line.code = line := by
  induction line with
  | nil => rfl
  | cons x rest ih =>
    have hlater {word : List Char} (h : ¬word <:+: x :: rest) : ¬word <:+: rest :=
      fun hin => h (hin.trans (List.suffix_cons x rest).isInfix)
    rw [code_cons_of_head, ih (hlater hslashes) (hlater hstar)]
    rintro rfl
    constructor
    · intro he
      obtain ⟨more, rfl⟩ := List.head?_eq_some_iff.mp he
      exact hslashes ⟨[], more, rfl⟩
    · intro he
      obtain ⟨more, rfl⟩ := List.head?_eq_some_iff.mp he
      exact hstar ⟨[], more, rfl⟩

/-- The code ends where a comment begins, if it does not end with a slash. -/
theorem code_append_comment (hcode : front.code = front) (hlast : front.getLast? ≠ some '/')
    (rest : Line) : code (front ++ '/' :: '/' :: rest) = front := by
  induction front with
  | nil => rfl
  | cons x front ih =>
    obtain ⟨front', he, hcode, hx⟩ := code_eq_cons hcode
    cases he
    rw [List.cons_append, code_cons_of_head, ih hcode]
    · cases front with
      | nil => simp
      | cons y front => simpa using hlast
    · intro he
      cases front with
      | nil => exact absurd (congrArg some he) hlast
      | cons y front => simpa using hx he

end Line

theorem Check.missingParentheses_of_comment {here : Context} (h : here.line.code ≠ here.line) :
    Check.missingParentheses here = [] := by
  unfold missingParentheses
  have hno : strayCharacter.opens here.line = false :=
    Bool.eq_false_iff.mpr fun ho => h (code_of_strayCharacter ho).2
  simp [hno]

theorem Check.missingParentheses_congr {one other : Context} (hline : one.line = other.line)
    (hprevious : one.previous = other.previous) :
    Check.missingParentheses one = Check.missingParentheses other := by
  unfold missingParentheses
  rw [hline, hprevious]

-- ---------------------------------------------------------------------------
-- Reports
-- ---------------------------------------------------------------------------

theorem linesReports_parentheses_cons (scope : Scope) (row : Nat) (here : Context)
    (rest : List Context) (names : Names) :
    linesReports scope [LineCheck.missingParentheses.rule] row (here :: rest) names =
      (Check.missingParentheses here).map (·.report row) ++
        linesReports scope [LineCheck.missingParentheses.rule] (row + 1) rest names := by
  change (Check.missingParentheses here ++ []).map _ ++ _ = _
  rw [List.append_nil]
  rfl

theorem linesReports_except {scope scope' : Scope} {row k : Nat} {contexts others : List Context}
    (hl : contexts.length = others.length)
    (h : ∀ (i : Nat) (one other : Context), contexts[i]? = some one → others[i]? = some other →
      Check.missingParentheses other = if row + i = k then [] else Check.missingParentheses one)
    (names : Names) :
    linesReports scope' [LineCheck.missingParentheses.rule] row others names =
      (linesReports scope [LineCheck.missingParentheses.rule] row contexts names).filter
        (·.line ≠ (k : Int)) := by
  induction contexts generalizing row others with
  | nil =>
    rw [List.length_eq_zero_iff.mp hl.symm]
    rfl
  | cons one contexts ih =>
    cases others with
    | nil => cases hl
    | cons other others =>
      have hlater : linesReports scope' [LineCheck.missingParentheses.rule] (row + 1) others names =
          (linesReports scope [LineCheck.missingParentheses.rule] (row + 1) contexts names).filter
            (·.line ≠ (k : Int)) := by
        refine ih (Nat.succ.inj hl) fun i one other hone hother => ?_
        rw [Nat.add_assoc, Nat.add_comm 1 i]
        exact h (i + 1) one other hone hother
      have hrow (report : Report)
          (hr : report ∈ (Check.missingParentheses one).map (·.report row)) :
          report.line = row := by
        obtain ⟨mark, -, rfl⟩ := List.mem_map.mp hr
        rfl
      rw [linesReports_parentheses_cons, linesReports_parentheses_cons, List.filter_append, hlater,
        h 0 one other rfl rfl, Nat.add_zero]
      by_cases hk : row = k
      · have hnone : ((Check.missingParentheses one).map (·.report row)).filter
            (·.line ≠ (k : Int)) = [] := by
          refine List.filter_eq_nil_iff.mpr fun report hr => ?_
          simp [hrow report hr, hk]
        rw [if_pos hk, hnone]
        rfl
      · have hall : ((Check.missingParentheses one).map (·.report row)).filter
            (·.line ≠ (k : Int)) = (Check.missingParentheses one).map (·.report row) := by
          refine List.filter_eq_self.mpr fun report hr => ?_
          rw [hrow report hr]
          exact decide_eq_true fun he => hk (Int.ofNat.inj he)
        rw [if_neg hk, hall]

section
variable {text other : List Char} {k : Nat} {line front rest : Line}

/-- Two texts that are the same but for a comment on one line. -/
structure HasComment (text other : List Char) (k : Nat) (front rest : Line) : Prop where
  line : (splitLines text)[k]? = some front
  lines : splitLines other = (splitLines text).set k (front ++ '/' :: '/' :: rest)
  code : front.code = front
  last : front.getLast? ≠ some '/'

theorem HasComment.getElem?_other (h : HasComment text other k front rest) :
    (splitLines other)[k]? = some (front ++ '/' :: '/' :: rest) := by
  rw [h.lines, List.getElem?_set_self (List.getElem?_eq_some_iff.mp h.line).1]

theorem HasComment.getElem?_ne (h : HasComment text other k front rest) {i : Nat} (hi : i ≠ k) :
    (splitLines other)[i]? = (splitLines text)[i]? := by
  rw [h.lines, List.getElem?_set_ne hi.symm]

theorem HasComment.code_eq (h : HasComment text other k front rest) :
    (splitLines text).map Line.code = (splitLines other).map Line.code := by
  refine List.ext_getElem? fun i => ?_
  rw [List.getElem?_map, List.getElem?_map]
  by_cases hi : i = k
  · rw [hi, h.line, h.getElem?_other, Option.map_some, Option.map_some, h.code,
      Line.code_append_comment h.code h.last]
  · rw [h.getElem?_ne hi]

theorem HasComment.missingParentheses_eq (h : HasComment text other k front rest) {i : Nat}
    {one two : Context} (hone : (Context.each (splitLines text))[i]? = some one)
    (htwo : (Context.each (splitLines other))[i]? = some two) :
    Check.missingParentheses two = if i = k then [] else Check.missingParentheses one := by
  have hline := Context.line_of_each hone
  have hline' := Context.line_of_each htwo
  split
  · rename_i hi
    rw [hi, h.getElem?_other] at hline'
    refine Check.missingParentheses_of_comment ?_
    rw [← Option.some.inj hline', Line.code_append_comment h.code h.last]
    simp
  · rename_i hi
    refine Check.missingParentheses_congr ?_ ?_
    · exact Option.some.inj (hline'.symm.trans ((h.getElem?_ne hi).trans hline))
    · rw [Context.each_getElem?] at hone htwo
      obtain ⟨-, -, rfl⟩ := Option.map_eq_some_iff.mp hone
      obtain ⟨-, -, rfl⟩ := Option.map_eq_some_iff.mp htwo
      refine codeLines_eq_of_code ?_
      simp only [List.map_take, List.map_reverse, h.code_eq]

theorem HasComment.reports_eq (h : HasComment text other k front rest) {options : Options}
    (hrules : options.rules = .only [.missingParentheses]) (patterns : Option NamePatterns) :
    options.reports lineRules other patterns =
      (options.reports lineRules text patterns).filter (·.line ≠ (k : Int)) := by
  have hbraces : options.rules.enabled .missingBraces = false := by rw [hrules]; rfl
  have hreturn : options.rules.enabled .missingReturn = false := by rw [hrules]; rfl
  have hactive : options.rules.active LineCheck.all = [LineCheck.missingParentheses.rule] := by
    rw [hrules]
    rfl
  simp only [Options.reports_eq_linesReports hbraces (.inr hreturn), hactive]
  refine linesReports_except (Context.forall₂_alike_each h.code_eq).length_eq
    (fun i one two hone htwo => ?_) {}
  rw [Nat.zero_add]
  exact h.missingParentheses_eq hone htwo

/-- A comment takes away what is said of its line, and nothing else. -/
theorem HasComment.allFindings_eq (h : HasComment text other k front rest) (options : Options)
    (patterns : Option NamePatterns) :
    (options.allFindings lineRules other patterns).filter (·.code = .missingParentheses) =
      (options.allFindings lineRules text patterns).filter fun finding =>
        finding.code = .missingParentheses ∧ finding.range.start.line ≠ (k : Int) := by
  let only : Options := { options with rules := .only [.missingParentheses] }
  have hparts : ((options.allFindings lineRules text patterns).filter fun finding =>
        finding.code = .missingParentheses ∧ finding.range.start.line ≠ (k : Int)) =
      ((options.allFindings lineRules text patterns).filter (·.code = .missingParentheses)).filter
        (·.range.start.line ≠ (k : Int)) := by
    rw [List.filter_filter]
    simp only [Bool.decide_and, Bool.and_comm]
  rw [hparts, options.allFindings_of_code, options.allFindings_of_code]
  split
  · have hkept := only.filter_allFindings lineRules text patterns (·.line ≠ (k : Int))
    refine Eq.trans ?_ hkept.symm
    exact congrArg (fun reports => (firstOfEach [] reports).map Report.finding)
      (h.reports_eq rfl patterns)
  · rfl

theorem HasComment.analyze_eq (h : HasComment text other k front rest) {options : Options}
    {m n : Int} (hm : { options with cap := m }.IsAmple text)
    (hn : { options with cap := n }.IsAmple other) :
    (analyze other { options with cap := n }).map (·.filter (·.code = .missingParentheses)) =
      (analyze text { options with cap := m }).map (·.filter fun finding =>
        finding.code = .missingParentheses ∧ finding.range.start.line ≠ (k : Int)) := by
  rw [hm.analyze_eq, hn.analyze_eq]
  cases options.patterns with
  | error fault => simp only [Except.map]
  | ok patterns => exact congrArg Except.ok (h.allFindings_eq options patterns)

end

theorem map_filter_and_eq_iff {ε : Type} {result : Except ε (List Finding)}
    (p q : Finding → Prop) [DecidablePred p] [DecidablePred q] :
    result.map (·.filter fun finding => p finding ∧ q finding) = result.map (·.filter (p ·)) ↔
      ∀ found, result = .ok found → ∀ finding ∈ found, p finding → q finding := by
  cases result with
  | error fault => simp [Except.map]
  | ok found =>
    simp only [Except.map, Except.ok.injEq, forall_eq']
    constructor
    · intro h finding hf hp
      have hm : finding ∈ found.filter (p ·) := List.mem_filter.mpr ⟨hf, decide_eq_true hp⟩
      rw [← h, List.mem_filter, decide_eq_true_eq] at hm
      exact hm.2.2
    · intro h
      refine List.filter_congr fun finding hf => ?_
      exact decide_eq_decide.mpr ⟨fun hpq => hpq.1, fun hp => ⟨hp, h finding hf hp⟩⟩

/-- A comment takes away the finding on its line, and leaves the ones on other lines as they are,
so that nothing changes exactly if there was none on its line. A slash at the end of the code goes
with the comment. -/
theorem analyze_parentheses_behind_comment (text other : List Char) (k : Nat)
    (line comment : Line) (options : Options) (m n : Int)
    (hline : (splitLines text)[k]? = some line)
    (hslashes : ¬"//".toList <:+: line) (hstar : ¬"/*".toList <:+: line)
    (hother : splitLines other = (splitLines text).set k (line ++ "//".toList ++ comment))
    (hm : { options with cap := m }.IsAmple text) (hn : { options with cap := n }.IsAmple other) :
    (line.getLast? ≠ some '/' →
      (analyze other { options with cap := n }).map (·.filter (·.code = .missingParentheses)) =
          (analyze text { options with cap := m }).map (·.filter fun finding =>
            finding.code = .missingParentheses ∧ finding.range.start.line ≠ (k : Int)) ∧
        ((analyze other { options with cap := n }).map (·.filter (·.code = .missingParentheses)) =
            (analyze text { options with cap := m }).map
              (·.filter (·.code = .missingParentheses)) ↔
          ∀ found, analyze text { options with cap := m } = .ok found → ∀ finding ∈ found,
            finding.code = .missingParentheses → finding.range.start.line ≠ (k : Int))) ∧
    (line.getLast? = some '/' → ∀ (bare : List Char) (cap : Int),
      splitLines bare = (splitLines text).set k line.dropLast →
      { options with cap }.IsAmple bare →
      (analyze other { options with cap := n }).map (·.filter (·.code = .missingParentheses)) =
        (analyze bare { options with cap }).map (·.filter fun finding =>
          finding.code = .missingParentheses ∧ finding.range.start.line ≠ (k : Int))) := by
  constructor
  · intro hlast
    have h : HasComment text other k line comment := by
      refine ⟨hline, ?_, Line.code_eq_self hslashes hstar, hlast⟩
      rw [hother, List.append_assoc]
      rfl
    rw [h.analyze_eq hm hn]
    exact ⟨rfl, map_filter_and_eq_iff (·.code = .missingParentheses)
      (·.range.start.line ≠ (k : Int))⟩
  · intro hlast bare cap hbare hample
    obtain ⟨front, rfl⟩ := List.getLast?_eq_some_iff.mp hlast
    rw [List.dropLast_concat] at hbare
    have hfront {word : List Char} (hw : ¬word <:+: front ++ ['/']) : ¬word <:+: front :=
      fun hin => hw (hin.trans (List.prefix_append front ['/']).isInfix)
    have h : HasComment bare other k front ('/' :: comment) := by
      refine ⟨?_, ?_, Line.code_eq_self (hfront hslashes) (hfront hstar), fun hslash => ?_⟩
      · rw [hbare, List.getElem?_set_self (List.getElem?_eq_some_iff.mp hline).1]
      · rw [hother, hbare, List.set_set, List.append_assoc, List.append_assoc]
        rfl
      · obtain ⟨before, rfl⟩ := List.getLast?_eq_some_iff.mp hslash
        exact hslashes ⟨before, [], by simp⟩
    exact h.analyze_eq hample hn

/-- The first line has a finding of its own, the second one ends with a slash. -/
theorem analyze_parentheses_behind_two_comments :
    let options : Options := { rules := .only [.missingParentheses] }
    let text := "f!\na,/\ng!".toList
    let first := "f!//c\na,/\ng!".toList
    let second := "f!\na,///c\ng!".toList
    let bare := "f!\na,\ng!".toList
    options.IsAmple text ∧ options.IsAmple first ∧ options.IsAmple second ∧ options.IsAmple bare ∧
      (analyze first options).map (·.filter (·.code = .missingParentheses)) =
        (analyze text options).map (·.filter fun finding =>
          finding.code = .missingParentheses ∧ finding.range.start.line ≠ 0) ∧
      (analyze second options).map (·.filter (·.code = .missingParentheses)) =
        (analyze bare options).map (·.filter fun finding =>
          finding.code = .missingParentheses ∧ finding.range.start.line ≠ 1) := by
  intro options text first second bare
  have htext : options.IsAmple text := Options.isAmple_of_not_reached (by decide +kernel)
  have hfirst : options.IsAmple first := Options.isAmple_of_not_reached (by decide +kernel)
  have hsecond : options.IsAmple second := Options.isAmple_of_not_reached (by decide +kernel)
  have hbare : options.IsAmple bare := Options.isAmple_of_not_reached (by decide +kernel)
  refine ⟨htext, hfirst, hsecond, hbare, ?_, ?_⟩
  · exact ((analyze_parentheses_behind_comment text first 0 "f!".toList "c".toList options 100 100
      (by decide +kernel) (by decide +kernel) (by decide +kernel) (by decide +kernel) htext
      hfirst).1 (by decide)).1
  · exact (analyze_parentheses_behind_comment text second 1 "a,/".toList "c".toList options 100 100
      (by decide +kernel) (by decide +kernel) (by decide +kernel) (by decide +kernel) htext
      hsecond).2 (by decide) bare 100 (by decide +kernel) hbare

/-- A comment takes a finding away, on its own line, or on the next one through a slash before
it. -/
theorem analyze_parentheses_hidden_by_comment :
    let options : Options := { rules := .only [.missingParentheses] }
    let places (text : String) :=
      (analyze text.toList options).toOption.map (·.map fun finding => finding.range)
    places "foo!" = some [⟨⟨0, 3⟩, ⟨0, 4⟩⟩] ∧ places "foo!//c" = some [] ∧
      places "a,/\ng!" = some [⟨⟨1, 1⟩, ⟨1, 2⟩⟩] ∧ places "a,///c\ng!" = some [] := by
  decide +kernel

end SolidityLint
