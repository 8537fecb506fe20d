import Mathlib.Data.List.Forall2
import SolidityLint.Proofs.Cap

/-!
# Comments have no part in what line checks say

Line checks look at a line through its code and at the lines around it through theirs. The check for
parentheses is the one that looks at the line itself, and the balance of braces is the one pass that
counts in comments. With these two switched off, texts whose lines have the same code have the same
findings, unless it is a comment that moves value (`analyze_eq_of_code_eq`).
-/

namespace SolidityLint

-- ---------------------------------------------------------------------------
-- Lines that look alike
-- ---------------------------------------------------------------------------

theorem nextCode?_eq_head? (lines : List Line) : nextCode? lines = (codeLines lines).head? := by
  induction lines with
  | nil => rfl
  | cons line lines ih =>
    simp only [nextCode?, codeLines, List.map_cons, List.filter_cons]
    cases line.trimmedCode.isEmpty with
    | true => exact ih
    | false => rfl

theorem codeLines_eq_of_code {lines others : List Line}
    (h : lines.map Line.code = others.map Line.code) : codeLines lines = codeLines others := by
  have htrim : ∀ lines : List Line,
      lines.map Line.trimmedCode = (lines.map Line.code).map Text.trim := by
    intro lines
    rw [List.map_map]
    rfl
  rw [codeLines, codeLines, htrim, htrim, h]

/-- Two lines with the same code, the same next line of code and the same lines of code above. -/
structure Context.Alike (one other : Context) : Prop where
  code : one.code = other.code
  next : one.next? = other.next?
  previous : one.previous = other.previous

namespace Context

variable {one other : Context} {lines others above aboveOthers : List Line}

theorem Alike.trimmedCode (h : one.Alike other) : one.trimmedCode = other.trimmedCode :=
  congrArg Text.trim h.code

theorem Alike.semicolonMark (h : one.Alike other) (message : String) :
    Check.semicolonMark one message = Check.semicolonMark other message := by
  have hcode : one.line.code = other.line.code := h.code
  have hcolumn : one.line.lastCodeColumn = other.line.lastCodeColumn := by
    unfold Line.lastCodeColumn
    rw [hcode]
  rw [Check.semicolonMark, Check.semicolonMark, hcolumn]

theorem forall₂_alike_eachFrom (habove : above.map Line.code = aboveOthers.map Line.code)
    (h : lines.map Line.code = others.map Line.code) :
    List.Forall₂ Alike (eachFrom above lines) (eachFrom aboveOthers others) := by
  induction lines generalizing others above aboveOthers with
  | nil =>
    cases others with
    | nil => exact .nil
    | cons other others => cases h
  | cons line lines ih =>
    cases others with
    | nil => cases h
    | cons other others =>
      obtain ⟨hline, hbelow⟩ := List.cons.inj h
      refine .cons ⟨hline, ?_, ?_⟩ (ih ?_ hbelow)
      · simp only [next?, nextCode?_eq_head?, codeLines_eq_of_code hbelow]
      · refine codeLines_eq_of_code ?_
        rw [List.map_take, List.map_take, habove]
      · rw [List.map_cons, List.map_cons, hline, habove]

theorem forall₂_alike_each (h : lines.map Line.code = others.map Line.code) :
    List.Forall₂ Alike (each lines) (each others) :=
  forall₂_alike_eachFrom rfl h

end Context

-- ---------------------------------------------------------------------------
-- Checks on lines that look alike
-- ---------------------------------------------------------------------------

namespace Check

variable {one other : Context} {names : Names}

theorem listGoesOn_eq_of_alike (h : one.Alike other) : listGoesOn one = listGoesOn other := by
  funext text
  rw [listGoesOn, listGoesOn, h.next]

theorem openDeclaration_eq_of_alike (h : one.Alike other) :
    openDeclaration one = openDeclaration other := by
  simp only [openDeclaration, listGoesOn_eq_of_alike h, h.trimmedCode, h.semicolonMark]

theorem openStatement_eq_of_alike (h : one.Alike other) :
    openStatement one = openStatement other := by
  simp only [openStatement, h.trimmedCode, h.semicolonMark]

theorem openLastLine_eq_of_alike (h : one.Alike other) :
    openLastLine one = openLastLine other := by
  simp only [openLastLine, h.trimmedCode, h.next, h.previous, h.semicolonMark]

theorem loneName_eq_of_alike (h : one.Alike other) : loneName one = loneName other := by
  simp only [loneName, h.trimmedCode, h.semicolonMark]

theorem variableNaming_eq_of_alike (h : one.Alike other) (patterns : NamePatterns) :
    variableNaming patterns one = variableNaming patterns other := by
  simp only [variableNaming, h.trimmedCode, h.code]

end Check

section
variable {one other : Context} {check : LineCheck} {rules : List Rule}

theorem LineCheck.judge_eq_of_alike (h : one.Alike other) (hc : check ≠ .missingParentheses)
    (scope : Scope) (names : Names) :
    check.judge scope names one = check.judge scope names other := by
  cases check with
  | missingParentheses => exact absurd rfl hc
  | openDeclaration => simp only [judge, Check.openDeclaration_eq_of_alike h]
  | openStatement => simp only [judge, Check.openStatement_eq_of_alike h]
  | openLastLine => simp only [judge, Check.openLastLine_eq_of_alike h]
  | loneName => simp only [judge, Check.loneName_eq_of_alike h]
  | variableNaming => simp only [judge, Check.variableNaming_eq_of_alike h]
  | txOrigin => simp only [judge, Check.txOrigin, h.code]
  | selfdestruct => simp only [judge, Check.selfdestruct, h.code]
  | delegatecall => simp only [judge, Check.delegatecall, h.code]
  | lowLevelCallValue => simp only [judge, Check.lowLevelCallValue, h.code]
  | wrongKeywords => simp only [judge, Check.wrongKeywords, h.code]
  | typedDeclarations => simp only [judge, Check.typedDeclarations, h.code]
  | assignedNames => simp only [judge, Check.assignedNames, h.code]
  | bracketDeclarations => simp only [judge, Check.bracketDeclarations, h.code]
  | tupleNames => simp only [judge, Check.tupleNames, h.code]
  | bareNames => simp only [judge, Check.bareNames, h.code]
  | parameterNames => simp only [judge, Check.parameterNames, h.code]
  | parameterBrackets => simp only [judge, Check.parameterBrackets, h.code]
  | laterUses => simp only [judge, Check.laterUses, h.code]
  | missingPayable => simp only [judge, Check.missingPayable, h.code]
  | functionNaming => simp only [judge, Check.functionNaming, h.code]
  | contractNaming => simp only [judge, Check.contractNaming, h.code]

def Rule.ReadsCode (rule : Rule) : Prop :=
  ∃ check : LineCheck, check ≠ .missingParentheses ∧ rule = check.rule

theorem Rule.ReadsCode.outcome_eq {rule : Rule} (hr : rule.ReadsCode) (h : one.Alike other)
    (scope : Scope) (names : Names) :
    rule.outcome scope names one = rule.outcome scope names other := by
  obtain ⟨check, hc, rfl⟩ := hr
  simp only [Rule.outcome, LineCheck.rule, check.judge_eq_of_alike h hc]

theorem rulesOutcome_eq_of_alike (hr : ∀ rule ∈ rules, rule.ReadsCode) (h : one.Alike other)
    (scope : Scope) (names : Names) :
    rulesOutcome scope one rules names = rulesOutcome scope other rules names := by
  induction rules generalizing names with
  | nil => rfl
  | cons rule rules ih =>
    have hfirst := (hr rule List.mem_cons_self).outcome_eq h scope names
    simp only [rulesOutcome, hfirst, ih fun later hl => hr later (List.mem_cons_of_mem _ hl)]

theorem linesReports_eq_of_alike (hr : ∀ rule ∈ rules, rule.ReadsCode)
    {contexts others : List Context} (h : List.Forall₂ Context.Alike contexts others)
    (scope : Scope) (row : Nat) (names : Names) :
    linesReports scope rules row contexts names = linesReports scope rules row others names := by
  induction h generalizing row names with
  | nil => rfl
  | cons hfirst _ ih => simp only [linesReports, rulesOutcome_eq_of_alike hr hfirst, ih]

theorem readsCode_of_parentheses_off {switches : Rules}
    (hoff : switches.enabled .missingParentheses = false) :
    ∀ rule ∈ lineRules.filter (switches.enabled ·.switch), rule.ReadsCode := by
  intro rule hr
  obtain ⟨hm, hon⟩ := List.mem_filter.mp hr
  obtain ⟨check, -, rfl⟩ := List.mem_map.mp hm
  refine ⟨check, ?_, rfl⟩
  rintro rfl
  have hoff' : switches.enabled (LineCheck.missingParentheses.rule).switch = false := hoff
  rw [hoff'] at hon
  cases hon

end

-- ---------------------------------------------------------------------------
-- Texts with the same code
-- ---------------------------------------------------------------------------

theorem Options.reports_eq_of_code {text other : List Char} {options : Options}
    (hcode : (splitLines text).map Line.code = (splitLines other).map Line.code)
    (hvalue : (Document.ofText text).movesValue = (Document.ofText other).movesValue)
    (hbraces : options.rules.enabled .missingBraces = false)
    (hparentheses : options.rules.enabled .missingParentheses = false)
    (htrees : options.trees = none) (patterns : Option NamePatterns) :
    options.reports lineRules text patterns = options.reports lineRules other patterns := by
  have hnoBraces : ∀ text, (Session.fresh text options.rules options.cap patterns).braceReports =
      [] := by
    intro text
    simp [Session.braceReports, Session.fresh, hbraces]
  have hlines := linesReports_eq_of_alike (readsCode_of_parentheses_off hparentheses)
    (Context.forall₂_alike_each hcode) ⟨(Document.ofText text).movesValue, patterns⟩ 0 {}
  simp only [reports, Session.reports, hnoBraces, htrees]
  refine congrArg _ (hlines.trans ?_)
  rw [hvalue]
  rfl

/-- What stands in comments is not seen in the findings. -/
theorem analyze_eq_of_code_eq (text other : List Char) (options : Options)
    (hcode : (splitLines text).map Line.code = (splitLines other).map Line.code)
    (hvalue : (Document.ofText text).movesValue = (Document.ofText other).movesValue)
    (hbraces : options.rules.enabled .missingBraces = false)
    (hparentheses : options.rules.enabled .missingParentheses = false)
    (htrees : options.trees = none) :
    analyze text options = analyze other options ∧
      ∀ cap : Value, analyzeUpTo cap lineRules text options =
        analyzeUpTo cap lineRules other options := by
  have hall : ∀ patterns, options.allFindings lineRules text patterns =
      options.allFindings lineRules other patterns := by
    intro patterns
    simp only [Options.allFindings,
      Options.reports_eq_of_code hcode hvalue hbraces hparentheses htrees]
  have hsame : ∀ cap, analyze text { options with cap } = analyze other { options with cap } := by
    intro cap
    rw [analyze_eq_map, analyze_eq_map]
    exact congrArg (Except.map · _) (funext fun patterns => congrArg (List.take _) (hall patterns))
  exact ⟨hsame options.cap, analyzeUpTo_congr hsame⟩

/-- Braces, semicolons and calls in comments, with four findings on the code around them. -/
theorem analyze_eq_of_code_eq_on_four_lines :
    let text := "uint X // a\nfoo(\n b) /*\nreturn y //".toList
    let other := "uint X /*\x7b\nfoo(//\x7d\n b) // tx.origin\nreturn y /* ; */".toList
    let rules : Rules := ⟨fun switch => switch != .missingBraces && switch != .missingParentheses⟩
    let options : Options := { rules, naming := some .default }
    (splitLines text).map Line.code = (splitLines other).map Line.code ∧
      (Document.ofText text).movesValue = (Document.ofText other).movesValue ∧
      (analyze text options).toOption.map (·.map Finding.code) =
        some [.missingSemicolon, .variableNaming, .missingSemicolon, .missingSemicolon] ∧
      analyze text options = analyze other options := by
  intro text other rules options
  have hcode : (splitLines text).map Line.code = (splitLines other).map Line.code := by
    decide +kernel
  have hvalue : (Document.ofText text).movesValue = (Document.ofText other).movesValue := by
    decide +kernel
  have hfound : (analyze text options).toOption.map (·.map Finding.code) =
      some [.missingSemicolon, .variableNaming, .missingSemicolon, .missingSemicolon] := by
    decide +kernel
  have hsame := (analyze_eq_of_code_eq text other options hcode hvalue rfl rfl rfl).1
  exact ⟨hcode, hvalue, hfound, hsame⟩

end SolidityLint
