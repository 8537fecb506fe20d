import SolidityLint.Proofs.Faults
import SolidityLint.Proofs.Switches
import SolidityLint.Proofs.WholeWords

/-!
# Kinds of names are judged apart

Names are those of functions, variables, constants or contracts, and each kind has its pattern. All
patterns are read at once, one check goes by two of them, and all findings go into one sink. Still
the findings on names of a kind depend on the pattern of this kind alone, and all other findings on
no pattern (`analyze_name_kinds_apart`): a check with an unchanged pattern says the same, and what
the others say has other keys.
-/

namespace SolidityLint

open Text

-- ---------------------------------------------------------------------------
-- Lines that declare constants
-- ---------------------------------------------------------------------------

/-- The code of the line has one of the words that make a variable a constant. -/
def Line.SaysConstant (line : Line) : Prop :=
  HasWord "constant" line.code ∨ HasWord "immutable" line.code

theorem Check.constantWord_occursIn_iff {text : List Char} :
    constantWord.occursIn text = true ↔ HasWord "constant" text ∨ HasWord "immutable" text := by
  rw [constantWord, Pattern.occursIn_caselessAny_iff (by decide)]
  simp only [List.mem_cons, List.not_mem_nil, or_false, exists_eq_or_imp, exists_eq_left]

theorem Line.constantWord_occursIn_trimmedCode (line : Line) :
    Check.constantWord.occursIn line.trimmedCode = true ↔ line.SaysConstant := by
  rw [Check.constantWord_occursIn_iff, trimmedCode,
    hasWord_trim_iff (by decide +kernel) (by decide),
    hasWord_trim_iff (by decide +kernel) (by decide)]
  exact Iff.rfl

instance (line : Line) : Decidable line.SaysConstant :=
  decidable_of_iff _ line.constantWord_occursIn_trimmedCode

-- ---------------------------------------------------------------------------
-- Kinds
-- ---------------------------------------------------------------------------

inductive NameKind
  | functionName
  | variableName
  | constantName
  | contractName
  deriving DecidableEq, Repr

def Naming.written (naming : Naming) : NameKind → String
  | .functionName => naming.functionPattern
  | .variableName => naming.variablePattern
  | .constantName => naming.constantPattern
  | .contractName => naming.contractPattern

/-- The pattern for the names of a kind, if one was read. -/
def NamePatterns.read? (patterns : NamePatterns) : NameKind → Option Expression
  | .functionName => patterns.functionNames
  | .variableName => patterns.variableNames
  | .constantName => patterns.constantNames
  | .contractName => patterns.contractNames

def Line.variableKind (line : Line) : NameKind :=
  if line.SaysConstant then .constantName else .variableName

/-- The kind of name that findings with this key are about, if they are about names. -/
def Key.nameKind? (lines : List Line) (key : Key) : Option NameKind :=
  match key.code with
  | .functionNaming => some .functionName
  | .variableNaming => some (lines.getD key.line.toNat []).variableKind
  | .contractNaming => some .contractName
  | _ => none

def Finding.nameKind? (lines : List Line) (finding : Finding) : Option NameKind :=
  finding.key.nameKind? lines

def LineCheck.nameKind? (line : Line) : LineCheck → Option NameKind
  | .functionNaming => some .functionName
  | .variableNaming => some line.variableKind
  | .contractNaming => some .contractName
  | _ => none

def NameKind.code : NameKind → Code
  | .functionName => .functionNaming
  | .variableName | .constantName => .variableNaming
  | .contractName => .contractNaming

def NameKind.label : NameKind → String
  | .functionName => "function"
  | .variableName | .constantName => "variable"
  | .contractName => "contract/interface/library"

theorem Line.code_variableKind (line : Line) : line.variableKind.code = .variableNaming := by
  unfold variableKind
  split <;> rfl

theorem Line.label_variableKind (line : Line) : line.variableKind.label = "variable" := by
  unfold variableKind
  split <;> rfl

theorem Finding.code_of_nameKind? {lines : List Line} {finding : Finding} {kind : NameKind}
    (h : finding.nameKind? lines = some kind) : finding.code = kind.code := by
  unfold nameKind? Key.nameKind? at h
  split at h
  · rename_i hc
    cases h
    exact hc
  · rename_i hc
    cases h
    rw [Line.code_variableKind]
    exact hc
  · rename_i hc
    cases h
    exact hc
  · cases h

theorem Naming.namingPattern?_written {fits : List Char → Bool} {naming : Naming}
    {patterns : NamePatterns} (h : naming.patterns fits = .ok patterns) (kind : NameKind) :
    namingPattern? fits (naming.written kind) = .ok (patterns.read? kind) := by
  obtain ⟨hfunction, hvariable, hconstant, hcontract⟩ := patterns_ok h
  cases kind with
  | functionName => exact hfunction
  | variableName => exact hvariable
  | constantName => exact hconstant
  | contractName => exact hcontract

theorem Naming.read?_eq_of_written_eq {fits : List Char → Bool} {one other : Naming}
    {patterns patterns' : NamePatterns} {kind : NameKind}
    (hone : one.patterns fits = .ok patterns) (hother : other.patterns fits = .ok patterns')
    (h : one.written kind = other.written kind) : patterns.read? kind = patterns'.read? kind := by
  have hread := namingPattern?_written hone kind
  rw [h, namingPattern?_written hother kind] at hread
  exact (Except.ok.inj hread).symm

theorem Check.variablePattern?_eq (patterns : NamePatterns) (line : Line) :
    variablePattern? patterns line.trimmedCode = patterns.read? line.variableKind := by
  unfold variablePattern? Line.variableKind
  simp only [Line.constantWord_occursIn_trimmedCode]
  split <;> rfl

-- ---------------------------------------------------------------------------
-- One line
-- ---------------------------------------------------------------------------

section
variable {scope : Scope} {names : Names} {here : Context} {mark : Mark} {check : LineCheck}
  {lines : List Line} {row : Nat}

theorem LineCheck.nameKind?_of_mem (hline : lines[row]? = some here.line)
    (h : mark ∈ (check.rule.outcome scope names here).marks) :
    (mark.report row).key.nameKind? lines = check.nameKind? here.line := by
  have hcode : (mark.report row).key.code = check.code := check.outcome_code scope names here mark h
  have hrow : lines.getD (mark.report row).key.line.toNat [] = here.line := by
    rw [List.getD_eq_getElem?_getD]
    exact congrArg (Option.getD · []) hline
  simp only [Key.nameKind?, hcode, hrow]
  cases check <;> rfl

theorem LineCheck.exists_read?_of_mem {kind : NameKind}
    (h : mark ∈ (check.rule.outcome scope names here).marks)
    (hkind : check.nameKind? here.line = some kind) :
    ∃ pattern, scope.naming.bind (·.read? kind) = some pattern := by
  cases check with
  | functionNaming => cases hkind; exact exists_functionNames h
  | contractNaming => cases hkind; exact exists_contractNames h
  | variableNaming =>
    cases hkind
    obtain ⟨pattern, hp⟩ := exists_variableNames h
    exact ⟨pattern, (congrArg scope.naming.bind
      (funext fun patterns => Check.variablePattern?_eq patterns here.line)).symm.trans hp⟩
  | _ => cases hkind

end

section
variable {movesValue : Bool} {one other : NamePatterns} {names : Names} {here : Context}
  {check : LineCheck} {lines : List Line} {row : Nat} {selected : Option NameKind → Bool}

theorem LineCheck.judge_eq_of_read?
    (h : ∀ kind ∈ check.nameKind? here.line, one.read? kind = other.read? kind) :
    check.judge ⟨movesValue, some one⟩ names here =
      check.judge ⟨movesValue, some other⟩ names here := by
  cases check with
  | functionNaming =>
    have hread : one.functionNames = other.functionNames := h .functionName rfl
    simp only [judge, Option.bind_some, hread]
  | contractNaming =>
    have hread : one.contractNames = other.contractNames := h .contractName rfl
    simp only [judge, Option.bind_some, hread]
  | variableNaming =>
    have hread : Check.variablePattern? one here.trimmedCode =
        Check.variablePattern? other here.trimmedCode :=
      (Check.variablePattern?_eq one here.line).trans
        ((h _ rfl).trans (Check.variablePattern?_eq other here.line).symm)
    simp only [judge, Check.variableNaming, hread]
  | _ => rfl

theorem LineCheck.outcome_names_of_switch_ne (h : check.switch ≠ .missingDataType) (scope : Scope)
    (names : Names) (here : Context) : (check.rule.outcome scope names here).names = names :=
  congrArg Outcome.names (outcome_eq_of_switch_ne h scope names names here)

/-- Patterns have no part in which names a check leaves behind. -/
theorem LineCheck.outcome_names_eq (movesValue : Bool) (one other : NamePatterns)
    (check : LineCheck) (names : Names) (here : Context) :
    (check.rule.outcome ⟨movesValue, some one⟩ names here).names =
      (check.rule.outcome ⟨movesValue, some other⟩ names here).names := by
  by_cases hs : check.switch = .missingDataType
  · have hjudge : check.judge ⟨movesValue, some one⟩ names here =
        check.judge ⟨movesValue, some other⟩ names here := by
      refine judge_eq_of_read? fun kind hk => ?_
      cases check <;> cases hs <;> cases hk
    simp only [Rule.outcome, rule, hjudge]
  · rw [outcome_names_of_switch_ne hs, outcome_names_of_switch_ne hs]

def selectReports (selected : Option NameKind → Bool) (lines : List Line) (marks : List Mark)
    (row : Nat) : List Report :=
  (marks.map (·.report row)).filter fun report => selected (report.key.nameKind? lines)

theorem selectReports_append (first second : List Mark) :
    selectReports selected lines (first ++ second) row =
      selectReports selected lines first row ++ selectReports selected lines second row := by
  simp [selectReports]

/-- A check whose pattern is the same says the same. One whose pattern is not says nothing that is
selected. -/
theorem LineCheck.selectReports_outcome (hline : lines[row]? = some here.line)
    (h : ∀ kind, selected (some kind) = true → one.read? kind = other.read? kind) :
    selectReports selected lines
        (check.rule.outcome ⟨movesValue, some one⟩ names here).marks row =
      selectReports selected lines
        (check.rule.outcome ⟨movesValue, some other⟩ names here).marks row := by
  by_cases hs : selected (check.nameKind? here.line) = true
  · have hjudge : check.judge ⟨movesValue, some one⟩ names here =
        check.judge ⟨movesValue, some other⟩ names here :=
      judge_eq_of_read? fun kind hk => h kind (Option.mem_def.mp hk ▸ hs)
    simp only [Rule.outcome, rule, hjudge]
  · have hnone (patterns : NamePatterns) : selectReports selected lines
        (check.rule.outcome ⟨movesValue, some patterns⟩ names here).marks row = [] := by
      refine List.filter_eq_nil_iff.mpr fun report hr => ?_
      obtain ⟨mark, hm, rfl⟩ := List.mem_map.mp hr
      rwa [nameKind?_of_mem hline hm]
    rw [hnone, hnone]

theorem selectReports_rulesOutcome (movesValue : Bool) (hline : lines[row]? = some here.line)
    (h : ∀ kind, selected (some kind) = true → one.read? kind = other.read? kind)
    (checks : List LineCheck) (names : Names) :
    (rulesOutcome ⟨movesValue, some one⟩ here (checks.map LineCheck.rule) names).names =
        (rulesOutcome ⟨movesValue, some other⟩ here (checks.map LineCheck.rule) names).names ∧
      selectReports selected lines
          (rulesOutcome ⟨movesValue, some one⟩ here (checks.map LineCheck.rule) names).marks row =
        selectReports selected lines
          (rulesOutcome ⟨movesValue, some other⟩ here (checks.map LineCheck.rule) names).marks
          row := by
  induction checks generalizing names with
  | nil => exact ⟨rfl, rfl⟩
  | cons check checks ih =>
    obtain ⟨hnames, hmarks⟩ := ih (check.rule.outcome ⟨movesValue, some other⟩ names here).names
    simp only [List.map_cons, rulesOutcome, selectReports_append,
      LineCheck.outcome_names_eq movesValue one other, hnames, hmarks,
      LineCheck.selectReports_outcome hline h, and_self]

end

-- ---------------------------------------------------------------------------
-- Whole runs
-- ---------------------------------------------------------------------------

section
variable {movesValue : Bool} {one other : NamePatterns} {lines : List Line}
  {selected : Option NameKind → Bool}

theorem filter_linesReports_of_selected
    (h : ∀ kind, selected (some kind) = true → one.read? kind = other.read? kind)
    (checks : List LineCheck) {row : Nat} {contexts : List Context}
    (hlines : ∀ (k : Nat) (here : Context), contexts[k]? = some here →
      lines[row + k]? = some here.line) (names : Names) :
    (linesReports ⟨movesValue, some one⟩ (checks.map LineCheck.rule) row contexts names).filter
        (selected <| ·.key.nameKind? lines) =
      (linesReports ⟨movesValue, some other⟩ (checks.map LineCheck.rule) row contexts
        names).filter (selected <| ·.key.nameKind? lines) := by
  induction contexts generalizing row names with
  | nil => rfl
  | cons here rest ih =>
    obtain ⟨hnames, hmarks⟩ :=
      selectReports_rulesOutcome movesValue (hlines 0 here rfl) h checks names
    have hrest : ∀ (k : Nat) (other : Context), rest[k]? = some other →
        lines[row + 1 + k]? = some other.line := fun k other hk => by
      rw [Nat.add_right_comm]
      exact hlines (k + 1) other hk
    simp only [linesReports, List.filter_append, hnames, ih hrest]
    exact congrArg (· ++ _) hmarks

theorem Options.filter_allFindings_of_selected (options : Options) (text : List Char)
    (h : ∀ kind, selected (some kind) = true → one.read? kind = other.read? kind) :
    (options.allFindings lineRules text (some one)).filter
        (selected <| ·.nameKind? (splitLines text)) =
      (options.allFindings lineRules text (some other)).filter
        (selected <| ·.nameKind? (splitLines text)) := by
  have hlines : ∀ (k : Nat) (here : Context), (Context.each (splitLines text))[k]? = some here →
      (splitLines text)[0 + k]? = some here.line := by
    intro k here hk
    rw [Nat.zero_add]
    exact Context.line_of_each hk
  have hreports : (options.reports lineRules text (some one)).filter
        (selected <| ·.key.nameKind? (splitLines text)) =
      (options.reports lineRules text (some other)).filter
        (selected <| ·.key.nameKind? (splitLines text)) := by
    simp only [reports, Session.reports, List.filter_append, Rules.filter_lineRules, Rules.active]
    exact congrArg (_ ++ ·) (filter_linesReports_of_selected h _ hlines {})
  have hkept (patterns : Option NamePatterns) := options.filter_allFindings lineRules text patterns
    (selected <| ·.nameKind? (splitLines text))
  have hfirst := congrArg (fun reports => (firstOfEach [] reports).map Report.finding) hreports
  exact (hkept _).trans (hfirst.trans (hkept _).symm)

end

section
variable {options : Options} {text : List Char} {patterns : Option NamePatterns} {finding : Finding}
  {kind : NameKind}

theorem Options.exists_mark_of_nameKind?
    (h : finding ∈ options.allFindings lineRules text patterns)
    (hkind : finding.nameKind? (splitLines text) = some kind) :
    ∃ (row : Nat) (here : Context) (check : LineCheck) (known : Names) (mark : Mark),
      (splitLines text)[row]? = some here.line ∧ check.nameKind? here.line = some kind ∧
      mark ∈ (check.rule.outcome ⟨(Document.ofText text).movesValue, patterns⟩ known here).marks ∧
      finding = (mark.report row).finding := by
  have hcode := Finding.code_of_nameKind? hkind
  have hreturn : finding.code ≠ .missingReturn := by
    rw [hcode]
    cases kind <;> decide
  have hbraces : finding.code ≠ .missingBraces := by
    rw [hcode]
    cases kind <;> decide
  obtain ⟨row, here, check, known, mark, hrow, -, hm, rfl⟩ :=
    exists_mark_of_mem_allFindings h hreturn hbraces
  have hline := Context.line_of_each hrow
  refine ⟨row, here, check, known, mark, hline, ?_, hm, rfl⟩
  exact (LineCheck.nameKind?_of_mem hline hm).symm.trans hkind

theorem Options.nameKind?_ne_of_unread {fits : List Char → Bool} {naming : Naming}
    {patterns : NamePatterns} (hp : naming.patterns fits = .ok patterns)
    (hunread : naming.written kind = "" ∨
      Expression.read fits (naming.written kind).toList = .error .malformed)
    (h : finding ∈ options.allFindings lineRules text (some patterns)) :
    finding.nameKind? (splitLines text) ≠ some kind := by
  intro hkind
  obtain ⟨row, here, check, known, mark, -, hcheck, hm, rfl⟩ := exists_mark_of_nameKind? h hkind
  obtain ⟨pattern, hread⟩ := LineCheck.exists_read?_of_mem hm hcheck
  obtain ⟨hne, hok⟩ := read_of_namingPattern?
    ((Naming.namingPattern?_written hp kind).trans (congrArg Except.ok hread))
  rcases hunread with he | he
  · exact hne he
  · cases hok.symm.trans he

end

/-- Findings of selected kinds are the same when the patterns of these kinds are. Findings that are
not about names can always be selected. -/
theorem analyze_name_kinds_apart (text : List Char) (options : Options) (one other : Naming)
    (hone : (one.patterns options.fits).isOk = true)
    (hother : (other.patterns options.fits).isOk = true)
    (hall : { options with naming := some one }.IsAmple text)
    (hall' : { options with naming := some other }.IsAmple text) :
    ∃ found found', analyze text { options with naming := some one } = .ok found ∧
      analyze text { options with naming := some other } = .ok found' ∧
      (∀ selected : Option NameKind → Bool,
        (∀ kind, selected (some kind) = true → one.written kind = other.written kind) →
          found.filter (selected <| ·.nameKind? (splitLines text)) =
            found'.filter (selected <| ·.nameKind? (splitLines text))) ∧
      ∀ kind, (one.written kind = "" ∨
          Expression.read options.fits (one.written kind).toList = .error .malformed) →
        (∀ finding ∈ found, finding.nameKind? (splitLines text) ≠ some kind) ∧
        ((∀ kept, kept ≠ kind → one.written kept = other.written kept) →
          found = found'.filter (·.nameKind? (splitLines text) ≠ some kind)) := by
  obtain ⟨patterns, hp⟩ := exists_of_isOk hone
  obtain ⟨patterns', hp'⟩ := exists_of_isOk hother
  have hfound : analyze text { options with naming := some one } =
      .ok (options.allFindings lineRules text (some patterns)) := by
    rw [hall.analyze_eq, Options.patterns, mapM_patterns_some, hp]
    rfl
  have hfound' : analyze text { options with naming := some other } =
      .ok (options.allFindings lineRules text (some patterns')) := by
    rw [hall'.analyze_eq, Options.patterns, mapM_patterns_some, hp']
    rfl
  have hkept (selected : Option NameKind → Bool)
      (h : ∀ kind, selected (some kind) = true → one.written kind = other.written kind) :=
    options.filter_allFindings_of_selected text fun kind hk =>
      Naming.read?_eq_of_written_eq hp hp' (h kind hk)
  refine ⟨_, _, hfound, hfound', hkept, fun kind hunread => ?_⟩
  have habsent : ∀ finding ∈ options.allFindings lineRules text (some patterns),
      finding.nameKind? (splitLines text) ≠ some kind :=
    fun finding hm => Options.nameKind?_ne_of_unread hp hunread hm
  refine ⟨habsent, fun h => ?_⟩
  have hself := List.filter_eq_self.mpr fun finding hm => decide_eq_true (habsent finding hm)
  rw [← hself]
  exact hkept (· ≠ some kind) fun kept hk => h kept (by simpa using hk)

/-- A malformed pattern for functions takes away what another one finds on functions. -/
theorem analyze_name_kinds_apart_without_function_pattern :
    let text := "contract c \x7b\nfunction F() \x7b\nuint constant y = 1;\nuint Y = 1;".toList
    let other : Naming := .default
    let one : Naming := { other with functionPattern := "(" }
    let options : Options := { rules := .only [.functionNaming, .variableNaming, .contractNaming] }
    ∃ found found', analyze text { options with naming := some one } = .ok found ∧
      analyze text { options with naming := some other } = .ok found' ∧
      found'.map (·.nameKind? (splitLines text)) = [some .contractName, some .functionName,
        some .constantName, some .variableName] ∧
      found = found'.filter (·.nameKind? (splitLines text) ≠ some .functionName) := by
  intro text other one options
  have hkinds : (analyze text { options with naming := some other }).toOption.map
      (·.map (·.nameKind? (splitLines text))) = some [some .contractName, some .functionName,
        some .constantName, some .variableName] := by decide +kernel
  have hmalformed : Expression.read options.fits (one.written .functionName).toList =
      .error .malformed := by
    decide +kernel
  obtain ⟨found, found', hfound, hfound', -, hunread⟩ := analyze_name_kinds_apart text options one
    other (by decide +kernel) (by decide +kernel)
    (Options.isAmple_of_not_reached (by decide +kernel))
    (Options.isAmple_of_not_reached (by decide +kernel))
  rw [hfound'] at hkinds
  refine ⟨found, found', hfound, hfound', Option.some.inj hkinds, ?_⟩
  refine (hunread .functionName (.inr hmalformed)).2 fun kept hk => ?_
  cases kept with
  | functionName => exact absurd rfl hk
  | _ => rfl

end SolidityLint
