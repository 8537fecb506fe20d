import Mathlib.Data.List.Forall2
import Mathlib.Data.List.InsertIdx
import SolidityLint.Proofs.Cap
import SolidityLint.Proofs.Checks
import SolidityLint.Proofs.Document
import SolidityLint.Proofs.Line

/-!
# One pass mends all missing semicolons

A semicolon is inserted behind the last character of the code that a finding marks. The line is
terminated then, and for the lines around it, which look at its code, nothing changes for the
worse: the next line of code starts as before, and the lines above hold no more starts of
statements than before (`analyze_insertSemicolons`).
-/

namespace SolidityLint

open Text

-- ---------------------------------------------------------------------------
-- Lines that were closed
-- ---------------------------------------------------------------------------

/-- Code with a semicolon behind it, after blanks maybe. -/
def Closed (text new : Line) : Prop :=
  text ≠ [] ∧ ∃ gap, (∀ x ∈ gap, isBlank x = true) ∧ new = text ++ gap ++ [';']

/-- The same code, or the code with a semicolon behind it. -/
def Mended (line new : Line) : Prop :=
  new.trimmedCode = line.trimmedCode ∨ Closed line.trimmedCode new.trimmedCode

section
variable {text new line : Line} {word : List Char}

theorem isPrefixOf_append_of_not_mem {x : Char} (hx : x ∉ word) (text rest : List Char) :
    word.isPrefixOf (text ++ x :: rest) = word.isPrefixOf text := by
  induction word generalizing text with
  | nil => simp
  | cons y word ih =>
    simp only [List.mem_cons, not_or] at hx
    cases text with
    | nil => simp [List.isPrefixOf, Ne.symm hx.1]
    | cons z text => simp [List.isPrefixOf, ih hx.2]

def staysApart (word : List Char) : Bool :=
  word.all fun c => c != ';' && !isBlank c

theorem Closed.isPrefixOf (h : Closed text new) (hw : staysApart word = true) :
    word.isPrefixOf new = word.isPrefixOf text := by
  obtain ⟨-, gap, hgap, rfl⟩ := h
  simp only [staysApart, List.all_eq_true, Bool.and_eq_true, bne_iff_ne, Bool.not_eq_true'] at hw
  rw [List.append_assoc]
  cases gap with
  | nil => exact isPrefixOf_append_of_not_mem (fun hm => (hw _ hm).1 rfl) text []
  | cons x gap =>
    refine isPrefixOf_append_of_not_mem (fun hm => ?_) text (gap ++ [';'])
    have hx := hgap x List.mem_cons_self
    rw [(hw x hm).2] at hx
    cases hx

theorem Closed.isTerminated (h : Closed text new) : new.isTerminated = true := by
  obtain ⟨-, gap, -, rfl⟩ := h
  simp [Line.isTerminated, Line.endsWithAny]

theorem Closed.ne_nil (h : Closed text new) : new ≠ [] := by
  obtain ⟨-, gap, -, rfl⟩ := h
  simp

theorem Mended.isEmpty (h : Mended line new) :
    new.trimmedCode.isEmpty = line.trimmedCode.isEmpty := by
  rcases h with h | h
  · rw [h]
  · rw [List.isEmpty_eq_false_iff.mpr h.ne_nil, List.isEmpty_eq_false_iff.mpr h.1]

end

namespace Check

variable {text new : Line} {here after : Context}

theorem startsConstruct_of_closed (h : Closed text new) :
    startsConstruct new = startsConstruct text := by
  have hwords : (constructStarts.all fun word => staysApart word.toList) = true := by decide
  rw [List.all_eq_true] at hwords
  rw [startsConstruct, startsConstruct, Bool.eq_iff_iff, List.any_eq_true, List.any_eq_true]
  constructor
  · rintro ⟨word, hw, hp⟩
    exact ⟨word, hw, (h.isPrefixOf (hwords word hw)).symm.trans hp⟩
  · rintro ⟨word, hw, hp⟩
    exact ⟨word, hw, (h.isPrefixOf (hwords word hw)).trans hp⟩

-- ---------------------------------------------------------------------------
-- Neighbours that were closed
-- ---------------------------------------------------------------------------

theorem nextCode?_map_of_mended {p : Line → Bool} {lines news : List Line}
    (hp : ∀ text new, Closed text new → p new = p text) (h : List.Forall₂ Mended lines news) :
    (nextCode? news).map p = (nextCode? lines).map p := by
  induction h with
  | nil => rfl
  | @cons line new lines news hm _ ih =>
    unfold nextCode?
    rw [hm.isEmpty]
    split
    · exact ih
    · rcases hm with hm | hm
      · rw [hm]
      · exact congrArg some (hp _ _ hm)

theorem codeLines_of_mended {lines news : List Line} (h : List.Forall₂ Mended lines news) :
    List.Forall₂ (fun text new => new = text ∨ Closed text new) (codeLines lines)
      (codeLines news) := by
  induction h with
  | nil => exact .nil
  | @cons line new lines news hm _ ih =>
    simp only [codeLines, List.map_cons, List.filter_cons, hm.isEmpty]
    split
    · exact .cons hm ih
    · exact ih

theorem opensStatement_of_mended {texts news : List Line}
    (h : List.Forall₂ (fun text new => new = text ∨ Closed text new) texts news)
    (ho : opensStatement news = true) : opensStatement texts = true := by
  induction h with
  | nil => exact ho
  | @cons text new texts news hm _ ih =>
    unfold opensStatement at ho ⊢
    rcases hm with rfl | hm
    · split at ho
      · cases ho
      · rename_i ht
        rw [if_neg ht]
        rw [Bool.or_eq_true] at ho ⊢
        exact ho.imp id ih
    · rw [if_pos hm.isTerminated] at ho
      cases ho

-- ---------------------------------------------------------------------------
-- The four checks
-- ---------------------------------------------------------------------------

def semicolonMarks (here : Context) : List Mark :=
  openDeclaration here ++ openStatement here ++ openLastLine here ++ loneName here

theorem semicolonMarks_marks {mark : Mark} (h : mark ∈ semicolonMarks here) :
    MarksSemicolon here mark := by
  simp only [semicolonMarks, List.mem_append] at h
  rcases h with ((h | h) | h) | h
  · exact openDeclaration_marks h
  · exact openStatement_marks h
  · exact openLastLine_marks h
  · exact loneName_marks h

theorem semicolonMarks_of_closed (h : Closed text here.trimmedCode) : semicolonMarks here = [] := by
  have hterminated := h.isTerminated
  obtain ⟨-, gap, -, hcode⟩ := h
  have hparenthesis : here.trimmedCode.endsWithAny [')'] = false := by
    simp [hcode, Line.endsWithAny]
  have hname : isName here.trimmedCode = false := by
    rw [hcode]
    cases text ++ gap with
    | nil => decide
    | cons x front => simp [isName, show continuesName ';' = false by decide]
  simp [semicolonMarks, openDeclaration, openStatement, openLastLine, loneName, hterminated,
    hparenthesis, hname]

/-- If nothing was missed on a line, nothing is missed when other lines are mended. -/
theorem semicolonMarks_of_mended (hcode : after.trimmedCode = here.trimmedCode)
    (habove : List.Forall₂ Mended here.above after.above)
    (hbelow : List.Forall₂ Mended here.below after.below) (h : semicolonMarks here = []) :
    semicolonMarks after = [] := by
  have hbracket : after.next?.any ([')'].isPrefixOf ·) = here.next?.any ([')'].isPrefixOf ·) := by
    have hmap := nextCode?_map_of_mended (p := ([')'].isPrefixOf ·))
      (fun text new hc => hc.isPrefixOf (by decide)) hbelow
    simpa [Option.any_map, Context.next?] using congrArg (Option.any id) hmap
  have hconstruct : after.next?.all startsConstruct = here.next?.all startsConstruct := by
    have hmap := nextCode?_map_of_mended (fun text new => startsConstruct_of_closed) hbelow
    simpa [Option.all_map, Context.next?] using congrArg (Option.all id) hmap
  have hopens : opensStatement after.previous = true → opensStatement here.previous = true :=
    opensStatement_of_mended (codeLines_of_mended (List.forall₂_take _ habove))
  simp only [semicolonMarks, List.append_eq_nil_iff] at h ⊢
  obtain ⟨⟨⟨hdeclaration, hstatement⟩, hlast⟩, hlone⟩ := h
  refine ⟨⟨⟨?_, ?_⟩, ?_⟩, ?_⟩
  · simpa [openDeclaration, hcode, listGoesOn, hbracket] using hdeclaration
  · simpa [openStatement, hcode] using hstatement
  · -- The look back is the one guard that can change: a statement that was open may be closed now.
    unfold openLastLine at hlast ⊢
    rw [hcode, hconstruct]
    split
    · rename_i hc
      rw [Bool.and_eq_true] at hc
      rw [if_pos (Bool.and_eq_true _ _ ▸ ⟨hc.1, hopens hc.2⟩)] at hlast
      cases hlast
    · rfl
  · simpa [loneName, hcode] using hlone

end Check

-- ---------------------------------------------------------------------------
-- Runs of the four checks
-- ---------------------------------------------------------------------------

def semicolonRules : List Rule :=
  [LineCheck.openDeclaration, .openStatement, .openLastLine, .loneName].map LineCheck.rule

section
variable {scope : Scope} {names : Names} {contexts : List Context} {row : Nat}

theorem rulesOutcome_semicolonRules (here : Context) :
    rulesOutcome scope here semicolonRules names = ⟨Check.semicolonMarks here, names⟩ := by
  simp [semicolonRules, rulesOutcome, Rule.outcome, LineCheck.rule, LineCheck.judge,
    Check.semicolonMarks]

theorem filter_linesReports {here : Context} {k : Nat} (hk : contexts[k]? = some here) :
    (linesReports scope semicolonRules 0 contexts names).filter (·.line = (k : Int)) =
      (Check.semicolonMarks here).map (·.report k) := by
  obtain ⟨known, hknown⟩ := exists_filter_linesReports hk 0 names
  rwa [rulesOutcome_semicolonRules, Nat.zero_add] at hknown

theorem linesReports_eq_nil (h : ∀ here ∈ contexts, Check.semicolonMarks here = []) :
    linesReports scope semicolonRules row contexts names = [] := by
  induction contexts generalizing row with
  | nil => rfl
  | cons here rest ih =>
    simp only [linesReports, rulesOutcome_semicolonRules]
    rw [h here List.mem_cons_self, ih fun other ho => h other (List.mem_cons_of_mem _ ho)]
    rfl

end

theorem reports_only_semicolon (options : Options) (text : List Char)
    (patterns : Option NamePatterns) :
    { options with rules := .only [.missingSemicolon] }.reports lineRules text patterns =
      linesReports ⟨(Document.ofText text).movesValue, patterns⟩ semicolonRules 0
        (Context.each (splitLines text)) {} := by
  have htree : (Session.fresh text (.only [.missingSemicolon]) options.cap patterns).treeReports
      options.trees = [] := by
    unfold Session.treeReports
    split
    · rfl
    · rfl
  simp only [Options.reports, Session.reports, htree]
  rfl

-- ---------------------------------------------------------------------------
-- Inserting semicolons
-- ---------------------------------------------------------------------------

def closeLine (found : List Finding) (line : Line) : Line :=
  found.foldl (fun line finding => line.insertIdx finding.range.stop.character.toNat ';') line

/-- A semicolon where each finding ends, in the line that the finding is on. -/
def insertSemicolons (found : List Finding) (lines : List Line) : List Line :=
  lines.mapIdx fun row line => closeLine (found.filter (·.range.stop.line = row)) line

/-- What is kept of the reports on a line is the first one, since they all mark one column. -/
theorem firstOfEach_semicolonMarks (here : Context) (row : Int) :
    firstOfEach [] ((Check.semicolonMarks here).map (·.report row)) =
      ((Check.semicolonMarks here).map (·.report row)).take 1 := by
  have hkey : ∀ report ∈ (Check.semicolonMarks here).map (·.report row), report.key =
      ⟨row, here.line.lastCodeColumn, (here.line.lastCodeColumn + 1 : Nat), .missingSemicolon⟩ := by
    intro report hr
    obtain ⟨mark, hm, rfl⟩ := List.mem_map.mp hr
    obtain ⟨-, message, rfl⟩ := Check.semicolonMarks_marks hm
    rfl
  exact firstOfEach_of_same_key hkey

theorem findings_on_line (options : Options) {text : List Char} (patterns : Option NamePatterns)
    {here : Context} {k : Nat} (hk : (Context.each (splitLines text))[k]? = some here) :
    ({ options with rules := .only [.missingSemicolon] }.allFindings lineRules text
        patterns).filter (·.range.stop.line = k) =
      (((Check.semicolonMarks here).map (·.report k)).take 1).map Report.finding := by
  have hline : (linesReports ⟨(Document.ofText text).movesValue, patterns⟩ semicolonRules 0
      (Context.each (splitLines text)) {}).filter (·.line = (k : Int)) =
      (Check.semicolonMarks here).map (·.report k) :=
    filter_linesReports hk
  rw [Options.allFindings, reports_only_semicolon, List.filter_map]
  have hkept := filter_firstOfEach (·.line = (k : Int)) []
    (linesReports ⟨(Document.ofText text).movesValue, patterns⟩ semicolonRules 0
      (Context.each (splitLines text)) {})
  refine congrArg (List.map Report.finding) (hkept.trans ?_)
  rw [← firstOfEach_semicolonMarks, ← hline]
  rfl

theorem closeLine_first (here : Context) (k : Nat) :
    let found := (((Check.semicolonMarks here).map (·.report k)).take 1).map Report.finding
    (Check.semicolonMarks here = [] → closeLine found here.line = here.line) ∧
      (Check.semicolonMarks here ≠ [] →
        Closed here.trimmedCode (closeLine found here.line).trimmedCode) := by
  intro found
  cases hmarks : Check.semicolonMarks here with
  | nil =>
    have hfound : found = [] := by simp [found, hmarks]
    exact ⟨fun _ => by rw [hfound]; rfl, fun h => absurd rfl h⟩
  | cons mark marks =>
    refine ⟨fun h => (nomatch h), fun _ => ?_⟩
    have hm : mark ∈ Check.semicolonMarks here := hmarks ▸ List.mem_cons_self
    obtain ⟨hne, message, rfl⟩ := Check.semicolonMarks_marks hm
    obtain ⟨gap, hgap, hcode⟩ := Line.trimmedCode_insertIdx hne
    have hfound : closeLine found here.line =
        here.line.insertIdx (here.line.lastCodeColumn + 1) ';' := by
      simp [found, hmarks, closeLine, Report.finding, Mark.report, Check.semicolonMark]
    exact ⟨hne, gap, hgap, hfound ▸ hcode⟩

section
variable {text : List Char} {options : Options} {patterns : Option NamePatterns}

theorem insertSemicolons_getElem? {found : List Finding} {here : Context} {k : Nat}
    (hf : { options with rules := .only [.missingSemicolon] }.allFindings lineRules text patterns =
      found)
    (hk : (Context.each (splitLines text))[k]? = some here) :
    ∃ new, (insertSemicolons found (splitLines text))[k]? = some new ∧
      (Check.semicolonMarks here = [] → new = here.line) ∧
      (Check.semicolonMarks here ≠ [] → Closed here.trimmedCode new.trimmedCode) := by
  have hline : (splitLines text)[k]? = some here.line := by
    rw [Context.each_getElem?] at hk
    obtain ⟨line, hl, rfl⟩ := Option.map_eq_some_iff.mp hk
    exact hl
  refine ⟨closeLine (found.filter (·.range.stop.line = k)) here.line, ?_, ?_⟩
  · rw [insertSemicolons, List.getElem?_mapIdx, hline]
    rfl
  · rw [← hf, findings_on_line options patterns hk]
    exact closeLine_first here k

theorem mended_insertSemicolons {found : List Finding}
    (hf : { options with rules := .only [.missingSemicolon] }.allFindings lineRules text patterns =
      found) :
    List.Forall₂ Mended (splitLines text) (insertSemicolons found (splitLines text)) := by
  refine List.forall₂_iff_get.mpr ⟨by simp [insertSemicolons], fun k hold hnew => ?_⟩
  obtain ⟨here, hk, hline, -⟩ := Context.exists_each_getElem? hold
  obtain ⟨new, hn, hsame, hclosed⟩ := insertSemicolons_getElem? hf hk
  obtain ⟨_, rfl⟩ := List.getElem?_eq_some_iff.mp hn
  rw [List.get_eq_getElem, List.get_eq_getElem, ← hline]
  by_cases hmarks : Check.semicolonMarks here = []
  · exact .inl (congrArg Line.trimmedCode (hsame hmarks))
  · exact .inr (hclosed hmarks)

theorem semicolonMarks_insertSemicolons {found : List Finding} {after : Context}
    (hf : { options with rules := .only [.missingSemicolon] }.allFindings lineRules text patterns =
      found)
    (h : after ∈ Context.each (insertSemicolons found (splitLines text))) :
    Check.semicolonMarks after = [] := by
  have hmended := mended_insertSemicolons hf
  obtain ⟨k, hk⟩ := List.mem_iff_getElem?.mp h
  rw [Context.each_getElem?] at hk
  obtain ⟨new, hn, rfl⟩ := Option.map_eq_some_iff.mp hk
  have hlt : k < (splitLines text).length := by
    rw [hmended.length_eq]
    exact (List.getElem?_eq_some_iff.mp hn).1
  obtain ⟨here, hk, -, habove, hbelow⟩ := Context.exists_each_getElem? hlt
  obtain ⟨other, ho, hsame, hclosed⟩ := insertSemicolons_getElem? hf hk
  cases hn.symm.trans ho
  by_cases hmarks : Check.semicolonMarks here = []
  · refine Check.semicolonMarks_of_mended ?_ ?_ ?_ hmarks
    · exact congrArg Line.trimmedCode (hsame hmarks)
    · rw [habove]
      exact List.forall₂_reverse_iff.mpr (List.forall₂_take k hmended)
    · rw [hbelow]
      exact List.forall₂_drop (k + 1) hmended
  · exact Check.semicolonMarks_of_closed (hclosed hmarks)

end

theorem not_mem_closeLine {found : List Finding} {line : Line} (h : '\n' ∉ line) :
    '\n' ∉ closeLine found line := by
  induction found generalizing line with
  | nil => exact h
  | cons finding found ih =>
    refine ih fun hm => ?_
    rcases List.eq_or_mem_of_mem_insertIdx hm with he | hm
    · cases he
    · exact h hm

theorem exists_splitLines_eq_insertSemicolons (found : List Finding) (text : List Char) :
    ∃ mended, splitLines mended = insertSemicolons found (splitLines text) := by
  have hends : ∀ (k : Nat) (line : Line), (insertSemicolons found (splitLines text))[k]? =
      some line → LineEnd.returnFeed = .feed → line.getLast? ≠ some '\r' := fun _ _ _ h => nomatch h
  refine ⟨_, splitLines_joinLines ?_ (fun line hl => ?_) hends⟩
  · simp [insertSemicolons, splitLines_ne_nil]
  · obtain ⟨k, hk, rfl⟩ := List.mem_mapIdx.mp hl
    exact not_mem_closeLine (not_mem_splitLines (List.getElem_mem hk))

/-- The document with a semicolon at the end of each finding exists, and nothing is missing in it,
neither on the lines that were closed nor on any other. -/
theorem analyze_insertSemicolons (text : List Char) (options : Options) (found : List Finding)
    (ha : { options with rules := .only [.missingSemicolon] }.IsAmple text)
    (h : analyze text { options with rules := .only [.missingSemicolon] } = .ok found) :
    (∃ mended, splitLines mended = insertSemicolons found (splitLines text)) ∧
    ∀ mended, splitLines mended = insertSemicolons found (splitLines text) → ∀ cap,
      analyze mended { options with rules := .only [.missingSemicolon], cap } = .ok [] := by
  refine ⟨exists_splitLines_eq_insertSemicolons found text, fun mended hm cap => ?_⟩
  obtain ⟨patterns, hp, -⟩ := analyze_ok_iff.mp h
  have hf : { options with rules := .only [.missingSemicolon] }.allFindings lineRules text
      patterns = found := by
    have hall := ha.analyze_eq
    rw [h, hp] at hall
    exact (Except.ok.inj hall).symm
  have hnone : { options with rules := .only [.missingSemicolon], cap }.reports lineRules mended
      patterns = [] := by
    refine (reports_only_semicolon { options with cap } mended patterns).trans ?_
    rw [hm]
    exact linesReports_eq_nil fun after => semicolonMarks_insertSemicolons hf
  refine analyze_ok_iff.mpr ⟨patterns, hp, ?_⟩
  rw [Options.allFindings, hnone]
  exact List.take_nil

/-- A declaration before a comment, the last line of a call and a jump are closed in one pass. -/
theorem analyze_insertSemicolons_on_three_lines :
    let text := "uint x // all\nfoo(a,\n  b)\nreturn y".toList
    let mended := "uint x; // all\nfoo(a,\n  b);\nreturn y;".toList
    let options : Options := { rules := .only [.missingSemicolon] }
    let missing (message : String) (line column : Int) : Finding :=
      ⟨message, .missingSemicolon, .error, ⟨⟨line, column⟩, ⟨line, column + 1⟩⟩⟩
    let found := [missing Check.declarationMessage 0 5, missing Check.statementMessage 2 3,
      missing Check.statementMessage 3 7]
    options.IsAmple text ∧ analyze text options = .ok found ∧
      splitLines mended = insertSemicolons found (splitLines text) ∧
      analyze mended options = .ok [] := by
  intro text mended options missing found
  have ha : options.IsAmple text := Options.isAmple_of_not_reached (by decide +kernel)
  have hf : analyze text options = .ok found := eq_ok_of_toOption (by decide +kernel)
  have hm : splitLines mended = insertSemicolons found (splitLines text) := by decide +kernel
  exact ⟨ha, hf, hm, (analyze_insertSemicolons text {} found ha hf).2 mended hm defaultCap⟩

end SolidityLint
