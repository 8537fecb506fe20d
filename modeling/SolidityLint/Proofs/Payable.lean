import SolidityLint.Proofs.LineEnds
import SolidityLint.Proofs.Locality
import SolidityLint.Proofs.WholeWords

/-!
# Functions in documents that move value

A document moves value if one of its lines holds a call that does, spelled out as `ValueTransfer`
(`Document.movesValue_iff_lines`). The one look at the whole text neither goes over the end of a
line nor misses a call on a line. In such a document a function header is reported unless its line
says that the function takes value or only reads (`Line.LacksPayable`), and it is reported once
(`analyze_payable_exact`).
-/

namespace SolidityLint

open Pattern Text

-- ---------------------------------------------------------------------------
-- Calls that move value
-- ---------------------------------------------------------------------------

/-- A call that moves value, in letters of any case. Anything can stand between the brace and the
value. -/
inductive ValueTransfer : List Char → Prop
  | transfer {word : List Char} (letters : SameLetters word ".transfer(".toList) :
      ValueTransfer word
  | send {word : List Char} (letters : SameLetters word ".send(".toList) : ValueTransfer word
  | call {opening between value : List Char} (opens : SameLetters opening ".call\x7b".toList)
      (letters : SameLetters value "value".toList) : ValueTransfer (opening ++ between ++ value)

def Line.MovesValue (line : Line) : Prop := ∃ word, ValueTransfer word ∧ word <:+: line

namespace Document

variable {word : List Char}

theorem spells_iff_valueTransfer :
    valueTransfer.Spells word ↔ ValueTransfer word ∧ '\n' ∉ word := by
  constructor
  · intro h
    refine ⟨?_, (staysOnLine_valueTransfer h).1⟩
    rcases spells_valueTransfer.mp h with letters | letters | ⟨_, _, _, rfl, opens, -, letters⟩
    · exact .transfer letters
    · exact .send letters
    · exact .call opens letters
  · rintro ⟨h, hfeed⟩
    rw [spells_valueTransfer]
    cases h with
    | transfer letters => exact .inl letters
    | send letters => exact .inr (.inl letters)
    | @call opening between value opens letters =>
      have hbetween : '\n' ∉ between := fun hm => hfeed (by simp [hm])
      exact .inr (.inr ⟨opening, between, value, rfl, opens, hbetween, letters⟩)

theorem valueTransfer_occursIn_iff {line : Line} (hline : '\n' ∉ line) :
    valueTransfer.occursIn line = true ↔ line.MovesValue := by
  simp only [occursIn_iff_spells (p := valueTransfer) (by decide), spells_iff_valueTransfer]
  constructor
  · rintro ⟨word, ⟨h, -⟩, hin⟩
    exact ⟨word, h, hin⟩
  · rintro ⟨word, h, hin⟩
    exact ⟨word, ⟨h, fun hm => hline (hin.subset hm)⟩, hin⟩

theorem movesValue_iff_lines (text : List Char) :
    (ofText text).movesValue = true ↔ ∃ line ∈ splitLines text, line.MovesValue := by
  rw [movesValue_iff]
  refine exists_congr fun line => and_congr_right fun hl => ?_
  exact valueTransfer_occursIn_iff (not_mem_splitLines hl)

end Document

-- ---------------------------------------------------------------------------
-- Function headers
-- ---------------------------------------------------------------------------

/-- The word `function`, a name behind blanks, and parameters up to the first closing
parenthesis. -/
inductive FunctionHeader : List Char → Prop
  | mk {keyword gap name space parameters : List Char}
      (letters : SameLetters keyword "function".toList) (gap_ne : gap ≠ []) (name_ne : name ≠ [])
      (blanks : ∀ x ∈ gap ++ space, isBlank x = true) (word : ∀ x ∈ name, isWordChar x = true)
      (closes : ')' ∉ parameters) :
      FunctionHeader (keyword ++ gap ++ name ++ space ++ '(' :: parameters ++ [')'])

def Line.HasHeader (line : Line) : Prop :=
  ∃ front header back, line = front ++ header ++ back ∧
    isBoundary front (header ++ back) = true ∧ FunctionHeader header

/-- The code of the line has a function header, and no word that makes the function take value or
keeps it from doing so. -/
def Line.LacksPayable (line : Line) : Prop :=
  line.code.HasHeader ∧ ∀ letters ∈ ["payable", "view", "pure"], ¬HasWord letters line.code

namespace Check

variable {word text : List Char}

theorem spells_header {more : List Pattern} :
    (all (caseless "function" :: blanks1 :: Pattern.word :: blanks :: char '(' ::
        many (noneOf [.char ')']) :: char ')' :: more)).Spells word ↔
      ∃ header rest, FunctionHeader header ∧ (all more).Spells rest ∧ word = header ++ rest := by
  constructor
  · intro h
    obtain ⟨keyword, _, hkeyword, hafter, rfl⟩ := spells_all_cons.mp h
    obtain ⟨gap, _, hgap, hnamed, rfl⟩ := spells_all_cons.mp hafter
    obtain ⟨name, _, hname, hbehind, rfl⟩ := spells_all_cons.mp hnamed
    obtain ⟨space, _, hspace, hopened, rfl⟩ := spells_all_cons.mp hbehind
    obtain ⟨_, _, hopen, hlist, rfl⟩ := spells_all_cons.mp hopened
    obtain ⟨parameters, _, hparameters, hclosed, rfl⟩ := spells_all_cons.mp hlist
    obtain ⟨_, rest, hclose, hrest, rfl⟩ := spells_all_cons.mp hclosed
    obtain ⟨gap_ne, hgap⟩ := spells_blanks1.mp hgap
    obtain ⟨name_ne, hname⟩ := spells_word.mp hname
    rw [spells_char.mp hopen, spells_char.mp hclose]
    refine ⟨keyword ++ gap ++ name ++ space ++ '(' :: parameters ++ [')'], rest, ?_, hrest, by simp⟩
    refine .mk (spells_caseless.mp hkeyword) gap_ne name_ne ?_ hname
      (spells_many_noneOf.mp hparameters)
    exact List.forall_mem_append.mpr ⟨hgap, spells_blanks.mp hspace⟩
  · rintro ⟨_, rest, @⟨keyword, gap, name, space, parameters, letters, gap_ne, name_ne, hblanks,
      hname, closes⟩, hrest, rfl⟩
    obtain ⟨hgap, hspace⟩ := List.forall_mem_append.mp hblanks
    have hclosed := spells_all_cons.mpr ⟨[')'], rest, spells_char.mpr rfl, hrest, rfl⟩
    have hlist :=
      spells_all_cons.mpr ⟨parameters, _, spells_many_noneOf.mpr closes, hclosed, rfl⟩
    have hopened := spells_all_cons.mpr ⟨['('], _, spells_char.mpr rfl, hlist, rfl⟩
    have hbehind := spells_all_cons.mpr ⟨space, _, spells_blanks.mpr hspace, hopened, rfl⟩
    have hnamed := spells_all_cons.mpr ⟨name, _, spells_word.mpr ⟨name_ne, hname⟩, hbehind, rfl⟩
    have hafter := spells_all_cons.mpr ⟨gap, _, spells_blanks1.mpr ⟨gap_ne, hgap⟩, hnamed, rfl⟩
    exact spells_all_cons.mpr ⟨keyword, _, spells_caseless.mpr letters, hafter, by simp⟩

/-- The visibility behind a header is marked with it, but is not asked for. -/
theorem functionHeader_occursIn_iff :
    functionHeader.occursIn text = true ↔ Line.HasHeader text := by
  refine (occursIn_boundary_iff (by decide) text).trans ?_
  simp only [spells_header]
  constructor
  · rintro ⟨front, _, back, rfl, hstarts, header, rest, hheader, -, rfl⟩
    refine ⟨front, header, rest ++ back, by simp, ?_, hheader⟩
    rwa [← List.append_assoc]
  · rintro ⟨front, header, back, rfl, hstarts, hheader⟩
    have hnone : (all [blanks, optional (all [caselessAny ["public", "private", "internal",
        "external"], blanks])]).Spells [] :=
      ⟨[], [], spells_blanks.mpr (List.forall_mem_nil _),
        ⟨[], Nat.zero_le _, by simp, List.forall_mem_nil _, rfl⟩, rfl⟩
    exact ⟨front, header, back, rfl, hstarts, header, [], hheader, hnone,
      (List.append_nil header).symm⟩

theorem payableWord_occursIn_iff : payableWord.occursIn text = true ↔ HasWord "payable" text := by
  change (all [boundary, caselessAny ["payable"], boundary]).occursIn text = true ↔ _
  rw [occursIn_caselessAny_iff (by decide)]
  simp only [List.mem_singleton, exists_eq_left]

theorem readOnlyWord_occursIn_iff :
    readOnlyWord.occursIn text = true ↔ HasWord "view" text ∨ HasWord "pure" text := by
  rw [readOnlyWord, occursIn_caselessAny_iff (by decide)]
  simp only [List.mem_cons, List.not_mem_nil, or_false, exists_eq_or_imp, exists_eq_left]

theorem missingPayable_cases (here : Context) :
    (missingPayable here = [] ∧ ¬here.line.LacksPayable) ∨
      ∃ mark, missingPayable here = [mark] ∧ here.line.LacksPayable := by
  have hheader : here.line.code.HasHeader ↔ (functionHeader.search? here.code).isSome = true :=
    functionHeader_occursIn_iff.symm
  have hwords : (∀ letters ∈ ["payable", "view", "pure"], ¬HasWord letters here.line.code) ↔
      (payableWord.occursIn here.code || readOnlyWord.occursIn here.code) = false := by
    rw [← Bool.not_eq_true, Bool.or_eq_true, payableWord_occursIn_iff, readOnlyWord_occursIn_iff]
    simp only [List.mem_cons, List.not_mem_nil, or_false, forall_eq_or_imp, forall_eq, not_or]
    exact Iff.rfl
  rw [Line.LacksPayable, hheader, hwords]
  unfold missingPayable
  cases functionHeader.search? here.code with
  | none => exact .inl ⟨rfl, by simp⟩
  | some found =>
    cases payableWord.occursIn here.code || readOnlyWord.occursIn here.code with
    | true => exact .inl ⟨rfl, by simp⟩
    | false => exact .inr ⟨_, rfl, rfl, rfl⟩

end Check

-- ---------------------------------------------------------------------------
-- Findings
-- ---------------------------------------------------------------------------

theorem rulesOutcome_missingPayable (scope : Scope) (here : Context) (names : Names) :
    (rulesOutcome scope here
      ((Rules.only [Code.missingPayable.switch]).active LineCheck.all) names).marks =
        if scope.movesValue then Check.missingPayable here else [] :=
  List.append_nil _

/-- A document moves value exactly if one of its lines does. With a cap that cuts nothing, a line
has a finding then exactly if it has a function header without `payable`, `view` and `pure`, and
never two. -/
theorem analyze_payable_exact (text : List Char) (options : Options) (session : Session)
    (hstart : Session.start text options.rules options.cap options.naming options.fits =
      .ok session) :
    (session.scope.movesValue = true ↔ ∃ line ∈ session.document.lines, line.MovesValue) ∧
    (options.IsAmple text → options.rules.enabled .missingPayable = true →
      ∃ found, analyze text options = .ok found ∧
        ∀ (row : Nat) (line : Line), session.document.lines[row]? = some line →
          let there := found.filter fun finding =>
            finding.code = .missingPayable ∧ finding.range.start.line = (row : Int)
          (there ≠ [] ↔
            (∃ other ∈ session.document.lines, other.MovesValue) ∧ line.LacksPayable) ∧
          there.length ≤ 1) := by
  obtain ⟨patterns, hpatterns, rfl⟩ := Session.exists_fresh_of_start hstart
  refine ⟨Document.movesValue_iff_lines text, fun hample hon => ?_⟩
  have hfound : analyze text options = .ok (options.allFindings lineRules text patterns) := by
    rw [hample.analyze_eq, Options.patterns, hpatterns]
    rfl
  refine ⟨_, hfound, ?_⟩
  intro row line hline there
  obtain ⟨hlt, hline⟩ := List.getElem?_eq_some_iff.mp hline
  obtain ⟨here, hhere, hline', -⟩ := Context.exists_each_getElem? hlt
  obtain rfl : here.line = line := hline'.trans hline
  obtain ⟨known, hthere⟩ :=
    options.exists_findings_of_code_on_line .missingPayable hhere rfl rfl hon patterns
  rw [rulesOutcome_missingPayable] at hthere
  change (there ≠ [] ↔ (∃ other ∈ splitLines text, other.MovesValue) ∧ _) ∧ _
  rw [← Document.movesValue_iff_lines, show there = _ from hthere]
  cases (Document.ofText text).movesValue with
  | false => simp [firstOfEach]
  | true =>
    -- There is one mark at most, so that none is left out as reported before.
    rcases Check.missingPayable_cases here with ⟨hnone, hlacks⟩ | ⟨mark, hmark, hlacks⟩
    · simp [hnone, hlacks, firstOfEach]
    · simp [hmark, hlacks, firstOfEach]

/-- A comment hides a word on the first line, and a carriage return does not part the call on the
second one. In the other text a line end does. -/
theorem analyze_payable_exact_across_returns :
    let text := "function f() public // view\r\nx.Call\x7b\rVALUE\r\nFUNCTION g() Pure".toList
    let broken := "function f() \x7b\nx.call\x7b\r\nvalue".toList
    let options : Options := { rules := .only [.missingPayable] }
    let finding : Finding := ⟨"Function that handles ETH should have 'payable' modifier.",
      .missingPayable, .warning, ⟨⟨0, 0⟩, ⟨0, 20⟩⟩⟩
    options.IsAmple text ∧ analyze text options = .ok [finding] ∧
      (∃ line ∈ splitLines text, line.MovesValue) ∧
      Line.LacksPayable "function f() public // view".toList ∧
      ¬Line.LacksPayable "FUNCTION g() Pure".toList ∧
      ¬∃ line ∈ splitLines broken, line.MovesValue := by
  intro text broken options finding
  have hfound : analyze text options = .ok [finding] := eq_ok_of_toOption (by decide +kernel)
  have hample : options.IsAmple text := Options.isAmple_of_not_reached (by rw [hfound]; rfl)
  obtain ⟨hmoves, hfindings⟩ := analyze_payable_exact text options
    (.fresh text options.rules options.cap none) rfl
  obtain ⟨hstill, -⟩ := analyze_payable_exact broken options
    (.fresh broken options.rules options.cap none) rfl
  obtain ⟨found, hfound', hexact⟩ := hfindings hample rfl
  cases hfound.symm.trans hfound'
  have hcalls : ∃ line ∈ splitLines text, line.MovesValue := hmoves.mp (by decide +kernel)
  obtain ⟨hfirst, -⟩ := hexact 0 "function f() public // view".toList (by decide +kernel)
  obtain ⟨hlast, -⟩ := hexact 2 "FUNCTION g() Pure".toList (by decide +kernel)
  refine ⟨hample, hfound, hcalls, ?_, fun hlacks => ?_, fun hcalls => ?_⟩
  · exact (hfirst.mp (by decide)).2
  · exact hlast.mpr ⟨hcalls, hlacks⟩ rfl
  · exact absurd (hstill.mpr hcalls) (by decide +kernel)

end SolidityLint
