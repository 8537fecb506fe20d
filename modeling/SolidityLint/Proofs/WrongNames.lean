import SolidityLint.Proofs.Highlights
import SolidityLint.Proofs.NamePlaces
import SolidityLint.Proofs.OncePerLine

/-!
# Wrong names

A line has at most one finding of each code for names. A finding that quotes a name shows this name,
as a whole word in which the pattern of its kind finds nothing. One that quotes no name shows a
character that no name starts with, or a name with more behind it (`WrongName`,
`analyze_wrong_names`).
-/

namespace SolidityLint

open Text

-- ---------------------------------------------------------------------------
-- What is said of names
-- ---------------------------------------------------------------------------

def NameKind.message (kind : NameKind) : Option (List Char) → String
  | none => "Invalid " ++ kind.label ++ " identifier."
  | some name => "Invalid " ++ kind.label ++ " identifier '" ++ String.ofList name ++ "'."

theorem NameKind.message_inj {kind : NameKind} {one other : Option (List Char)} :
    kind.message one = kind.message other ↔ one = other := by
  refine ⟨fun h => ?_, congrArg _⟩
  replace h := congrArg String.toList h
  cases one with
  | none =>
    cases other with
    | none => rfl
    | some name => simp [message] at h
  | some name =>
    cases other with
    | none => simp [message] at h
    | some name' => simpa [message] using h

/-- What is wrong with what is shown between `front` and `back`, and whether it is quoted: the place
of the name starts with a character that no name starts with, or is blank up to its end, or has more
than a name, or the pattern does not match the name. -/
inductive WrongName (kind : NameKind) (pattern : Expression) (front : List Char) :
    List Char → List Char → Option (List Char) → Prop
  | start {c : Char} {between after : List Char} :
      startsName c = false → isBlank c = false → kind.EndsAt (c :: between) after →
      WrongName kind pattern front [c] (between ++ after) none
  | missing {c : Char} {back : List Char} :
      startsName c = false → kind.Ends (c :: back) → WrongName kind pattern front [c] back none
  | followed {name between after : List Char} :
      isName name = true → front.getLast?.any isWordChar = false →
      between.head?.any continuesName = false → (∃ c ∈ between, isBlank c = false) →
      kind.EndsAt between after → WrongName kind pattern front name (between ++ after) none
  | unmatched {name back : List Char} :
      isName name = true → IsWholeWord name (front ++ name ++ back) front back →
      pattern.search name = .ok none → WrongName kind pattern front name back (some name)

section
variable {kind : NameKind} {pattern : Expression} {code front field after shown back : List Char}
  {quoted : Option (List Char)} {marks : List Mark} {mark : Mark}

theorem WrongName.shown_ne_nil (h : WrongName kind pattern front shown back quoted) :
    shown ≠ [] := by
  cases h with
  | start | missing => exact List.cons_ne_nil _ _
  | followed hname | unmatched hname =>
    rintro rfl
    cases hname

/-- Without a name, the first character of the place is shown, or the end of a blank place. -/
theorem WrongName.of_nameless {gap text : List Char}
    (h : NamePlace kind code front (gap ++ text) after) (hn : leadingName text = [])
    (hblank : ∀ c ∈ text.head?, isBlank c = false) (hfollows : text = [] → after ≠ []) :
    ∃ c back, code = front ++ gap ++ [c] ++ back ∧
      WrongName kind pattern (front ++ gap) [c] back none := by
  have hcode : code = front ++ gap ++ (text ++ after) := by
    rw [h.code_eq]
    simp
  cases text with
  | cons c text =>
    refine ⟨c, text ++ after, by simpa using hcode, ?_⟩
    exact .start (startsName_of_leadingName hn) (hblank c rfl) h.endsAt.of_append
  | nil =>
    obtain ⟨c, behind, rfl⟩ := List.exists_cons_of_ne_nil (hfollows rfl)
    refine ⟨c, behind, by simpa using hcode, .missing ?_ h.endsAt.ends⟩
    refine Bool.eq_false_iff.mpr fun hc => ?_
    exact Bool.eq_false_iff.mp h.endsAt.ends.not_isWordChar
      (isWordChar_of_continuesName (continuesName_of_startsName hc))

theorem WrongName.of_followed {gap name rest : List Char}
    (h : NamePlace kind code front (gap ++ (name ++ rest)) after)
    (hgap : ∀ x ∈ gap, isBlank x = true) (hname : isName name = true)
    (hstops : rest.head?.any continuesName = false) (hmore : trim rest ≠ []) :
    WrongName kind pattern (front ++ gap) name (rest ++ after) none := by
  have hshown : ∃ c ∈ rest, isBlank c = false := by
    by_contra hall
    refine hmore (trim_eq_nil_iff.mpr fun x hx => ?_)
    by_contra hx'
    exact hall ⟨x, hx, Bool.eq_false_iff.mpr hx'⟩
  have hends := h.endsAt
  rw [← List.append_assoc] at hends
  exact .followed hname (h.not_isWordChar hgap hname) hstops hshown hends.of_append

theorem Check.wrongName_of_nameMarks (hplace : NamePlace kind code front field after)
    (hm : nameMarks front.length field pattern kind.code kind.label = .ok marks)
    (h : mark ∈ marks) :
    ∃ before shown back quoted, code = before ++ shown ++ back ∧
      mark = ⟨⟨before.length, before.length + shown.length⟩, kind.message quoted, kind.code⟩ ∧
      WrongName kind pattern before shown back quoted := by
  obtain ⟨gap, hgap, hfield⟩ := exists_append_trimStart field
  have hblank : ∀ c ∈ (trimStart field).head?, isBlank c = false := by
    intro c hc
    obtain ⟨rest, hrest⟩ := List.head?_eq_some_iff.mp hc
    exact isBlank_of_trimStart_eq hrest
  have hfollows := hplace.follows
  have hcases := nameMarks_ok hm
  -- From here on the field is its blanks and the text that is left of it.
  generalize trimStart field = text at hfield hblank hfollows hcases
  subst hfield
  obtain ⟨rest, hrest⟩ := leadingName_prefix_self text
  have hdrop : text.drop (leadingName text).length = rest :=
    (congrArg (List.drop _) hrest.symm).trans List.drop_left
  have hfirst : front.length + ((gap ++ text).length - text.length) = (front ++ gap).length := by
    simp
  simp only [hfirst, hdrop] at hcases
  have hparts : gap ++ text = gap ++ (leadingName text ++ rest) := congrArg (gap ++ ·) hrest.symm
  have hnamed := hplace
  rw [hparts] at hnamed
  have hcode : code = front ++ gap ++ leadingName text ++ (rest ++ after) := by
    rw [hnamed.code_eq]
    simp
  rcases hcases with ⟨hn, rfl⟩ | ⟨hn, hmore, rfl⟩ | ⟨-, -, -, rfl⟩ | ⟨hn, hmore, hs, rfl⟩
  · cases List.mem_singleton.mp h
    obtain ⟨c, back, hcode, hwrong⟩ := WrongName.of_nameless hplace hn hblank hfollows
    exact ⟨_, [c], back, none, hcode, rfl, hwrong⟩
  · cases List.mem_singleton.mp h
    exact ⟨_, _, _, none, hcode, rfl,
      .of_followed hnamed hgap (isName_leadingName hn) (leadingName_stops hrest hn) hmore⟩
  · cases h
  · cases List.mem_singleton.mp h
    have hname := isName_leadingName hn
    exact ⟨_, _, _, some _, hcode, rfl,
      .unmatched hname (hnamed.isWholeWord hgap hname (trim_eq_nil_iff.mp hmore)) hs⟩

end

-- ---------------------------------------------------------------------------
-- One finding on a line
-- ---------------------------------------------------------------------------

def NameKind.check : NameKind → LineCheck
  | .functionName => .functionNaming
  | .variableName | .constantName => .variableNaming
  | .contractName => .contractNaming

theorem LineCheck.eq_check_of_code {check : LineCheck} {kind : NameKind}
    (h : check.code = kind.code) : check = kind.check := by
  cases kind <;> cases check <;> cases h <;> rfl

theorem Check.eq_singleton_of_nameMarks {offset : Nat} {segment : List Char} {pattern : Expression}
    {code : Code} {label : String} {marks : List Mark} {mark : Mark}
    (hm : nameMarks offset segment pattern code label = .ok marks) (h : mark ∈ marks) :
    marks = [mark] := by
  rcases nameMarks_ok hm with ⟨-, rfl⟩ | ⟨-, -, rfl⟩ | ⟨-, -, -, rfl⟩ | ⟨-, -, -, rfl⟩
  · rw [List.mem_singleton.mp h]
  · rw [List.mem_singleton.mp h]
  · cases h
  · rw [List.mem_singleton.mp h]

theorem hasOnePlace_name (kind : NameKind) (scope : Scope) : kind.code.HasOnePlace scope := by
  intro here check other names known mark hm next hn hc hc'
  obtain rfl := LineCheck.eq_check_of_code
    ((check.outcome_code scope names here mark hm).symm.trans hc)
  obtain rfl := LineCheck.eq_check_of_code
    ((other.outcome_code scope known here next hn).symm.trans hc')
  -- Names have no part in what is marked, so both marks are in one list, which has no second mark.
  have hswitch : kind.check.switch ≠ .missingDataType := by cases kind <;> decide
  rw [LineCheck.outcome_eq_of_switch_ne hswitch scope known names here] at hn
  obtain ⟨looked, hlooked⟩ : ∃ looked, kind.check.nameKind? here.line = some looked := by
    cases kind <;> exact ⟨_, rfl⟩
  obtain ⟨pattern, front, field, after, -, -, hmarks⟩ :=
    LineCheck.exists_namePlace_of_mem hlooked hm
  rw [Check.eq_singleton_of_nameMarks hmarks hm] at hn
  rw [List.mem_singleton.mp hn]

-- ---------------------------------------------------------------------------
-- Whole runs
-- ---------------------------------------------------------------------------

theorem Naming.exists_written_of_read? {fits : List Char → Bool} {naming : Option Naming}
    {patterns : Option NamePatterns} {kind : NameKind} {pattern : Expression}
    (hp : naming.mapM (Naming.patterns fits) = .ok patterns)
    (hread : patterns.bind (·.read? kind) = some pattern) :
    ∃ asked, naming = some asked ∧
      namingPattern? fits (asked.written kind) = .ok (some pattern) := by
  obtain ⟨read, rfl, hread⟩ := Option.bind_eq_some_iff.mp hread
  cases naming with
  | none => cases hp
  | some asked =>
    rw [mapM_patterns_some] at hp
    cases hasked : asked.patterns fits with
    | error fault =>
      rw [hasked] at hp
      cases hp
    | ok other =>
      rw [hasked] at hp
      cases hp
      exact ⟨asked, rfl, (namingPattern?_written hasked kind).trans (congrArg Except.ok hread)⟩

theorem analyze_wrong_names (text : List Char) (options : Options) (found : List Finding)
    (h : analyze text options = .ok found) :
    (∀ (kind : NameKind) (row : Int), (found.filter fun finding =>
      finding.code = kind.code ∧ finding.range.start.line = row).length ≤ 1) ∧
    ∀ finding ∈ found, ∀ kind, finding.nameKind? (splitLines text) = some kind →
      ∃ naming pattern, options.naming = some naming ∧
        namingPattern? options.fits (naming.written kind) = .ok (some pattern) ∧
        ∃ (row : Nat) (line : Line) (front shown back : List Char) (quoted : Option (List Char)),
          (splitLines text)[row]? = some line ∧ line.code = front ++ shown ++ back ∧
          finding.range = ⟨⟨row, front.length⟩, ⟨row, front.length + shown.length⟩⟩ ∧
          finding.highlighted? (splitLines text) = some shown ∧
          (∀ name, finding.message = kind.message name ↔ name = quoted) ∧
          WrongName kind pattern front shown back quoted := by
  constructor
  · intro kind
    exact length_findings_on_line_le_one (by cases kind <;> decide) (by cases kind <;> decide)
      (hasOnePlace_name kind) h
  · intro finding hf kind hkind
    obtain ⟨patterns, hp, rfl⟩ := analyze_ok_iff.mp h
    obtain ⟨row, here, check, known, mark, hline, hcheck, hm, rfl⟩ :=
      Options.exists_mark_of_nameKind? (List.mem_of_mem_take hf) hkind
    obtain ⟨pattern, front, field, after, hread, hplace, hmarks⟩ :=
      LineCheck.exists_namePlace_of_mem hcheck hm
    obtain ⟨front, shown, back, quoted, hcode, rfl, hwrong⟩ :=
      Check.wrongName_of_nameMarks hplace hmarks hm
    obtain ⟨naming, hnaming, hwritten⟩ := Naming.exists_written_of_read? hp hread
    refine ⟨naming, pattern, hnaming, hwritten, row, here.line, front, shown, back, quoted, hline,
      hcode, rfl, ?_, fun name => NameKind.message_inj.trans eq_comm, hwrong⟩
    have honCode : Mark.OnCode
        ⟨⟨front.length, front.length + shown.length⟩, kind.message quoted, kind.code⟩ here := by
      have hpos := List.length_pos_iff.mpr hwrong.shown_ne_nil
      exact ⟨Nat.lt_add_of_pos_right hpos, by simp [hcode]⟩
    have hstands : StandsAt shown front.length here.code :=
      ⟨back, by rw [hcode, List.append_assoc, List.drop_left]⟩
    obtain ⟨hlt, -⟩ := List.getElem?_eq_some_iff.mp hline
    rw [honCode.highlighted?_of_line (position?_of_lt hlt) hline]
    exact congrArg some hstands.slice_eq

/-- The first name stands behind a mapping type and is quoted, the second has more behind it, and
the contract has no name. -/
theorem analyze_wrong_names_of_three_sorts :
    let text := "mapping(address => uint) Total ;\nuint a b;\ncontract  is B \x7b".toList
    let options : Options :=
      { rules := .only [.variableNaming, .contractNaming], naming := some .default }
    ∃ found, analyze text options = .ok found ∧
      found.map (fun finding => (finding.message, finding.highlighted? (splitLines text))) =
        [("Invalid variable identifier 'Total'.", some "Total".toList),
          ("Invalid variable identifier.", some ['a']),
          ("Invalid contract/interface/library identifier.", some [' '])] ∧
      ∀ finding ∈ found, ∀ kind, finding.nameKind? (splitLines text) = some kind →
        ∃ pattern front shown back quoted,
          namingPattern? fitsUsually (Naming.default.written kind) = .ok (some pattern) ∧
          finding.highlighted? (splitLines text) = some shown ∧
          WrongName kind pattern front shown back quoted := by
  intro text options
  have hshown : (analyze text options).toOption.map (·.map fun finding =>
      (finding.message, finding.highlighted? (splitLines text))) =
        some [("Invalid variable identifier 'Total'.", some "Total".toList),
          ("Invalid variable identifier.", some ['a']),
          ("Invalid contract/interface/library identifier.", some [' '])] := by decide +kernel
  obtain ⟨found, hfound⟩ := exists_of_isOk (show (analyze text options).isOk = true by
    decide +kernel)
  rw [hfound] at hshown
  refine ⟨found, hfound, Option.some.inj hshown, fun finding hf kind hkind => ?_⟩
  obtain ⟨naming, pattern, hnaming, hread, -, -, front, shown, back, quoted, -, -, -, hhighlighted,
    -, hwrong⟩ := (analyze_wrong_names text options found hfound).2 finding hf kind hkind
  cases hnaming
  exact ⟨pattern, front, shown, back, quoted, hread, hhighlighted, hwrong⟩

end SolidityLint
