import SolidityLint.Proofs.Locality

/-!
# What the security checks report

A hazard is a word with something around it, in letters of any case (`Hazard.Written`). A security
check finds a hazard wherever there is one (`Hazard.place?_ne_none`), and marks the word of the
leftmost one (`Hazard.isFirst_of_place?`). So a line has a finding of one of the four codes exactly
if its code has such a hazard, and never two of one code (`analyze_hazards_exact`).
-/

namespace SolidityLint

open Pattern

/-- What the security checks look for. Values are sent with a call in two ways. -/
inductive Hazard
  | origin
  | destruction
  | delegation
  | valueCall
  | oldValueCall
  deriving DecidableEq, Repr

namespace Hazard

-- ---------------------------------------------------------------------------
-- Hazards in a text
-- ---------------------------------------------------------------------------

def code : Hazard → Code
  | .origin => .txOrigin
  | .destruction => .selfdestruct
  | .delegation => .delegatecall
  | .valueCall | .oldValueCall => .lowLevelCallValue

def lead : Hazard → List Char
  | .origin | .destruction => []
  | .delegation | .valueCall | .oldValueCall => ['.']

def Opens (text : List Char) : Prop :=
  ∃ gap, text = gap ++ ['('] ∧ ∀ x ∈ gap, Text.isBlank x = true

/-- A call with a value in braces, from behind the dot up to the colon. -/
def PassesValue (text : List Char) : Prop :=
  ∃ call first second value third,
    text = call ++ first ++ '{' :: second ++ value ++ third ++ [':'] ∧
      SameLetters call "call".toList ∧ SameLetters value "value".toList ∧
        ∀ x ∈ first ++ second ++ third, Text.isBlank x = true

/-- The marked part of a hazard, and what has to follow it. -/
inductive Written : Hazard → List Char → List Char → Prop
  | origin {marked : List Char} (letters : SameLetters marked "tx.origin".toList) :
      Written .origin marked []
  | destruction {marked rest : List Char}
      (letters : SameLetters marked "selfdestruct".toList ∨ SameLetters marked "suicide".toList)
      (opens : Opens rest) : Written .destruction marked rest
  | delegation {marked rest : List Char} (letters : SameLetters marked "delegatecall".toList)
      (opens : Opens rest) : Written .delegation marked rest
  | valueCall {marked rest : List Char} (passes : PassesValue (marked ++ rest))
      (width : marked.length = "call\x7bvalue:".length) : Written .valueCall marked rest
  | oldValueCall {marked rest : List Char} (letters : SameLetters marked "call.value".toList)
      (opens : Opens rest) : Written .oldValueCall marked rest

/-- A hazard stands in a text; `span` is its marked part. -/
def OccursAt (hazard : Hazard) (text : List Char) (span : Span) : Prop :=
  ∃ front marked rest back, text = front ++ (hazard.lead ++ marked ++ rest) ++ back ∧
    hazard.Written marked rest ∧
      span = ⟨front.length + hazard.lead.length,
        front.length + hazard.lead.length + marked.length⟩

structure IsFirst (hazard : Hazard) (text : List Char) (span : Span) : Prop where
  occurs : hazard.OccursAt text span
  first : ∀ other, hazard.OccursAt text other → span.start ≤ other.start

variable {hazard : Hazard} {text word marked rest : List Char} {span : Span} {found : Match}

-- ---------------------------------------------------------------------------
-- Hazards as words of patterns
-- ---------------------------------------------------------------------------

def pattern : Hazard → Pattern
  | .origin => Check.originAccess
  | .destruction => Check.destruction
  | .delegation => Check.delegation
  | .valueCall => Check.callWithValue
  | .oldValueCall => Check.legacyCallWithValue

theorem sameLetters_dot {letters : List Char} :
    SameLetters word ('.' :: letters) ↔
      ∃ later, word = '.' :: later ∧ SameLetters later letters := by
  constructor
  · intro h
    cases h with
    | @cons x _ later _ hfirst hlater =>
      have hdot : x.toNat = '.'.toNat := Text.eq_of_foldCode_eq (by decide) (by decide) hfirst
      exact ⟨later, congrArg (· :: later) (Char.toNat_inj.mp hdot), hlater⟩
  · rintro ⟨later, rfl, h⟩
    exact .cons rfl h

theorem spells_blanks_char {c : Char} {ps : List Pattern} :
    (all (blanks :: char c :: ps)).Spells word ↔
      ∃ gap rest, word = gap ++ c :: rest ∧ (∀ x ∈ gap, Text.isBlank x = true) ∧
        (all ps).Spells rest := by
  simp only [spells_all_cons, spells_char, spells_blanks]
  constructor
  · rintro ⟨gap, _, hgap, ⟨_, rest, rfl, hrest, rfl⟩, rfl⟩
    exact ⟨gap, rest, rfl, hgap, hrest⟩
  · rintro ⟨gap, rest, rfl, hgap, hrest⟩
    exact ⟨gap, c :: rest, hgap, ⟨[c], rest, rfl, hrest, rfl⟩, rfl⟩

theorem spells_opens : (all [blanks, char '(']).Spells word ↔ Opens word := by
  simp only [spells_blanks_char, spells_all_nil, Opens]
  constructor
  · rintro ⟨gap, _, rfl, hgap, rfl⟩
    exact ⟨gap, rfl, hgap⟩
  · rintro ⟨gap, rfl, hgap⟩
    exact ⟨gap, [], rfl, hgap, rfl⟩

theorem spells_dot_opens {dotted : String} (letters : String)
    (hd : dotted.toList = '.' :: letters.toList) :
    (all [caseless dotted, blanks, char '(']).Spells word ↔
      ∃ marked rest, word = ['.'] ++ marked ++ rest ∧ SameLetters marked letters.toList ∧
        Opens rest := by
  rw [spells_all_cons]
  simp only [spells_caseless, hd, sameLetters_dot, spells_opens]
  constructor
  · rintro ⟨_, rest, ⟨marked, rfl, hmarked⟩, hrest, rfl⟩
    exact ⟨marked, rest, rfl, hmarked, hrest⟩
  · rintro ⟨marked, rest, rfl, hmarked, hrest⟩
    exact ⟨'.' :: marked, rest, ⟨marked, rfl, hmarked⟩, hrest, rfl⟩

theorem spells_callWithValue :
    Check.callWithValue.Spells word ↔
      ∃ call gap, word = ['.'] ++ call ++ gap ∧ PassesValue call ∧
        ∀ x ∈ gap, Text.isBlank x = true := by
  have hdot : ".call".toList = '.' :: "call".toList := by decide
  unfold Check.callWithValue
  constructor
  · intro h
    obtain ⟨_, behind, hword, hbehind, rfl⟩ := spells_all_cons.mp h
    obtain ⟨call, rfl, hcall⟩ := sameLetters_dot.mp (hdot ▸ spells_caseless.mp hword)
    obtain ⟨first, inside, rfl, hfirst, hinside⟩ := spells_blanks_char.mp hbehind
    obtain ⟨second, named, hsecond, hnamed, rfl⟩ := spells_all_cons.mp hinside
    obtain ⟨value, last, hvalue, hlast, rfl⟩ := spells_all_cons.mp hnamed
    obtain ⟨third, gap, rfl, hthird, hgap⟩ := spells_blanks_char.mp hlast
    refine ⟨call ++ first ++ '{' :: second ++ value ++ third ++ [':'], gap, by simp,
      ⟨call, first, second, value, third, rfl, hcall, spells_caseless.mp hvalue, ?_⟩,
      spells_blanks.mp hgap⟩
    simp only [List.forall_mem_append]
    exact ⟨⟨hfirst, spells_blanks.mp hsecond⟩, hthird⟩
  · rintro ⟨_, gap, rfl, ⟨call, first, second, value, third, rfl, hcall, hvalue, hblank⟩, hgap⟩
    simp only [List.forall_mem_append] at hblank
    obtain ⟨⟨hfirst, hsecond⟩, hthird⟩ := hblank
    have hlast : (all [blanks, char ':', blanks]).Spells (third ++ ':' :: gap) :=
      spells_blanks_char.mpr ⟨third, gap, rfl, hthird, spells_blanks.mpr hgap⟩
    have hnamed := spells_all_cons.mpr ⟨value, _, spells_caseless.mpr hvalue, hlast, rfl⟩
    have hinside := spells_all_cons.mpr ⟨second, _, spells_blanks.mpr hsecond, hnamed, rfl⟩
    refine spells_all_cons.mpr ⟨'.' :: call, _, spells_caseless.mpr ?_,
      spells_blanks_char.mpr ⟨first, _, rfl, hfirst, hinside⟩, by simp⟩
    rw [hdot]
    exact sameLetters_dot.mpr ⟨call, rfl, hcall⟩

theorem passesValue_width (h : PassesValue text) : "call\x7bvalue:".length ≤ text.length := by
  obtain ⟨call, first, second, value, third, rfl, hcall, hvalue, -⟩ := h
  have hl : call.length = 4 := List.Forall₂.length_eq hcall
  have hl' : value.length = 5 := List.Forall₂.length_eq hvalue
  have hwidth : "call\x7bvalue:".length = 11 := by decide
  simp only [List.length_append, List.length_cons, List.length_nil]
  omega

theorem spells_destruction :
    (caselessAny ["selfdestruct", "suicide"]).Spells word ↔
      SameLetters word "selfdestruct".toList ∨ SameLetters word "suicide".toList := by
  rw [spells_caselessAny]
  simp only [List.mem_cons, List.not_mem_nil, or_false, exists_eq_or_imp, exists_eq_left]

theorem spells_of_written (h : hazard.Written marked rest) (hd : hazard ≠ .destruction) :
    hazard.pattern.Spells (hazard.lead ++ marked ++ rest) := by
  cases h with
  | origin letters =>
    rw [List.append_nil]
    exact spells_caseless.mpr letters
  | destruction => exact absurd rfl hd
  | delegation letters opens =>
    exact (spells_dot_opens "delegatecall" (by decide)).mpr ⟨marked, rest, rfl, letters, opens⟩
  | valueCall passes width =>
    exact spells_callWithValue.mpr ⟨marked ++ rest, [], by simp [lead], passes, by simp⟩
  | oldValueCall letters opens =>
    exact (spells_dot_opens "call.value" (by decide)).mpr ⟨marked, rest, rfl, letters, opens⟩

def spanOf? (found : Match) : Hazard → Option Span
  | .origin => some found.span
  | .destruction => found.group? 1
  | .delegation => some (Check.behindDot found "delegatecall".length)
  | .valueCall => some (Check.callValueMark found "call\x7bvalue:".length).span
  | .oldValueCall => some (Check.callValueMark found "call.value".length).span

theorem callValueMark_span {start length width : Nat} (h : found.span = ⟨start, start + length⟩)
    (hw : 1 + width ≤ length) :
    (Check.callValueMark found width).span = ⟨start + 1, start + 1 + width⟩ := by
  simp only [Check.callValueMark, Check.behindDot, h, Span.mk.injEq, true_and]
  omega

theorem written_of_spells {start : Nat} (h : hazard.pattern.Spells word)
    (hd : hazard ≠ .destruction) (hspan : found.span = ⟨start, start + word.length⟩) :
    ∃ marked rest more, word = hazard.lead ++ marked ++ rest ++ more ∧
      hazard.Written marked rest ∧ hazard.spanOf? found =
        some ⟨start + hazard.lead.length, start + hazard.lead.length + marked.length⟩ := by
  cases hazard with
  | origin =>
    exact ⟨word, [], [], by simp [lead], .origin (spells_caseless.mp h), congrArg some hspan⟩
  | destruction => exact absurd rfl hd
  | delegation =>
    obtain ⟨marked, rest, rfl, letters, opens⟩ :=
      (spells_dot_opens "delegatecall" (by decide)).mp h
    have hwidth : marked.length = "delegatecall".length := List.Forall₂.length_eq letters
    refine ⟨marked, rest, [], (List.append_nil _).symm, .delegation letters opens, ?_⟩
    rw [spanOf?, Check.behindDot, hspan, ← hwidth]
    rfl
  | valueCall =>
    obtain ⟨call, gap, rfl, hcall, -⟩ := spells_callWithValue.mp h
    have hwidth := passesValue_width hcall
    have hmarked : (call.take "call\x7bvalue:".length).length = "call\x7bvalue:".length := by
      rw [List.length_take, Nat.min_eq_left hwidth]
    refine ⟨call.take "call\x7bvalue:".length, call.drop "call\x7bvalue:".length, gap, ?_,
      .valueCall ?_ hmarked, ?_⟩
    · rw [List.append_assoc _ _ (call.drop _), List.take_append_drop]
      rfl
    · rwa [List.take_append_drop]
    · rw [hmarked]
      refine congrArg some (callValueMark_span hspan ?_)
      simp only [List.length_append, List.length_singleton]
      omega
  | oldValueCall =>
    obtain ⟨marked, rest, rfl, letters, opens⟩ := (spells_dot_opens "call.value" (by decide)).mp h
    have hwidth : marked.length = "call.value".length := List.Forall₂.length_eq letters
    refine ⟨marked, rest, [], (List.append_nil _).symm, .oldValueCall letters opens, ?_⟩
    rw [hwidth]
    refine congrArg some (callValueMark_span hspan ?_)
    simp only [List.length_append, List.length_singleton]
    omega

-- ---------------------------------------------------------------------------
-- The leftmost hazard
-- ---------------------------------------------------------------------------

theorem isRegular_pattern (h : hazard ≠ .destruction) : hazard.pattern.isRegular = true := by
  cases hazard with
  | destruction => exact absurd rfl h
  | _ => decide

/-- Where there is a hazard, there is a match, and none that starts behind it. -/
theorem exists_search?_le (h : hazard.Written marked rest) (front back : List Char) :
    ∃ found,
      hazard.pattern.search? (front ++ (hazard.lead ++ marked ++ rest) ++ back) = some found ∧
        found.span.start ≤ front.length := by
  by_cases hd : hazard = .destruction
  · cases h with
    | destruction letters opens =>
      rw [← spells_destruction] at letters
      rw [← spells_opens] at opens
      have htext : front ++ (destruction.lead ++ marked ++ rest) ++ back =
          front ++ (marked ++ (rest ++ back)) := by
        simp [lead]
      rw [htext]
      refine exists_search?_of_matchAt? (.of_append front _) ?_
      exact matchAt?_group_isSome ⟨by decide, by decide⟩ ⟨by decide, by decide⟩
        (takes_of_spells (by decide) letters _ _ _) (takes_of_spells (by decide) opens _ _ _)
    | _ => cases hd
  · exact exists_search?_of_spells (isRegular_pattern hd) (spells_of_written h hd) rfl

theorem exists_written_of_search? (h : hazard.pattern.search? text = some found) :
    ∃ front marked rest back, text = front ++ (hazard.lead ++ marked ++ rest) ++ back ∧
      hazard.Written marked rest ∧ found.span.start = front.length ∧ hazard.spanOf? found =
        some ⟨front.length + hazard.lead.length,
          front.length + hazard.lead.length + marked.length⟩ := by
  by_cases hd : hazard = .destruction
  · subst hd
    obtain ⟨a, ha, hm⟩ := foundIn_of_search? h
    obtain ⟨b, c, d, rfl, hc, ⟨_, rfl, hrest⟩, hgroup⟩ := parts_of_matchAt? rfl hm
    obtain ⟨marked, hmarked, hr⟩ := (takes_iff_spells (by decide)).mp hc
    obtain ⟨rest, hrest, hr'⟩ := (takes_iff_spells (by decide)).mp hrest
    rw [spells_destruction] at hmarked
    rw [spells_opens] at hrest
    refine ⟨b.before.reverse, marked, rest, d.after, ?_, .destruction hmarked hrest, ?_, ?_⟩
    · have hafter : b.after = marked ++ (rest ++ d.after) := by rw [hr.after, hr'.after]
      rw [← ha.text, Place.text, hafter]
      simp [lead]
    · rw [matchAt?_start hm, ha.pos, List.length_reverse]
    · rw [spanOf?, hgroup, hr.pos, ha.pos, List.length_reverse]
      rfl
  · obtain ⟨front, word, back, rfl, hs, hspan⟩ := exists_spells_of_search? (isRegular_pattern hd) h
    obtain ⟨marked, rest, more, rfl, hwritten, hmark⟩ := written_of_spells hs hd hspan
    exact ⟨front, marked, rest, more ++ back, by simp, hwritten, by rw [hspan], hmark⟩

def place? (hazard : Hazard) (text : List Char) : Option Span :=
  (hazard.pattern.search? text).bind hazard.spanOf?

theorem isFirst_of_place? (h : hazard.place? text = some span) : hazard.IsFirst text span := by
  obtain ⟨found, hfound, hspan⟩ := Option.bind_eq_some_iff.mp h
  obtain ⟨front, marked, rest, back, rfl, hwritten, hstart, hmark⟩ :=
    exists_written_of_search? hfound
  cases hspan.symm.trans hmark
  refine ⟨⟨front, marked, rest, back, rfl, hwritten, rfl⟩, ?_⟩
  rintro other ⟨front', marked', rest', back', he, hwritten', rfl⟩
  obtain ⟨found', hfound', hle⟩ := exists_search?_le hwritten' front' back'
  rw [← he, hfound] at hfound'
  cases hfound'
  rw [hstart] at hle
  exact Nat.add_le_add_right hle _

theorem place?_ne_none (h : hazard.OccursAt text span) : hazard.place? text ≠ none := by
  obtain ⟨front, marked, rest, back, rfl, hwritten, -⟩ := h
  obtain ⟨found, hfound, -⟩ := exists_search?_le hwritten front back
  obtain ⟨_, _, _, _, _, _, _, hmark⟩ := exists_written_of_search? hfound
  rw [place?, hfound, Option.bind_some, hmark]
  exact Option.some_ne_none _

end Hazard

-- ---------------------------------------------------------------------------
-- Findings
-- ---------------------------------------------------------------------------

def hazardCodes : List Code := [.txOrigin, .selfdestruct, .delegatecall, .lowLevelCallValue]

def Code.hazards : Code → List Hazard
  | .txOrigin => [.origin]
  | .selfdestruct => [.destruction]
  | .delegatecall => [.delegation]
  | .lowLevelCallValue => [.valueCall, .oldValueCall]
  | _ => []

theorem Code.mem_hazards_iff {code : Code} {hazard : Hazard} :
    hazard ∈ code.hazards ↔ hazard.code = code := by
  cases code <;> cases hazard <;> decide

/-- The first place of the hazards of a code is that of a leftmost hazard, unless there is none. -/
theorem Code.place_cases (code : Code) (text : List Char) :
    (code.hazards.findSome? (·.place? text) = none ∧
      ∀ hazard : Hazard, hazard.code = code → ∀ span, ¬hazard.OccursAt text span) ∨
    ∃ (hazard : Hazard) (span : Span), code.hazards.findSome? (·.place? text) = some span ∧
      hazard.code = code ∧ hazard.IsFirst text span ∧
        (hazard = .oldValueCall → ∀ other, ¬Hazard.valueCall.OccursAt text other) := by
  cases hplace : code.hazards.findSome? (·.place? text) with
  | none =>
    refine .inl ⟨rfl, fun hazard hh span hs => hazard.place?_ne_none hs ?_⟩
    exact List.findSome?_eq_none_iff.mp hplace hazard (mem_hazards_iff.mpr hh)
  | some span =>
    obtain ⟨before, hazard, after, hsplit, hspan, hbefore⟩ := List.findSome?_eq_some_iff.mp hplace
    have hcode : hazard.code = code := mem_hazards_iff.mp (by simp [hsplit])
    refine .inr ⟨hazard, span, rfl, hcode, Hazard.isFirst_of_place? hspan, ?_⟩
    rintro rfl other ho
    -- The form in braces is looked for before.
    have hm : Hazard.valueCall ∈ before := by
      subst hcode
      cases before with
      | nil => cases hsplit
      | cons first before =>
        rw [← (List.cons.inj hsplit).1]
        exact List.mem_cons_self
    exact Hazard.place?_ne_none ho (hbefore _ hm)

theorem spans_of_map {places : Option Match} {mark : Match → Mark} {span : Match → Span}
    (h : ∀ found, (mark found).span = span found) :
    (places.toList.map mark).map (·.span) =
      (places.bind fun found => some (span found)).toList := by
  cases places with
  | none => rfl
  | some found => exact congrArg ([·]) (h found)

theorem spans_selfdestruct (here : Context) :
    (Check.selfdestruct here).map (·.span) = (Hazard.destruction.place? here.code).toList := by
  change (((Check.destruction.search? here.code).bind (·.group? 1)).toList.map _).map _ = 
    ((Check.destruction.search? here.code).bind (·.group? 1)).toList
  cases (Check.destruction.search? here.code).bind (·.group? 1) <;> rfl

theorem spans_lowLevelCallValue (here : Context) :
    (Check.lowLevelCallValue here).map (·.span) =
      ((Hazard.valueCall.place? here.code).or (Hazard.oldValueCall.place? here.code)).toList := by
  unfold Check.lowLevelCallValue
  change _ = (((Check.callWithValue.search? here.code).bind _).or _).toList
  cases Check.callWithValue.search? here.code with
  | none => exact spans_of_map fun _ => rfl
  | some found => rfl

theorem rulesOutcome_of_hazardCode {code : Code} (hc : code ∈ hazardCodes) (scope : Scope)
    (here : Context) (names : Names) :
    (rulesOutcome scope here ((Rules.only [code.switch]).active LineCheck.all) names).marks.map
      (·.span) = (code.hazards.findSome? (·.place? here.code)).toList := by
  simp only [hazardCodes, List.mem_cons, List.not_mem_nil, or_false] at hc
  rcases hc with rfl | rfl | rfl | rfl
  · change (Check.txOrigin here ++ []).map _ = ([Hazard.origin].findSome? _).toList
    rw [List.append_nil, List.findSome?_singleton]
    exact spans_of_map fun _ => rfl
  · change (Check.selfdestruct here ++ []).map _ = ([Hazard.destruction].findSome? _).toList
    rw [List.append_nil, List.findSome?_singleton, spans_selfdestruct]
  · change (Check.delegatecall here ++ []).map _ = ([Hazard.delegation].findSome? _).toList
    rw [List.append_nil, List.findSome?_singleton]
    exact spans_of_map fun _ => rfl
  · change (Check.lowLevelCallValue here ++ []).map _ =
      ([Hazard.valueCall, .oldValueCall].findSome? _).toList
    rw [List.append_nil, spans_lowLevelCallValue]
    simp only [List.findSome?_cons, List.findSome?_nil]
    cases Hazard.valueCall.place? here.code <;> cases Hazard.oldValueCall.place? here.code <;> rfl

theorem hazardCodes_off : ∀ code ∈ hazardCodes,
    (Rules.only [code.switch]).enabled .missingBraces = false ∧
      (Rules.only [code.switch]).enabled .missingReturn = false := by
  decide

theorem ranges_of_marks {marks : List Mark} {place : Option Span}
    (h : marks.map (·.span) = place.toList) (row : Int) :
    ((firstOfEach [] (marks.map (·.report row))).map Report.finding).map (·.range) =
      place.toList.map fun span => ⟨⟨row, span.start⟩, ⟨row, span.stop⟩⟩ := by
  cases place with
  | none =>
    rw [List.map_eq_nil_iff.mp h]
    rfl
  | some span =>
    obtain ⟨mark, rfl, rfl⟩ := List.map_eq_singleton_iff.mp h
    rfl

theorem Options.ranges_of_hazardCode {options : Options} {text : List Char} {code : Code}
    {row : Nat} {here : Context} (hc : code ∈ hazardCodes)
    (hon : options.rules.enabled code.switch = true)
    (hrow : (Context.each (splitLines text))[row]? = some here) (patterns : Option NamePatterns) :
    ((options.allFindings lineRules text patterns).filter fun finding =>
        finding.code = code ∧ finding.range.start.line = (row : Int)).map (·.range) =
      (code.hazards.findSome? (·.place? here.code)).toList.map fun span =>
        ⟨⟨row, span.start⟩, ⟨row, span.stop⟩⟩ := by
  obtain ⟨hbraces, hreturn⟩ := hazardCodes_off code hc
  obtain ⟨known, hknown⟩ :=
    options.exists_findings_of_code_on_line code hrow hbraces hreturn hon patterns
  rw [hknown]
  exact ranges_of_marks (rulesOutcome_of_hazardCode hc _ here known) row

/-- A line has a finding of a security check exactly if its code has a hazard of this code. There is
one such finding then, at the leftmost hazard; a value in braces goes before one in the old form. -/
theorem analyze_hazards_exact (text : List Char) (options : Options)
    (hnaming : options.patterns.isOk) (hample : options.IsAmple text)
    (hon : ∀ code ∈ hazardCodes, options.rules.enabled code.switch = true) :
    ∃ found, analyze text options = .ok found ∧
      ∀ code ∈ hazardCodes, ∀ (row : Nat) (line : Line), (splitLines text)[row]? = some line →
        let there := found.filter fun finding =>
          finding.code = code ∧ finding.range.start.line = (row : Int)
        (there ≠ [] ↔
          ∃ hazard : Hazard, hazard.code = code ∧ ∃ span, hazard.OccursAt line.code span) ∧
        there.length ≤ 1 ∧
        ∀ finding ∈ there, ∃ (hazard : Hazard) (span : Span), hazard.code = code ∧
          hazard.IsFirst line.code span ∧
          (hazard = .oldValueCall → ∀ other, ¬Hazard.valueCall.OccursAt line.code other) ∧
          finding.range = ⟨⟨row, span.start⟩, ⟨row, span.stop⟩⟩ := by
  obtain ⟨patterns, hpatterns⟩ := exists_of_isOk hnaming
  refine ⟨options.allFindings lineRules text patterns, ?_, ?_⟩
  · rw [hample.analyze_eq, hpatterns]
    rfl
  intro code hc row line hline there
  obtain ⟨hlt, hline⟩ := List.getElem?_eq_some_iff.mp hline
  obtain ⟨here, hhere, hline', -⟩ := Context.exists_each_getElem? hlt
  rw [hline] at hline'
  have hranges := options.ranges_of_hazardCode hc (hon code hc) hhere patterns
  rw [show here.code = line.code from by rw [Context.code, hline']] at hranges
  rcases code.place_cases line.code with ⟨hnone, hfree⟩ | ⟨hazard, span, hsome, hcode, hfirst, hold⟩
  · have hthere : there = [] := by
      rw [hnone] at hranges
      exact List.map_eq_nil_iff.mp hranges
    rw [hthere]
    refine ⟨⟨fun h => absurd rfl h, ?_⟩, Nat.zero_le 1, List.forall_mem_nil _⟩
    rintro ⟨hazard, hcode, span, hoccurs⟩
    exact absurd hoccurs (hfree hazard hcode span)
  · rw [hsome] at hranges
    obtain ⟨finding, hthere, hrange⟩ := List.map_eq_singleton_iff.mp hranges
    rw [show there = [finding] from hthere]
    refine ⟨⟨fun _ => ⟨hazard, hcode, span, hfirst.occurs⟩, fun _ => List.cons_ne_nil _ _⟩,
      Nat.le_refl 1, ?_⟩
    simp only [List.mem_singleton, forall_eq]
    exact ⟨hazard, span, hcode, hfirst, hold, hrange⟩

/-- The call in the old form stands first on the line, but the one in braces is reported. -/
theorem analyze_hazards_exact_on_two_calls :
    let text := "tx.origin // suicide(x)\na.call.value(1); b.CALL \x7b value : 2\x7d".toList
    let options : Options :=
      { rules := .only [.txOrigin, .selfdestruct, .delegatecall, .lowLevelCallValue] }
    let line := "a.call.value(1); b.CALL \x7b value : 2\x7d".toList
    options.IsAmple text ∧
      (analyze text options).toOption.map (·.map fun finding => (finding.code, finding.range)) =
        some [(.txOrigin, ⟨⟨0, 0⟩, ⟨0, 9⟩⟩), (.lowLevelCallValue, ⟨⟨1, 19⟩, ⟨1, 30⟩⟩)] ∧
      ∃ found, analyze text options = .ok found ∧
        ∀ finding ∈ found, finding.code = .lowLevelCallValue → finding.range.start.line = 1 →
          ∃ (hazard : Hazard) (span : Span), hazard.code = .lowLevelCallValue ∧
            hazard.IsFirst (Line.code line) span ∧
            (hazard = .oldValueCall → ∀ other, ¬Hazard.valueCall.OccursAt (Line.code line) other) ∧
            finding.range = ⟨⟨1, span.start⟩, ⟨1, span.stop⟩⟩ := by
  intro text options line
  have hample : options.IsAmple text := Options.isAmple_of_not_reached (by decide +kernel)
  obtain ⟨found, hfound, hexact⟩ := analyze_hazards_exact text options rfl hample (by decide)
  refine ⟨hample, by decide +kernel, found, hfound, fun finding hf hc hrow => ?_⟩
  obtain ⟨-, -, hplaces⟩ := hexact .lowLevelCallValue (by decide) 1 line (by decide +kernel)
  exact hplaces finding (List.mem_filter.mpr ⟨hf, decide_eq_true ⟨hc, hrow⟩⟩)

end SolidityLint
