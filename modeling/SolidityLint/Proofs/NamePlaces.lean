import SolidityLint.Proofs.Marks
import SolidityLint.Proofs.NameKinds

/-!
# Places of names

The place of a name is cut out of a line in three ways: between a keyword and a parenthesis, between
a keyword and a brace or the bases of a contract, or from a token on that was counted in a masked
copy of the line. In each way the place starts where no word goes on and ends at the first end that
its kind knows (`NamePlace`), so that a name with nothing but blanks around it is a whole word
(`NamePlace.isWholeWord`). Whatever a check says of a name, it says of such a place
(`LineCheck.exists_namePlace_of_mem`).
-/

namespace SolidityLint

open Text Pattern

/-- Blanks and the word `is`, behind which a contract names its bases. -/
def StartsBases (text : List Char) : Prop :=
  ∃ gap rest, text = gap ++ "is".toList ++ rest ∧ gap ≠ [] ∧ (∀ x ∈ gap, isBlank x = true) ∧
    rest.head?.any isWordChar = false

def NameKind.Ends (after : List Char) : NameKind → Prop
  | .functionName => after.head? = some '('
  | .contractName => after.head? = some '{' ∨ StartsBases after
  | .variableName | .constantName => ∀ c ∈ after.head?, Check.endsVariable c = true

structure NameKind.EndsAt (kind : NameKind) (between after : List Char) : Prop where
  ends : kind.Ends after
  first : ∀ early late, between = early ++ late → late ≠ [] → ¬kind.Ends (late ++ after)

/-- A place for a name of a kind. If the place is blank, there is something behind it to show. -/
structure NamePlace (kind : NameKind) (code front field after : List Char) : Prop where
  code_eq : code = front ++ field ++ after
  endsAt : kind.EndsAt field after
  apart : front.getLast?.any isWordChar = true → field.head?.any isWordChar = false
  follows : trimStart field = [] → after ≠ []

section
variable {kind : NameKind} {between after : List Char}

theorem NameKind.EndsAt.of_append {front : List Char} (h : kind.EndsAt (front ++ between) after) :
    kind.EndsAt between after := by
  refine ⟨h.ends, fun early late hparts hne => h.first (front ++ early) late ?_ hne⟩
  rw [hparts, List.append_assoc]

theorem StartsBases.head?_any {text : List Char} (h : StartsBases text) :
    text.head?.any isBlank = true := by
  obtain ⟨gap, rest, rfl, hne, hgap, -⟩ := h
  cases gap with
  | nil => exact absurd rfl hne
  | cons x gap => exact hgap x List.mem_cons_self

theorem NameKind.Ends.not_isWordChar (h : kind.Ends after) :
    after.head?.any isWordChar = false := by
  cases after with
  | nil => rfl
  | cons c after =>
    have hvariable (hc : Check.endsVariable c = true) : isWordChar c = false := by
      have hall : ([';', '=', '{', ',', ')'].all (!isWordChar ·)) = true := by decide +kernel
      simpa using List.all_eq_true.mp hall c (List.contains_iff_mem.mp hc)
    cases kind with
    | functionName =>
      cases h
      rfl
    | variableName | constantName => exact hvariable (h c rfl)
    | contractName =>
      rcases h with h | h
      · cases h
        rfl
      · exact isWordChar_of_isBlank h.head?_any

theorem NamePlace.not_isWordChar {code front gap name rest : List Char}
    (h : NamePlace kind code front (gap ++ (name ++ rest)) after)
    (hgap : ∀ x ∈ gap, isBlank x = true) (hname : isName name = true) :
    (front ++ gap).getLast?.any isWordChar = false := by
  cases hg : gap.getLast? with
  | some x =>
    rw [List.getLast?_append, hg]
    exact isWordChar_of_isBlank (hgap x (List.mem_of_getLast? hg))
  | none =>
    obtain rfl := List.getLast?_eq_none_iff.mp hg
    rw [List.append_nil]
    cases name with
    | nil => cases hname
    | cons c name =>
      have hword : isWordChar c = true :=
        isWordChar_of_continuesName (continuesName_of_isName hname c List.mem_cons_self)
      exact Bool.eq_false_iff.mpr fun hf => Bool.eq_false_iff.mp (h.apart hf) hword

/-- A name between blanks is a whole word, as no word goes on over either end of its place. -/
theorem NamePlace.isWholeWord {code front gap name rest : List Char}
    (h : NamePlace kind code front (gap ++ (name ++ rest)) after)
    (hgap : ∀ x ∈ gap, isBlank x = true) (hname : isName name = true)
    (hrest : ∀ x ∈ rest, isBlank x = true) :
    IsWholeWord name (front ++ gap ++ name ++ (rest ++ after)) (front ++ gap) (rest ++ after) := by
  have hne : name ≠ [] := by
    rintro rfl
    cases hname
  have hword : ∀ c ∈ name, isWordChar c = true := fun c hc =>
    isWordChar_of_continuesName (continuesName_of_isName hname c hc)
  have hback : (rest ++ after).head?.any isWordChar = false := by
    cases rest with
    | nil => exact h.endsAt.ends.not_isWordChar
    | cons x rest => exact isWordChar_of_isBlank (hrest x List.mem_cons_self)
  exact .of_word hne hword (h.not_isWordChar hgap hname) hback

end

namespace Check

variable {kind : NameKind} {pattern : Expression} {code front field after : List Char}
  {marks : List Mark} {mark : Mark}

-- ---------------------------------------------------------------------------
-- Functions and contracts
-- ---------------------------------------------------------------------------

theorem apart_of_isBoundary {rest : List Char} (h : isBoundary front (field ++ rest) = true)
    (hfront : front.getLast?.any isWordChar = true) : field.head?.any isWordChar = false := by
  cases field with
  | nil => rfl
  | cons c field =>
    rw [isBoundary, hfront] at h
    simpa using h

theorem exists_of_declaration {words : Pattern} {delimiter : Char} {span : Span}
    (hp : words.isPlain = true)
    (h : ((all [boundary, words, boundary, .group 1 (many (noneOf [.char delimiter])),
      char delimiter]).search? code).bind (·.group? 1) = some span) :
    ∃ front rest, code = front ++ span.of code ++ delimiter :: rest ∧ span.start = front.length ∧
      delimiter ∉ span.of code ∧ isBoundary front (span.of code ++ delimiter :: rest) = true := by
  obtain ⟨found, hfound, hs⟩ := Option.bind_eq_some_iff.mp h
  obtain ⟨a, ha, hm⟩ := foundIn_of_search? hfound
  have hparts : (all [boundary, words, boundary, .group 1 (many (noneOf [.char delimiter])),
      char delimiter]).parts? = some (.seq boundary (.seq words (.seq boundary .empty)),
        many (noneOf [.char delimiter]), .seq .empty (char delimiter)) := by
    simp [all, parts?, hp, isPlain, boundary, many, noneOf, char]
  -- The group is read from `b` to `c`, and the second boundary stands at `b`.
  obtain ⟨b, c, d, hpre, hbody, ⟨_, rfl, hdelimiter⟩, hgroup⟩ := parts_of_matchAt? hparts hm
  obtain ⟨_, ⟨-, rfl⟩, _, hwords, _, ⟨hboundary, rfl⟩, rfl⟩ := hpre
  obtain ⟨keyword, hkeyword, -⟩ := hwords.reads
  obtain ⟨word, hspells, hword⟩ := (takes_iff_spells rfl).mp hbody
  obtain ⟨last, hlast, hread⟩ := (takes_iff_spells rfl).mp hdelimiter
  cases spells_char.mp hlast
  have hb := hkeyword.in ha
  have hafter : b.after = word ++ delimiter :: d.after := by
    rw [hword.after, hread.after]
    rfl
  have hof : span.of code = word := by
    cases hs.symm.trans hgroup
    exact hword.slice_eq hb
  rw [hof]
  refine ⟨b.before.reverse, d.after, ?_, ?_, spells_many_noneOf.mp hspells, ?_⟩
  · rw [List.append_assoc, ← hafter]
    exact hb.text.symm
  · cases hs.symm.trans hgroup
    rw [List.length_reverse]
    exact hb.pos
  · rw [← hafter, isBoundary_eq]
    exact hboundary

theorem namePlace_function {span : Span}
    (h : (functionDeclaration.search? code).bind (·.group? 1) = some span) :
    ∃ front after, span.start = front.length ∧
      NamePlace .functionName code front (span.of code) after := by
  obtain ⟨front, rest, hcode, hstart, hnot, hboundary⟩ :=
    exists_of_declaration (by rfl : (literal "function").isPlain = true) h
  refine ⟨front, '(' :: rest, hstart, hcode, ⟨rfl, ?_⟩, apart_of_isBoundary hboundary, by simp⟩
  intro early late hparts hne hends
  obtain ⟨c, late, rfl⟩ := List.exists_cons_of_ne_nil hne
  cases hends
  exact hnot (hparts ▸ by simp)

theorem holds_boundary_iff {a : Place} {x : Char} (hx : a.before.head? = some x)
    (hword : isWordChar x = true) :
    (Anchor.wordBoundary false).holds a = true ↔ a.after.head?.any isWordChar = false := by
  rw [← isBoundary_eq, isBoundary, List.getLast?_reverse, hx, Option.any_some, hword]
  cases a.after.head?.any isWordChar <;> decide

theorem exists_takes_inheritance_iff {a : Place} :
    (∃ b, inheritance.Takes a b) ↔ StartsBases a.after := by
  have his : isWordChar 's' = true := by decide +kernel
  constructor
  · rintro ⟨c, b, hblanks, _, hword, hboundary, rfl⟩
    obtain ⟨gap, hspells, hgap⟩ := (takes_iff_spells rfl).mp hblanks
    obtain ⟨hne, hall⟩ := spells_blanks1.mp hspells
    have hread : b.Reads "is".toList c := takes_chars.mp hword
    refine ⟨gap, c.after, ?_, hne, hall, ?_⟩
    · rw [hgap.after, hread.after, List.append_assoc]
    · exact (holds_boundary_iff (by rw [hread.before]; rfl) his).mp hboundary
  · rintro ⟨gap, rest, hafter, hne, hall, hrest⟩
    rw [List.append_assoc] at hafter
    have hgap : a.Reads gap ⟨a.pos + gap.length, gap.reverse ++ a.before, "is".toList ++ rest⟩ :=
      ⟨hafter, rfl, rfl⟩
    refine ⟨⟨_, "is".toList.reverse ++ (gap.reverse ++ a.before), rest⟩, _,
      (takes_iff_spells rfl).mpr ⟨gap, spells_blanks1.mpr ⟨hne, hall⟩, hgap⟩, _,
      takes_chars.mpr ⟨rfl, rfl, rfl⟩, ?_, rfl⟩
    exact (holds_boundary_iff rfl his).mpr hrest

/-- A brace behind a text neither starts bases nor ends them. -/
theorem startsBases_append_iff {text rest : List Char} :
    StartsBases (text ++ '{' :: rest) ↔ StartsBases text := by
  constructor
  · rintro ⟨gap, back, htext, hne, hgap, hback⟩
    have hnot : '{' ∉ gap ++ "is".toList := by
      intro hm
      rcases List.mem_append.mp hm with hm | hm
      · exact absurd (hgap _ hm) (by decide)
      · exact absurd hm (by decide)
    rcases List.append_eq_append_iff.mp htext with ⟨inner, hinner, hrest⟩ | ⟨inner, rfl, hrest⟩
    · cases inner with
      | nil =>
        rw [List.append_nil] at hinner
        exact ⟨gap, [], by rw [hinner, List.append_nil], hne, hgap, rfl⟩
      | cons c inner =>
        obtain ⟨rfl, -⟩ := List.cons.inj hrest
        exact absurd (hinner ▸ by simp) hnot
    · refine ⟨gap, inner, rfl, hne, hgap, ?_⟩
      cases inner with
      | nil => rfl
      | cons c inner =>
        cases hrest
        exact hback
  · rintro ⟨gap, back, rfl, hne, hgap, hback⟩
    refine ⟨gap, back ++ '{' :: rest, List.append_assoc _ _ _, hne, hgap, ?_⟩
    cases back with
    | nil => rfl
    | cons c back => exact hback

theorem beforeInheritance_cases (segment : List Char) :
    ∃ bases, segment = beforeInheritance segment ++ bases ∧ (bases ≠ [] → StartsBases bases) ∧
      ∀ early late, segment = early ++ late → StartsBases late →
        (beforeInheritance segment).length ≤ early.length := by
  have hfound {early late : List Char} (hparts : segment = early ++ late) (h : StartsBases late) :
      ∃ found, inheritance.search? segment = some found ∧ found.span.start ≤ early.length := by
    obtain ⟨b, hb⟩ := exists_takes_inheritance_iff.mpr
      (show StartsBases (⟨early.length, early.reverse, late⟩ : Place).after from h)
    exact exists_search?_le rfl rfl (hparts ▸ .of_append early late) hb
  unfold beforeInheritance
  split
  · rename_i found hsearch
    obtain ⟨a, ha, hm⟩ := foundIn_of_search? hsearch
    obtain ⟨b, hb, hspan⟩ := takes_of_matchAt? rfl hm
    have hstart : found.span.start = a.before.reverse.length := by
      rw [hspan, List.length_reverse]
      exact ha.pos
    have hsegment : a.before.reverse ++ a.after = segment := ha.text
    refine ⟨a.after, ?_, fun _ => exists_takes_inheritance_iff.mp ⟨b, hb⟩, ?_⟩
    · rw [hstart, ← hsegment, List.take_left]
    · intro early late hparts hbases
      obtain ⟨other, hother, hle⟩ := hfound hparts hbases
      cases hsearch.symm.trans hother
      exact Nat.le_trans (List.length_take_le _ _) hle
  · rename_i hsearch
    refine ⟨[], (List.append_nil _).symm, fun h => absurd rfl h, ?_⟩
    intro early late hparts hbases
    obtain ⟨other, hother, -⟩ := hfound hparts hbases
    cases hsearch.symm.trans hother

theorem endsAt_beforeInheritance {segment : List Char} (hnot : '{' ∉ segment) (rest : List Char) :
    ∃ bases, segment = beforeInheritance segment ++ bases ∧
      NameKind.contractName.EndsAt (beforeInheritance segment) (bases ++ '{' :: rest) := by
  obtain ⟨bases, hsegment, hbases, hfirst⟩ := beforeInheritance_cases segment
  refine ⟨bases, hsegment, ?_, ?_⟩
  · cases bases with
    | nil => exact .inl rfl
    | cons c bases => exact .inr (startsBases_append_iff.mpr (hbases (List.cons_ne_nil c bases)))
  · intro early late hparts hne hends
    rw [hparts, List.append_assoc] at hsegment
    rw [← List.append_assoc] at hends
    -- An earlier brace would stand in the segment, and earlier bases would have been found first.
    rcases hends with hends | hends
    · obtain ⟨c, late, rfl⟩ := List.exists_cons_of_ne_nil hne
      cases hends
      exact hnot (hsegment ▸ by simp)
    · have hle := hfirst early _ hsegment (startsBases_append_iff.mp hends)
      have hpos := List.length_pos_iff.mpr hne
      rw [hparts, List.length_append] at hle
      omega

theorem namePlace_contract {span : Span}
    (h : (contractDeclaration.search? code).bind (·.group? 1) = some span) :
    ∃ front after, span.start = front.length ∧
      NamePlace .contractName code front (beforeInheritance (span.of code)) after := by
  obtain ⟨front, rest, hcode, hstart, hnot, hboundary⟩ := exists_of_declaration
    (by rfl : (any [literal "contract", literal "interface", literal "library"]).isPlain = true) h
  obtain ⟨bases, hsegment, hends⟩ := endsAt_beforeInheritance hnot rest
  refine ⟨front, bases ++ '{' :: rest, hstart, ?_, hends, ?_, by simp⟩
  · rw [List.append_assoc, ← List.append_assoc _ bases, ← hsegment, ← List.append_assoc]
    exact hcode
  · rw [hsegment, List.append_assoc] at hboundary
    exact apart_of_isBoundary hboundary

-- ---------------------------------------------------------------------------
-- Variables
-- ---------------------------------------------------------------------------

theorem ends_variable_iff (h : kind.code = .variableNaming) :
    kind.Ends after ↔ ∀ c ∈ after.head?, endsVariable c = true := by
  cases kind with
  | variableName | constantName => exact Iff.rfl
  | functionName | contractName => cases h

/-- No word goes on over the start of a token that is not the first, also where a mask hides what is
before it. -/
theorem not_isWordChar_before_token {token : Token}
    (h : token ∈ (tokens (Line.maskMappings code)).tail) :
    (code.take token.offset).getLast?.any isWordChar = false := by
  obtain ⟨k, x, hk, hx, hb⟩ := tokens_tail_start h
  obtain ⟨y, hy, hn⟩ := tokens_start (List.mem_of_mem_tail h)
  rw [hk] at hy
  obtain ⟨c, hc, hword⟩ := Line.maskFrom_blank_before none (Line.pads_nil code) hx hy hb hn
  rw [hk, List.getLast?_take, if_neg (Nat.succ_ne_zero k), Nat.add_sub_cancel, hc]
  exact hword

theorem namePlace_variable {token : Token} (hkind : kind.code = .variableNaming)
    (ht : token ∈ (tokens (Line.maskMappings code)).tail)
    (hs : startsVariable code token = true) :
    NamePlace kind code (code.take token.offset) (variableSegment code token.offset)
      ((code.drop token.offset).dropWhile (!endsVariable ·)) where
  code_eq := by
    rw [List.append_assoc, variableSegment, List.takeWhile_append_dropWhile, List.take_append_drop]
  endsAt := by
    constructor
    · refine (ends_variable_iff hkind).mpr fun c hc => ?_
      have hstop := List.head?_dropWhile_not (!endsVariable ·) (code.drop token.offset)
      rw [Option.mem_def.mp hc] at hstop
      simpa using hstop
    · intro early late hparts hne hends
      obtain ⟨c, late, rfl⟩ := List.exists_cons_of_ne_nil hne
      have hend := (ends_variable_iff hkind).mp hends c rfl
      have hmem : c ∈ variableSegment code token.offset := hparts ▸ by simp
      have hgoes := List.mem_takeWhile_imp hmem
      simp [hend] at hgoes
  apart := by
    intro hword
    rw [not_isWordChar_before_token ht] at hword
    cases hword
  follows := by
    obtain ⟨htrim, hpos, -⟩ := variableSegment_bounds (List.mem_of_mem_tail ht) hs
    intro he
    rw [htrim] at he
    exact absurd he (List.length_pos_iff.mp hpos)

-- ---------------------------------------------------------------------------
-- One line
-- ---------------------------------------------------------------------------

section
variable {here : Context}

theorem exists_namePlace_of_functionNaming (hm : functionNaming pattern here = .ok marks)
    (h : mark ∈ marks) :
    ∃ front field after, NamePlace .functionName here.code front field after ∧
      nameMarks front.length field pattern .functionNaming "function" = .ok marks := by
  unfold functionNaming at hm
  split at hm
  · cases hm; cases h
  · rename_i span hs
    obtain ⟨front, after, hstart, hplace⟩ := namePlace_function hs
    exact ⟨front, _, after, hplace, hstart ▸ hm⟩

theorem exists_namePlace_of_contractNaming (hm : contractNaming pattern here = .ok marks)
    (h : mark ∈ marks) :
    ∃ front field after, NamePlace .contractName here.code front field after ∧
      nameMarks front.length field pattern .contractNaming "contract/interface/library" =
        .ok marks := by
  unfold contractNaming at hm
  split at hm
  · cases hm; cases h
  · rename_i span hs
    obtain ⟨front, after, hstart, hplace⟩ := namePlace_contract hs
    exact ⟨front, _, after, hplace, hstart ▸ hm⟩

theorem exists_namePlace_of_variableNaming {patterns : NamePatterns}
    (hkind : kind.code = .variableNaming) (hm : variableNaming patterns here = .ok marks)
    (h : mark ∈ marks) :
    ∃ pattern front field after, variablePattern? patterns here.trimmedCode = some pattern ∧
      NamePlace kind here.code front field after ∧
      nameMarks front.length field pattern .variableNaming "variable" = .ok marks := by
  unfold variableNaming at hm
  split at hm
  · split at hm
    · cases hm; cases h
    · rename_i pattern hpattern
      simp only at hm
      split at hm
      · cases hm; cases h
      · rename_i token hfind
        have ht := List.mem_of_find?_eq_some hfind
        have hplace := namePlace_variable hkind ht (List.find?_some hfind)
        obtain ⟨-, -, hle⟩ :=
          variableSegment_bounds (List.mem_of_mem_tail ht) (List.find?_some hfind)
        have hlength : (here.code.take token.offset).length = token.offset :=
          List.length_take_of_le (by omega)
        exact ⟨pattern, _, _, _, hpattern, hplace, by rwa [hlength]⟩
  · cases hm; cases h

end

end Check

namespace LineCheck

variable {check : LineCheck} {scope : Scope} {names : Names} {here : Context} {kind : NameKind}
  {mark : Mark}

theorem exists_namePlace_of_mem (hkind : check.nameKind? here.line = some kind)
    (h : mark ∈ (check.rule.outcome scope names here).marks) :
    ∃ pattern front field after, scope.naming.bind (·.read? kind) = some pattern ∧
      NamePlace kind here.code front field after ∧
      Check.nameMarks front.length field pattern kind.code kind.label =
        .ok (check.rule.outcome scope names here).marks := by
  obtain ⟨outcome, hj, hm⟩ := exists_judge_of_mem h
  have houtcome : check.rule.outcome scope names here = outcome := by
    simp only [Rule.outcome, rule, hj]
  rw [houtcome]
  cases check with
  | functionNaming =>
    cases hkind
    rcases (functionNaming_ok hj).2 with he | ⟨pattern, hp, hmarks⟩
    · rw [he] at hm
      cases hm
    · obtain ⟨front, field, after, hplace⟩ := Check.exists_namePlace_of_functionNaming hmarks hm
      exact ⟨pattern, front, field, after, hp, hplace⟩
  | contractNaming =>
    cases hkind
    rcases (contractNaming_ok hj).2 with he | ⟨pattern, hp, hmarks⟩
    · rw [he] at hm
      cases hm
    · obtain ⟨front, field, after, hplace⟩ := Check.exists_namePlace_of_contractNaming hmarks hm
      exact ⟨pattern, front, field, after, hp, hplace⟩
  | variableNaming =>
    cases hkind
    rcases (variableNaming_ok hj).2 with he | ⟨patterns, hp, hmarks⟩
    · rw [he] at hm
      cases hm
    · obtain ⟨pattern, front, field, after, hread, hplace, hname⟩ :=
        Check.exists_namePlace_of_variableNaming here.line.code_variableKind hmarks hm
      refine ⟨pattern, front, field, after, ?_, hplace, ?_⟩
      · rw [hp]
        exact (Check.variablePattern?_eq patterns here.line).symm.trans hread
      · rwa [Line.code_variableKind, Line.label_variableKind]
  | _ => cases hkind

end LineCheck

end SolidityLint
