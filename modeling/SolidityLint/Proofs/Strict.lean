import SolidityLint.Proofs.Locality
import SolidityLint.Proofs.Pattern.Words
import SolidityLint.Proofs.WrittenWords

/-!
# Checks that insist

Checks look at characters, groups and names that may be missing, and go on without them. The checks
here insist on them: what is missing makes them fail (`demand`), a match with a crossed group cannot
be given back, and a name that is looked for is first written as a pattern and read again. As
nothing is ever missing, they say what the checks say, on every line and whatever was met before
(`LineCheck.strictly_eq_judge`).
-/

namespace SolidityLint

open Pattern Text Vocabulary

def demand {α : Type} : Option α → Except Fault α
  | some a => .ok a
  | none => .error .failed

theorem ok_bind {α β : Type} (a : α) (f : α → Except Fault β) : (Except.ok a >>= f) = f a := rfl

theorem mapM_eq_ok {α β : Type} {f : α → Except Fault β} {g : α → β} {xs : List α}
    (h : ∀ x ∈ xs, f x = .ok (g x)) : xs.mapM f = .ok (xs.map g) := by
  induction xs with
  | nil => rfl
  | cons x xs ih =>
    obtain ⟨hx, hxs⟩ := List.forall_mem_cons.mp h
    rw [List.mapM_cons, hx, ih hxs]
    rfl

theorem filterMapM_eq_ok {α β : Type} {f : α → Except Fault (Option β)} {g : α → Option β}
    {xs : List α} (h : ∀ x ∈ xs, f x = .ok (g x)) : xs.filterMapM f = .ok (xs.filterMap g) := by
  induction xs with
  | nil => rfl
  | cons x xs ih =>
    obtain ⟨hx, hxs⟩ := List.forall_mem_cons.mp h
    rw [List.filterMapM_cons, hx, ih hxs, List.filterMap_cons]
    cases g x <;> rfl

-- ---------------------------------------------------------------------------
-- Groups
-- ---------------------------------------------------------------------------

def Match.demandGroup (found : Match) : Except Fault Span :=
  if found.marks.areCrossed then .error (.matching .crossedGroup) else demand (found.group? 1)

namespace Check.Strict

def searchGroup (p : Pattern) (text : List Char) : Except Fault (Option Span) :=
  (p.search? text).mapM Match.demandGroup

def matchGroup (p : Pattern) (text : List Char) : Except Fault (Option Span) :=
  (p.match? text).mapM Match.demandGroup

def findGroups (p : Pattern) (text : List Char) : Except Fault (List Span) :=
  (p.findAll text).mapM Match.demandGroup

/-- A pattern with one group that is set and in order in every match. -/
def hasGroup (p : Pattern) : Bool :=
  p.parts?.isSome && (p.lastGroup? 0).isSome && p.isYielding

section
variable {p : Pattern} {text : List Char} {found : Match}

theorem demandGroup_of_foundIn (hp : hasGroup p = true) (h : p.FoundIn text found) :
    ∃ span, found.demandGroup = .ok span ∧ found.group? 1 = some span := by
  simp only [hasGroup, Bool.and_eq_true] at hp
  obtain ⟨⟨hparts, hnumbered⟩, hyields⟩ := hp
  obtain ⟨⟨pre, body, post⟩, hparts⟩ := Option.isSome_iff_exists.mp hparts
  have hcrossed := h.areCrossed hnumbered hyields
  obtain ⟨a, -, hm⟩ := h
  obtain ⟨b, c, d, -, -, -, hgroup⟩ := parts_of_matchAt? hparts hm
  refine ⟨_, ?_, hgroup⟩
  rw [Match.demandGroup, hcrossed, hgroup]
  rfl

theorem mapM_demandGroup_eq {found? : Option Match} (hp : hasGroup p = true)
    (h : ∀ found ∈ found?, p.FoundIn text found) :
    found?.mapM Match.demandGroup = .ok (found?.bind (·.group? 1)) := by
  cases found? with
  | none => rfl
  | some found =>
    obtain ⟨span, hspan, hgroup⟩ := demandGroup_of_foundIn hp (h found rfl)
    rw [Option.mapM_some, hspan, Option.bind_some, hgroup]
    rfl

theorem searchGroup_eq (hp : hasGroup p = true) (text : List Char) :
    searchGroup p text = .ok ((p.search? text).bind (·.group? 1)) :=
  mapM_demandGroup_eq hp fun _ => foundIn_of_search?

theorem matchGroup_eq (hp : hasGroup p = true) (text : List Char) :
    matchGroup p text = .ok ((p.match? text).bind (·.group? 1)) :=
  mapM_demandGroup_eq hp fun _ => foundIn_of_match?

theorem findGroups_eq (hp : hasGroup p = true) (text : List Char) :
    findGroups p text = .ok ((p.findAll text).filterMap (·.group? 1)) := by
  have hall : ∀ found ∈ p.findAll text, ∃ span, found.demandGroup = .ok span ∧
      found.group? 1 = some span :=
    fun found hf => demandGroup_of_foundIn hp (foundIn_of_mem_findAll hf)
  unfold findGroups
  generalize p.findAll text = list at hall ⊢
  induction list with
  | nil => rfl
  | cons found more ih =>
    obtain ⟨⟨span, hspan, hgroup⟩, hmore⟩ := List.forall_mem_cons.mp hall
    have hcons : (found :: more).filterMap (·.group? 1) = span :: more.filterMap (·.group? 1) :=
      List.filterMap_cons_some hgroup
    rw [List.mapM_cons, hspan, ih hmore, hcons]
    rfl

end

-- ---------------------------------------------------------------------------
-- Characters and names
-- ---------------------------------------------------------------------------

/-- The last character before a column that is not blank, looked up column by column. -/
def lastBefore (text : List Char) : Nat → Except Fault (Option Char)
  | 0 => .ok none
  | column + 1 => do
    let c ← demand text[column]?
    if isBlank c then lastBefore text column else return some c

theorem lastBefore_eq {text : List Char} {column : Nat} (h : column ≤ text.length) :
    lastBefore text column = .ok (trimEnd (text.take column)).getLast? := by
  induction column with
  | zero => rfl
  | succ column ih =>
    have hlt : column < text.length := h
    have hc : text[column]? = some text[column] := List.getElem?_eq_getElem hlt
    rw [lastBefore, hc, List.take_succ_eq_append_getElem hlt]
    by_cases hb : isBlank text[column] = true
    · have hgap : ∀ x ∈ [text[column]], isBlank x = true := by simpa using hb
      rw [trimEnd_append_of_blank _ hgap, ← ih (Nat.le_of_lt hlt)]
      exact if_pos hb
    · rw [trimEnd_concat _ (Bool.eq_false_iff.mpr hb), List.getLast?_concat]
      exact if_neg hb

theorem contains_nameItems (x : Char) :
    CharSet.contains { items := nameItems } x = continuesName x := by
  have hscore : x.toNat = '_'.toNat ↔ x = '_' := Char.toNat_inj
  refine Bool.eq_iff_iff.mpr ?_
  simp only [CharSet.contains, nameItems, List.any_cons, List.any_nil, CharItem.contains,
    CharItem.char, continuesName, Char.isAlphanum, isAlpha_iff, isUpper_iff, isLower_iff,
    Char.isDigit_iff_toNat, Bool.or_eq_true, beq_iff_eq, or_assoc]
  simpa using or_congr_right (or_congr_right (or_congr_right hscore))

theorem takeWhile_append {p : Char → Bool} {read after : List Char} (h : ∀ x ∈ read, p x = true)
    (hstop : after.head?.any p = false) : (read ++ after).takeWhile p = read := by
  rw [List.takeWhile_append_of_pos h]
  cases after with
  | nil => simp
  | cons x after =>
    have hx : ¬p x = true := by simpa using hstop
    rw [List.takeWhile_cons_of_neg hx, List.append_nil]

section
variable {pos : Nat} {before rest : List Char} {c : Char} {found : Match}

theorem exists_matchAt?_name (pos : Nat) (before rest : List Char) (h : startsName c = true) :
    ∃ found, Pattern.name.matchAt? ⟨pos, before, c :: rest⟩ = some found := by
  have hc : CharSet.contains { items := nameStartItems } c = true := by
    rw [contains_nameStart, h]
  have hnone : Stretches { items := nameItems } 0 none ⟨pos + 1, c :: before, rest⟩
      ⟨pos + 1, c :: before, rest⟩ :=
    ⟨[], ⟨rfl, rfl, rfl⟩, by simp, Nat.le_refl 0, by simp⟩
  have htakes : Pattern.name.Takes ⟨pos, before, c :: rest⟩ ⟨pos + 1, c :: before, rest⟩ :=
    ⟨_, ⟨c, rest, rfl, hc, rfl⟩, takes_times_of_stretches rfl hnone⟩
  have hplain : Pattern.name.isPlain = true := rfl
  exact Option.isSome_iff_exists.mp ((matchAt?_isSome_iff hplain rfl).mpr ⟨_, htakes⟩)

theorem span_of_matchAt?_name (h : startsName c = true)
    (hm : Pattern.name.matchAt? ⟨pos, before, c :: rest⟩ = some found) :
    found.span = ⟨pos, pos + (leadingName (c :: rest)).length⟩ := by
  have hc : CharSet.contains { items := nameStartItems } c = true := by
    rw [contains_nameStart, h]
  have hset : CharSet.contains { items := nameItems } = continuesName := funext contains_nameItems
  obtain ⟨final, hrun, rfl⟩ := matchAt?_eq_some hm
  simp only [Pattern.name, all, oneOf, many, run, single?, hc, if_true] at hrun
  -- Nothing follows the repeat, so it gives nothing back.
  obtain ⟨b, left, ⟨read, hr, hread, -⟩, hstop, -, hs⟩ :=
    Setting.runSingle_longest rfl (fun _ _ => ⟨_, rfl⟩) hrun
  cases hs
  rw [hset] at hread hstop
  have hafter : rest = read ++ b.after := hr.after
  have hname : leadingName (c :: rest) = c :: read := by
    rw [leadingName, if_pos h, hafter, takeWhile_append hread hstop]
  have hpos : b.pos = pos + 1 + read.length := hr.pos
  rw [hname, List.length_cons, ← Nat.add_assoc, Nat.add_right_comm, ← hpos]
  rfl

end

def nameAt (text : List Char) (column : Nat) : Except Fault (List Char) := do
  let found ← demand
    (Pattern.name.matchAt? ⟨column, (text.take column).reverse, text.drop column⟩)
  return found.span.of text

def leadName? (segment : List Char) : Except Fault (Option (List Char)) :=
  let skipped := segment.length - (trimStart segment).length
  if segment.length ≤ skipped then .ok none
  else do
    let c ← demand segment[skipped]?
    if startsName c then return some (← nameAt segment skipped) else return none

theorem nameAt_eq {gap rest : List Char} {c : Char} (h : startsName c = true) :
    nameAt (gap ++ c :: rest) gap.length = .ok (leadingName (c :: rest)) := by
  obtain ⟨found, hm⟩ := exists_matchAt?_name gap.length gap.reverse rest h
  have htext : found.span.of (gap ++ c :: rest) = leadingName (c :: rest) := by
    rw [span_of_matchAt?_name h hm, Span.of, slice, List.drop_left, Nat.add_sub_cancel_left]
    exact (List.prefix_iff_eq_take.mp (leadingName_prefix_self _)).symm
  rw [nameAt, List.take_left, List.drop_left, hm, ← htext]
  rfl

theorem leadName?_eq (segment : List Char) :
    leadName? segment =
      .ok (if leadingName (trimStart segment) = [] then none
        else some (leadingName (trimStart segment))) := by
  obtain ⟨gap, -, hparts⟩ := exists_append_trimStart segment
  have hskipped : segment.length - (trimStart segment).length = gap.length := by
    conv => lhs; arg 1; rw [hparts]
    rw [List.length_append, Nat.add_sub_cancel]
  unfold leadName?
  simp only [hskipped]
  generalize trimStart segment = text at hparts ⊢
  subst hparts
  cases text with
  | nil => simp [leadingName]
  | cons c rest =>
    have hc : (gap ++ c :: rest)[gap.length]? = some c := by simp
    have hlen : ¬(gap ++ c :: rest).length ≤ gap.length := by simp
    rw [if_neg hlen, hc]
    by_cases hs : startsName c = true
    · have hne : leadingName (c :: rest) ≠ [] := by
        rw [leadingName, if_pos hs]
        exact List.cons_ne_nil _ _
      rw [if_neg hne, demand]
      change (if startsName c = true then _ else _) = _
      rw [if_pos hs, nameAt_eq hs]
      rfl
    · have hnone : leadingName (c :: rest) = [] := if_neg hs
      rw [if_pos hnone]
      exact if_neg hs

-- ---------------------------------------------------------------------------
-- Security and keywords
-- ---------------------------------------------------------------------------

def selfdestruct (here : Context) : Except Fault (List Mark) := do
  let keyword? ← searchGroup destruction here.code
  return keyword?.toList.map fun keyword =>
    ⟨keyword, "selfdestruct can permanently remove contract code. " ++
      "Ensure this is intended and access controlled.", .selfdestruct⟩

def wrongKeywords (here : Context) : Except Fault (List Mark) :=
  wrongKeywordPatterns.filterMapM fun (pattern, message) => do
    return (← searchGroup pattern here.code).map (⟨·, message, .wrongKeyword⟩)

theorem selfdestruct_eq (here : Context) : selfdestruct here = .ok (Check.selfdestruct here) := by
  rw [selfdestruct, searchGroup_eq rfl]
  rfl

theorem wrongKeywords_eq (here : Context) :
    wrongKeywords here = .ok (Check.wrongKeywords here) := by
  have hall : ∀ entry ∈ wrongKeywordPatterns, hasGroup entry.1 = true := by decide
  refine filterMapM_eq_ok fun entry hmem => ?_
  dsimp only
  rw [searchGroup_eq (hall entry hmem)]
  rfl

-- ---------------------------------------------------------------------------
-- Data types
-- ---------------------------------------------------------------------------

/-- A token without its last character, if that is punctuation. -/
def withoutPunctuation (token : List Char) : Except Fault (List Char) := do
  let last ← demand token.getLast?
  return if [',', ';', '{', '}', '(', ')'].contains last then token.dropLast else token

def elementaryDeclarations (code : Line) : Except Fault (List (List Char)) := do
  let tokens ← (words (Line.maskMappings code)).mapM withoutPunctuation
  return namesBehindType ((tokens.dropWhile (!isTypeToken ·)).drop 1)

def typedNames (code : Line) : Except Fault (List (List Char)) :=
  if functionWord.occursIn code then .ok []
  else do
    let located ← findGroups locatedDeclaration code
    let userTyped? ← matchGroup userTypedDeclaration code
    let elementary ← if someType.occursIn code then elementaryDeclarations code else .ok []
    return located.map (·.of code) ++ userTyped?.toList.map (·.of code) ++ elementary

def typedDeclarations (here : Context) (names : Names) : Except Fault Outcome := do
  return { names := (← typedNames here.code).foldl Names.declare names }

def assignedNames (here : Context) (names : Names) : Except Fault Outcome := do
  let spans ← findGroups plainAssignment here.code
  return missingNames
    ((placesIn here.code spans).filter fun (_, name) => !names.declared.contains name) names

def bracketDeclarations (here : Context) : Except Fault (List Mark) := do
  return (← findGroups arrayWithoutType here.code).map dataTypeMark

def tupleNames (here : Context) (names : Names) : Except Fault Outcome := do
  match ← searchGroup tupleAssignment here.code with
  | none => return { names }
  | some slots =>
    let items := listItems slots.start (slots.of here.code)
    return missingNames (items.filterMap (untypedSlot? names)) names

def bareNames (here : Context) (names : Names) : Except Fault Outcome := do
  match ← matchGroup bareDeclaration here.code with
  | none => return { names }
  | some span =>
    let name := span.of here.code
    if someType.occursIn here.code || bareStatements.any (·.toList == name) then return { names }
    else return missingNames [(span, name)] names

def untypedParameter? (parameter : Nat × List Char) : Except Fault (Option UntypedParameter) :=
  let text := trim parameter.2
  if text.isEmpty then .ok none
  else do
    match ← matchGroup leadingBracketParameter parameter.2 with
    | some span => return some (.brackets (span.shift parameter.1))
    | none =>
      if opensWithType text then return none
      else return (namePlace? parameter.1 parameter.2).map fun (span, name) => .named span name

def parameterNames (here : Context) (names : Names) : Except Fault Outcome := do
  match ← searchGroup functionParameters here.code with
  | none => return { names }
  | some span =>
    let found ← (listItems span.start (span.of here.code)).filterMapM untypedParameter?
    return { marks := found.map fun parameter => dataTypeMark parameter.span
             names := (found.filterMap (·.name?)).foldl Names.markMissing names }

def untypedBrackets? (parameters : List Char) (brackets : Span) : Except Fault (Option Span) := do
  let last? ← lastBefore parameters brackets.start
  return if last?.any endsElementType then none else some brackets

def parameterBrackets (here : Context) : Except Fault (List Mark) := do
  match ← searchGroup functionParameters here.code with
  | none => return []
  | some span =>
    let parameters := span.of here.code
    let brackets ← findGroups bracketParameter parameters
    let untyped ← brackets.filterMapM (untypedBrackets? parameters)
    return untyped.map fun found => dataTypeMark (found.shift span.start)

/-- The first place of a word that is written as a pattern and read again. -/
def searchWritten (text word : List Char) : Except Fault (Option Match) :=
  match Expression.parse (writtenWord word) with
  | .error _ => .error .failed
  | .ok expression => (expression.search text).mapError .matching

def laterUses (here : Context) (names : Names) : Except Fault (List Mark) := do
  let found ← names.missing.filterMapM (searchWritten here.code)
  return found.map fun found => dataTypeMark found.span

theorem withoutPunctuation_eq {token : List Char} (h : token ≠ []) :
    withoutPunctuation token = .ok (Check.withoutPunctuation token) := by
  rw [withoutPunctuation, Check.withoutPunctuation, List.getLast?_eq_some_getLast h]
  rfl

theorem elementaryDeclarations_eq (code : Line) :
    elementaryDeclarations code = .ok (Check.elementaryDeclarations code) := by
  rw [elementaryDeclarations,
    mapM_eq_ok fun token hmem => withoutPunctuation_eq (mem_words_iff.mp hmem).1]
  rfl

theorem typedNames_eq (code : Line) : typedNames code = .ok (Check.typedNames code) := by
  have huser : ((userTypedDeclaration.match? code).bind (·.group? 1)).toList =
      (userTypedDeclaration.match? code).toList.filterMap (·.group? 1) := by
    cases userTypedDeclaration.match? code with
    | none => rfl
    | some found => cases h : found.group? 1 <;> simp [h]
  rw [typedNames, Check.typedNames, elementaryDeclarations_eq, findGroups_eq rfl,
    matchGroup_eq rfl, groupTexts, groupTexts, ← huser]
  split
  · rfl
  · split <;> rfl

theorem typedDeclarations_eq (here : Context) (names : Names) :
    typedDeclarations here names = .ok (Check.typedDeclarations here names) := by
  rw [typedDeclarations, typedNames_eq]
  rfl

theorem assignedNames_eq (here : Context) (names : Names) :
    assignedNames here names = .ok (Check.assignedNames here names) := by
  rw [assignedNames, findGroups_eq rfl]
  rfl

theorem bracketDeclarations_eq (here : Context) :
    bracketDeclarations here = .ok (Check.bracketDeclarations here) := by
  rw [bracketDeclarations, findGroups_eq rfl]
  rfl

theorem tupleNames_eq (here : Context) (names : Names) :
    tupleNames here names = .ok (Check.tupleNames here names) := by
  rw [tupleNames, Check.tupleNames, searchGroup_eq rfl]
  cases (tupleAssignment.search? here.code).bind (·.group? 1) <;> rfl

theorem bareNames_eq (here : Context) (names : Names) :
    bareNames here names = .ok (Check.bareNames here names) := by
  rw [bareNames, Check.bareNames, matchGroup_eq rfl]
  cases (bareDeclaration.match? here.code).bind (·.group? 1) with
  | none => rfl
  | some span =>
    change (if _ then _ else _) = Except.ok (if _ then _ else _)
    split <;> rfl

theorem untypedParameter?_eq (parameter : Nat × List Char) :
    untypedParameter? parameter = .ok (Check.untypedParameter? parameter) := by
  rw [untypedParameter?, Check.untypedParameter?, matchGroup_eq rfl]
  dsimp only
  split
  · rfl
  · cases h : leadingBracketParameter.match? parameter.2 with
    | none =>
      change (if _ then _ else _) = Except.ok (if _ then _ else _)
      split <;> rfl
    | some found =>
      have hhas : hasGroup leadingBracketParameter = true := rfl
      obtain ⟨span, -, hspan⟩ := demandGroup_of_foundIn hhas (foundIn_of_match? h)
      dsimp only
      rw [Option.bind_some, hspan]
      rfl

theorem parameterNames_eq (here : Context) (names : Names) :
    parameterNames here names = .ok (Check.parameterNames here names) := by
  rw [parameterNames, Check.parameterNames, searchGroup_eq rfl]
  cases (functionParameters.search? here.code).bind (·.group? 1) with
  | none => rfl
  | some span =>
    rw [ok_bind]
    dsimp only
    rw [filterMapM_eq_ok fun item _ => untypedParameter?_eq item]
    rfl

theorem untypedBrackets?_eq {parameters : List Char} {brackets : Span}
    (h : brackets.start ≤ parameters.length) :
    untypedBrackets? parameters brackets =
      .ok (Option.guard (!followsElementType parameters ·.start) brackets) := by
  rw [untypedBrackets?, lastBefore_eq h, ok_bind, Option.guard, followsElementType]
  cases (trimEnd (parameters.take brackets.start)).getLast?.any endsElementType <;> rfl

theorem parameterBrackets_eq (here : Context) :
    parameterBrackets here = .ok (Check.parameterBrackets here) := by
  rw [parameterBrackets, Check.parameterBrackets, searchGroup_eq rfl]
  cases (functionParameters.search? here.code).bind (·.group? 1) with
  | none => rfl
  | some span =>
    rw [ok_bind]
    dsimp only
    rw [findGroups_eq rfl, ok_bind, filterMapM_eq_ok fun brackets hmem => untypedBrackets?_eq ?_,
      ok_bind, List.filterMap_eq_filter]
    · rfl
    · have hfits := findAll_group_fits rfl hmem
      exact Nat.le_of_lt (Nat.lt_of_lt_of_le hfits.start_lt hfits.stop_le)

theorem searchWritten_eq (text word : List Char) :
    searchWritten text word = .ok ((wholeWord word).search? text) := by
  rw [searchWritten, parse_writtenWord]
  dsimp only
  rw [search_wordExpression]
  rfl

theorem laterUses_eq (here : Context) (names : Names) :
    laterUses here names = .ok (Check.laterUses here names) := by
  rw [laterUses, filterMapM_eq_ok fun word _ => searchWritten_eq here.code word]
  exact congrArg Except.ok List.map_filterMap

-- ---------------------------------------------------------------------------
-- Naming
-- ---------------------------------------------------------------------------

def nameMarks (offset : Nat) (segment : List Char) (pattern : Expression) (code : Code)
    (label : String) : Except Fault (List Mark) := do
  let first := offset + (segment.length - (trimStart segment).length)
  match ← leadName? segment with
  | none => return [⟨⟨first, first + 1⟩, "Invalid " ++ label ++ " identifier.", code⟩]
  | some name =>
    let span : Span := ⟨first, first + name.length⟩
    if !(trim ((trimStart segment).drop name.length)).isEmpty then
      return [⟨span, "Invalid " ++ label ++ " identifier.", code⟩]
    else match ← (pattern.search name).mapError .matching with
      | some _ => return []
      | none =>
        return [⟨span, "Invalid " ++ label ++ " identifier '" ++ String.ofList name ++ "'.", code⟩]

def functionNaming (pattern : Expression) (here : Context) : Except Fault (List Mark) := do
  match ← searchGroup functionDeclaration here.code with
  | none => return []
  | some span => nameMarks span.start (span.of here.code) pattern .functionNaming "function"

def variableNaming (patterns : NamePatterns) (here : Context) : Except Fault (List Mark) :=
  if declaresVariable here.trimmedCode then
    match variablePattern? patterns here.trimmedCode with
    | none => .ok []
    | some pattern =>
      let code := here.code
      match (tokens (Line.maskMappings code)).tail.find? (startsVariable code) with
      | none => .ok []
      | some token =>
        nameMarks token.offset (variableSegment code token.offset) pattern .variableNaming
          "variable"
  else .ok []

def contractNaming (pattern : Expression) (here : Context) : Except Fault (List Mark) := do
  match ← searchGroup contractDeclaration here.code with
  | none => return []
  | some span =>
    nameMarks span.start (beforeInheritance (span.of here.code)) pattern .contractNaming
      "contract/interface/library"

theorem nameMarks_eq (offset : Nat) (segment : List Char) (pattern : Expression) (code : Code)
    (label : String) :
    nameMarks offset segment pattern code label =
      Check.nameMarks offset segment pattern code label := by
  rw [nameMarks, leadName?_eq, Check.nameMarks, ok_bind]
  dsimp only
  cases leadingName (trimStart segment) with
  | nil => rfl
  | cons c name =>
    rw [if_neg (List.cons_ne_nil _ _)]
    dsimp only
    split
    · rfl
    · cases pattern.search (c :: name) with
      | error fault => rfl
      | ok found? => cases found? <;> rfl

theorem functionNaming_eq (pattern : Expression) (here : Context) :
    functionNaming pattern here = Check.functionNaming pattern here := by
  rw [functionNaming, Check.functionNaming, searchGroup_eq rfl]
  cases (functionDeclaration.search? here.code).bind (·.group? 1) with
  | none => rfl
  | some span => exact nameMarks_eq _ _ _ _ _

theorem variableNaming_eq (patterns : NamePatterns) (here : Context) :
    variableNaming patterns here = Check.variableNaming patterns here := by
  unfold variableNaming Check.variableNaming
  split
  · cases variablePattern? patterns here.trimmedCode with
    | none => rfl
    | some pattern =>
      dsimp only
      cases (tokens (Line.maskMappings here.code)).tail.find? (startsVariable here.code) with
      | none => rfl
      | some token => exact nameMarks_eq _ _ _ _ _
  · rfl

theorem contractNaming_eq (pattern : Expression) (here : Context) :
    contractNaming pattern here = Check.contractNaming pattern here := by
  rw [contractNaming, Check.contractNaming, searchGroup_eq rfl]
  cases (contractDeclaration.search? here.code).bind (·.group? 1) with
  | none => rfl
  | some span => exact nameMarks_eq _ _ _ _ _

end Check.Strict

-- ---------------------------------------------------------------------------
-- Lines
-- ---------------------------------------------------------------------------

theorem linesBefore_of_lt {lines : List Line} {row : Nat} (h : row < lines.length) :
    linesBefore lines defaultLookback row = .ok ((lines.take row).reverse.take 5) := by
  have hlength : (lines.take row).length = row := List.length_take_of_le (Nat.le_of_lt h)
  have hfirst : (max 0 ((row : Int) - 5)).toNat = row - 5 := by omega
  rw [List.take_reverse, hlength, ← hfirst]
  unfold linesBefore
  dsimp only [defaultLookback]
  split
  · rename_i hnone
    have hzero : row = 0 := by omega
    subst hzero
    rfl
  · exact if_pos (by omega)

theorem linesAfter_of_neg {lines : List Line} {index : Int} {row : Nat} (h : index < 0)
    (hrow : position? lines.length index = some row) :
    linesAfter lines index = .ok (lines.drop (row + 1) ++ lines) := by
  have hposition : -lines.length ≤ index ∧ row = (lines.length + index).toNat := by
    rw [position?, if_neg (by omega)] at hrow
    split at hrow
    · exact ⟨‹_›, (Option.some.inj hrow).symm⟩
    · cases hrow
  obtain ⟨hle, rfl⟩ := hposition
  unfold linesAfter
  split
  · -- The last line: behind it the lines start again.
    have hlast : index = -1 := by omega
    subst hlast
    have hall : lines.length ≤ (lines.length + -1 : Int).toNat + 1 := by omega
    rw [List.drop_of_length_le hall]
    rfl
  · have hnext : position? lines.length (index + 1) =
        some ((lines.length + index).toNat + 1) := by
      rw [position?, if_neg ‹_›, if_pos (by omega)]
      exact congrArg some (by omega)
    rw [hnext]

namespace Context

/-- A line with the lines around it, all of them looked up by their indices. -/
def strictAt (lines : List Line) (index : Int) : Except Fault Context := do
  let position ← demand (position? lines.length index)
  let line ← demand lines[position]?
  let above ← linesBefore lines defaultLookback index
  let below ← linesAfter lines index
  return ⟨above, line, below⟩

theorem exists_strictAt {lines : List Line} {index : Int} {here : Context}
    (h : Context.at? lines index = some here) :
    ∃ near, strictAt lines index = .ok near ∧ near.SameView here := by
  obtain ⟨row, hrow, h⟩ := Option.bind_eq_some_iff.mp h
  obtain ⟨line, hline, h⟩ := Option.bind_eq_some_iff.mp h
  obtain ⟨hlt, -⟩ := List.getElem?_eq_some_iff.mp hline
  unfold strictAt
  rw [hrow, demand, ok_bind, hline, demand, ok_bind]
  by_cases hindex : 0 ≤ index
  · rw [if_pos hindex] at h
    cases h
    have hrow : index = row := by
      rw [position?, if_pos hindex] at hrow
      split at hrow
      · cases hrow
        omega
      · cases hrow
    subst hrow
    have hafter : linesAfter lines row = .ok (lines.drop (row + 1)) := if_pos (by omega)
    rw [linesBefore_of_lt hlt, ok_bind, hafter, ok_bind]
    refine ⟨_, rfl, rfl, rfl, ?_⟩
    exact congrArg codeLines List.take_take
  · rw [if_neg hindex] at h
    cases h
    have hbefore : linesBefore lines defaultLookback index = .ok [] := if_pos (by omega)
    rw [hbefore, ok_bind, linesAfter_of_neg (by omega) hrow, ok_bind]
    exact ⟨_, rfl, rfl, rfl, rfl⟩

end Context

-- ---------------------------------------------------------------------------
-- All checks
-- ---------------------------------------------------------------------------

namespace LineCheck

/-- A check that insists on all it looks at. -/
def strictly (scope : Scope) (names : Names) (here : Context) : LineCheck → Except Fault Outcome
  | .selfdestruct => do return { marks := ← Check.Strict.selfdestruct here, names }
  | .wrongKeywords => do return { marks := ← Check.Strict.wrongKeywords here, names }
  | .typedDeclarations => Check.Strict.typedDeclarations here names
  | .assignedNames => Check.Strict.assignedNames here names
  | .bracketDeclarations => do return { marks := ← Check.Strict.bracketDeclarations here, names }
  | .tupleNames => Check.Strict.tupleNames here names
  | .bareNames => Check.Strict.bareNames here names
  | .parameterNames => Check.Strict.parameterNames here names
  | .parameterBrackets => do return { marks := ← Check.Strict.parameterBrackets here, names }
  | .laterUses => do return { marks := ← Check.Strict.laterUses here names, names }
  | .functionNaming => match scope.naming.bind (·.functionNames) with
    | some pattern => do return { marks := ← Check.Strict.functionNaming pattern here, names }
    | none => .ok { names }
  | .variableNaming => match scope.naming with
    | some patterns => do return { marks := ← Check.Strict.variableNaming patterns here, names }
    | none => .ok { names }
  | .contractNaming => match scope.naming.bind (·.contractNames) with
    | some pattern => do return { marks := ← Check.Strict.contractNaming pattern here, names }
    | none => .ok { names }
  | check => check.judge scope names here

open Check.Strict in
theorem strictly_eq_judge (check : LineCheck) (scope : Scope) (names : Names) (here : Context) :
    check.strictly scope names here = check.judge scope names here := by
  cases check with
  | selfdestruct => rw [strictly, selfdestruct_eq]; rfl
  | wrongKeywords => rw [strictly, wrongKeywords_eq]; rfl
  | typedDeclarations => exact typedDeclarations_eq here names
  | assignedNames => exact assignedNames_eq here names
  | bracketDeclarations => rw [strictly, bracketDeclarations_eq]; rfl
  | tupleNames => exact tupleNames_eq here names
  | bareNames => exact bareNames_eq here names
  | parameterNames => exact parameterNames_eq here names
  | parameterBrackets => rw [strictly, parameterBrackets_eq]; rfl
  | laterUses => rw [strictly, laterUses_eq]; rfl
  | functionNaming =>
    rw [strictly, judge]
    cases scope.naming.bind (·.functionNames) with
    | none => rfl
    | some pattern => exact congrArg (· >>= _) (functionNaming_eq pattern here)
  | variableNaming =>
    rw [strictly, judge]
    cases scope.naming with
    | none => rfl
    | some patterns => exact congrArg (· >>= _) (variableNaming_eq patterns here)
  | contractNaming =>
    rw [strictly, judge]
    cases scope.naming.bind (·.contractNames) with
    | none => rfl
    | some pattern => exact congrArg (· >>= _) (contractNaming_eq pattern here)
  | _ => rfl

def runStrictly (check : LineCheck) (scope : Scope) (lines : List Line) (names : Names)
    (index : Int) : Except Fault Outcome :=
  if check.isIdle scope names then .ok { names }
  else do check.strictly scope names (← Context.strictAt lines index)

theorem runStrictly_eq_run {lines : List Line} {index : Int} {here : Context}
    (h : Context.at? lines index = some here) (check : LineCheck) (scope : Scope) (names : Names) :
    check.runStrictly scope lines names index = check.run scope lines names index := by
  obtain ⟨near, hnear, hview⟩ := Context.exists_strictAt h
  rw [runStrictly, run, hnear, h, ok_bind, strictly_eq_judge, judge_eq_of_sameView hview]

end LineCheck

end SolidityLint
