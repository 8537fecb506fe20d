import SolidityLint.Proofs.Pattern.Crossing
import SolidityLint.Proofs.Reports

/-!
# Numbers of groups

Groups get their numbers when their opening parenthesis is read. A pattern that was read has them in
the order in which a match opens them (`lastGroup?_of_parse`), although parts are put together in
other ways than they are written: the parts with which all alternatives begin are taken out, but no
group is among these. The reader has parts of the pattern in its open groups, and all of them
together are in order (`Reader.Numbered`).
-/

namespace SolidityLint

-- ---------------------------------------------------------------------------
-- Parts
-- ---------------------------------------------------------------------------

namespace Part

def last? (parts : List Part) (n : Nat) : Option Nat := (sequence parts).lastGroup? n

theorem last?_cons (part : Part) (parts : List Part) (n : Nat) :
    last? (part :: parts) n = (part.pattern.lastGroup? n).bind (last? parts) := rfl

theorem last?_singleton (part : Part) (n : Nat) : last? [part] n = part.pattern.lastGroup? n := by
  rw [last?_cons]
  cases part.pattern.lastGroup? n <;> rfl

theorem last?_append (first second : List Part) (n : Nat) :
    last? (first ++ second) n = (last? first n).bind (last? second) := by
  induction first generalizing n with
  | nil => rfl
  | cons part parts ih =>
    rw [List.cons_append, last?_cons, last?_cons, Option.bind_assoc]
    exact congrArg _ (funext ih)

theorem lastGroup?_of_isSame {one other : Part} (h : one.isSame other = true) (n : Nat) :
    other.pattern.lastGroup? n = some n := by
  unfold isSame at h
  split at h
  · rename_i set hone
    rw [← eq_of_beq h, hone]
    rfl
  · rename_i anchor hone
    rw [← eq_of_beq h, hone]
    rfl
  · rename_i index ignoreCase ascii hone
    rw [← eq_of_beq h, hone]
    rfl
  · cases h

theorem last?_tails {part : Part} {others : List (List Part)}
    (h : others.all (·.head?.any part.isSame) = true) (n : Nat) :
    last? (others.map List.tail).flatten n = last? others.flatten n := by
  induction others generalizing n with
  | nil => rfl
  | cons parts others ih =>
    obtain ⟨hhead, hothers⟩ := Bool.and_eq_true_iff.mp h
    cases parts with
    | nil => cases hhead
    | cons other parts =>
      have hfirst : last? (other :: parts) n = last? parts n := by
        rw [last?_cons, lastGroup?_of_isSame hhead]
        rfl
      rw [List.map_cons, List.flatten_cons, List.flatten_cons, last?_append, last?_append, hfirst]
      exact congrArg _ (funext (ih hothers))

/-- What is taken out in front of alternatives has no groups. -/
theorem last?_factor (first : List Part) (others : List (List Part)) (n : Nat) :
    last? ((factor first others).1 ++ (factor first others).2.flatten) n =
      last? (first ++ others.flatten) n := by
  induction first generalizing others n with
  | nil => rfl
  | cons part rest ih =>
    unfold factor
    split
    · rename_i hsame
      rw [List.cons_append, List.cons_append, last?_cons, last?_cons]
      refine congrArg _ (funext fun k => ?_)
      rw [ih, last?_append, last?_append]
      exact congrArg _ (funext (last?_tails hsame))
    · rfl

theorem lastGroup?_choice (alternatives : List (List Part)) (n : Nat) :
    (choice alternatives).lastGroup? n = last? alternatives.flatten n := by
  induction alternatives generalizing n with
  | nil => rfl
  | cons parts rest ih =>
    cases rest with
    | nil =>
      rw [List.flatten_singleton]
      rfl
    | cons next rest =>
      rw [List.flatten_cons, last?_append]
      exact congrArg _ (funext ih)

theorem last?_of_mapM_member? {alternatives : List (List Part)} {sets : List CharSet}
    (h : alternatives.mapM member? = some sets) (n : Nat) :
    last? alternatives.flatten n = some n := by
  induction alternatives generalizing sets with
  | nil => rfl
  | cons parts rest ih =>
    simp only [List.mapM_cons, Option.bind_eq_bind, Option.bind_eq_some_iff] at h
    obtain ⟨set, hset, more, hmore, -⟩ := h
    have hparts : last? parts n = some n := by
      unfold member? at hset
      split at hset
      · rfl
      · cases hset
    rw [List.flatten_cons, last?_append, hparts]
    exact ih hmore

theorem last?_of_union? {alternatives : List (List Part)} {set : CharSet}
    (h : union? alternatives = some set) (n : Nat) : last? alternatives.flatten n = some n := by
  obtain ⟨sets, hsets, -⟩ := Option.bind_eq_some_iff.mp h
  exact last?_of_mapM_member? hsets n

theorem last?_alternatives (alternatives : List (List Part)) (n : Nat) :
    last? (Part.alternatives alternatives) n = last? alternatives.flatten n := by
  cases alternatives with
  | nil => rfl
  | cons first others =>
    cases others with
    | nil =>
      rw [List.flatten_singleton]
      rfl
    | cons second others =>
      rw [List.flatten_cons, ← last?_factor]
      unfold Part.alternatives
      dsimp only
      split
      · rename_i set hset
        rw [last?_append, last?_append]
        exact congrArg _ (funext fun k => (last?_of_union? hset k).symm)
      · rw [last?_append, last?_append]
        refine congrArg _ (funext fun k => ?_)
        rw [last?_singleton]
        exact lastGroup?_choice _ k

end Part

-- ---------------------------------------------------------------------------
-- Open groups
-- ---------------------------------------------------------------------------

namespace PatternReader

def levelParts (alternatives : List (List Part)) (pieces : List Piece) : List Part :=
  (pieces.reverse.flatMap Piece.parts :: alternatives).reverse.flatten

theorem levelParts_cons (alternatives : List (List Part)) (piece : Piece) (pieces : List Piece) :
    levelParts alternatives (piece :: pieces) = levelParts alternatives pieces ++ piece.parts := by
  simp [levelParts]

theorem levelParts_bar (alternatives : List (List Part)) (pieces : List Piece) :
    levelParts (pieces.reverse.flatMap Piece.parts :: alternatives) [] =
      levelParts alternatives pieces := by
  simp [levelParts]

def Opener.Leads (m k : Nat) : Opener → Prop
  | .capture index => index = m + 1 ∧ k = m + 1
  | _ => k = m

def Permits (alternatives : List (List Part)) : List Frame → Prop
  | ⟨.given _, _, _, _⟩ :: _ => alternatives.length ≤ 1
  | _ => True

/-- The groups of what was read before the innermost open group are in order, and `n` in number. -/
inductive Stacked : List Frame → Nat → Prop
  | bottom : Stacked [] 0
  | frame {frame : Frame} {frames : List Frame} {n m k : Nat} : Stacked frames n →
      Part.last? (levelParts frame.alternatives frame.pieces) n = some m →
      Permits frame.alternatives frames → frame.opener.Leads m k → Stacked (frame :: frames) k

/-- The groups of all that was read are in order, and the next one goes on with them. -/
structure Reader.Numbered (reader : Reader) : Prop where
  permits : Permits reader.alternatives reader.frames
  numbered : ∃ n m, Stacked reader.frames n ∧
    Part.last? (levelParts reader.alternatives reader.pieces) n = some m ∧
    reader.nextGroup = m + 1

variable {reader next : Reader} {piece : Piece} {rest rest' : List Symbol}

theorem permits_nil (frames : List Frame) : Permits [] frames := by
  unfold Permits
  split
  · exact Nat.zero_le 1
  · trivial

theorem Reader.numbered_start : Reader.Numbered {} :=
  ⟨trivial, 0, 0, .bottom, rfl, rfl⟩

def Piece.IsGroupless (piece : Piece) : Prop := ∀ n, Part.last? piece.parts n = some n

theorem Reader.Numbered.push (h : reader.Numbered) (hp : piece.IsGroupless) :
    (reader.push piece).Numbered := by
  obtain ⟨hpermits, n, m, hstack, hlast, hnext⟩ := h
  refine ⟨hpermits, n, m, hstack, ?_, hnext⟩
  rw [Reader.push, levelParts_cons, Part.last?_append, hlast]
  exact hp m

theorem Reader.Numbered.repeatLast {low : Nat} {high : Option Nat} (h : reader.Numbered)
    (hr : reader.repeatLast low high rest = .ok (next, rest')) : next.Numbered := by
  obtain ⟨hpermits, n, m, hstack, hlast, hnext⟩ := h
  unfold Reader.repeatLast at hr
  split at hr
  · cases hr
  · cases hr
  · rename_i piece pieces _ hpieces
    cases hr
    refine ⟨hpermits, n, m, hstack, ?_, hnext⟩
    rw [hpieces, levelParts_cons, Part.last?_append] at hlast
    rw [levelParts_cons, Part.last?_append]
    refine (congrArg _ (funext fun k => ?_)).trans hlast
    exact Part.last?_singleton _ k

theorem Reader.Numbered.enter {opener : Opener} {flags : Flags} (h : reader.Numbered)
    (ho : ∀ m, opener.Leads m m) : (reader.enter opener flags).Numbered := by
  obtain ⟨hpermits, n, m, hstack, hlast, hnext⟩ := h
  exact ⟨permits_nil _, m, m, .frame hstack hlast hpermits (ho m), rfl, hnext⟩

theorem Reader.Numbered.capture (h : reader.Numbered) : reader.capture.Numbered := by
  obtain ⟨hpermits, n, m, hstack, hlast, hnext⟩ := h
  refine ⟨permits_nil _, m + 1, m + 1, .frame hstack hlast hpermits ⟨hnext, rfl⟩, rfl, ?_⟩
  exact congrArg (· + 1) hnext

theorem Reader.Numbered.readBar (h : reader.Numbered) (hr : reader.readBar = .ok next) :
    next.Numbered := by
  obtain ⟨-, n, m, hstack, hlast, hnext⟩ := h
  have hnumbered : ∃ n m, Stacked reader.frames n ∧
      Part.last? (levelParts (reader.parts :: reader.alternatives) []) n = some m ∧
      reader.nextGroup = m + 1 :=
    ⟨n, m, hstack, (congrArg (Part.last? · n) (levelParts_bar _ _)).trans hlast, hnext⟩
  unfold Reader.readBar at hr
  dsimp only at hr
  split at hr
  · rename_i hframes
    split at hr
    · rename_i hempty
      cases hr
      refine ⟨?_, hnumbered⟩
      rw [List.isEmpty_iff.mp hempty, hframes]
      exact Nat.le_refl 1
    · cases hr
  · rename_i hframes
    cases hr
    refine ⟨?_, hnumbered⟩
    unfold Permits
    split
    · rename_i heq
      exact absurd heq (hframes _ _ _ _ _)
    · trivial

theorem Reader.Numbered.close {frame : Frame} {frames : List Frame} (h : reader.Numbered)
    (hf : reader.frames = frame :: frames) : (reader.close frame frames).Numbered := by
  obtain ⟨hpermits, k, last, hstack, hlast, hnext⟩ := h
  rw [hf] at hstack hpermits
  cases hstack with
  | @frame _ _ n m _ hbelow hbefore hallowed hleads =>
  have hbody : Part.last? reader.body k = some last :=
    (Part.last?_alternatives _ k).trans hlast
  have hpiece (piece : Piece) (hp : Part.last? piece.parts m = some last) :
      Part.last? (levelParts frame.alternatives (piece :: frame.pieces)) n = some last := by
    rw [levelParts_cons, Part.last?_append, hbefore]
    exact hp
  have hpattern (pattern : Pattern) (hp : pattern.lastGroup? m = some last) :
      Part.last? (levelParts frame.alternatives (.of pattern :: frame.pieces)) n = some last :=
    hpiece _ ((Part.last?_singleton _ m).trans hp)
  unfold Reader.close
  dsimp only
  split
  · rename_i hopener
    rw [hopener] at hleads
    obtain ⟨rfl, rfl⟩ := hleads
    exact ⟨hallowed, n, last, hbelow, hpattern _ ((if_pos rfl).trans hbody), hnext⟩
  · rename_i hopener
    rw [hopener] at hleads
    cases hleads
    exact ⟨hallowed, n, last, hbelow, hpiece (.block _) hbody, hnext⟩
  · rename_i hopener
    rw [hopener] at hleads
    cases hleads
    exact ⟨hallowed, n, last, hbelow, hpattern (.scoped _) hbody, hnext⟩
  · rename_i hopener
    rw [hopener] at hleads
    cases hleads
    exact ⟨hallowed, n, last, hbelow, hpattern (.atomic _) hbody, hnext⟩
  · rename_i hopener
    rw [hopener] at hleads
    cases hleads
    exact ⟨hallowed, n, last, hbelow, hpattern (.look _ _ _) hbody, hnext⟩
  · rename_i hopener
    rw [hopener] at hleads
    cases hleads
    exact ⟨hallowed, n, last, hbelow, hpattern (.look _ _ _) hbody, hnext⟩
  · rename_i index hopener
    rw [hopener] at hleads
    cases hleads
    have hshort : reader.alternatives.length ≤ 1 := by
      unfold Permits at hpermits
      split at hpermits
      · exact hpermits
      · rename_i hother
        exact absurd (congrArg (· :: frames) (show frame = ⟨.given index, frame.flags, _, _⟩ by
          rw [← hopener])) (hother _ _ _ _ _)
    split
    · rename_i yes others halternatives
      have hnone : others = [] := by
        rw [halternatives] at hshort
        simpa using hshort
      have hparts : levelParts reader.alternatives reader.pieces = yes ++ reader.parts := by
        simp [levelParts, Reader.parts, halternatives, hnone]
      rw [hparts, Part.last?_append] at hlast
      exact ⟨hallowed, n, last, hbelow, hpattern (.given _ _ _) hlast, hnext⟩
    · rename_i halternatives
      have hparts : levelParts reader.alternatives reader.pieces = reader.parts := by
        simp [levelParts, Reader.parts, halternatives]
      rw [hparts] at hlast
      refine ⟨hallowed, n, last, hbelow, hpattern (.given _ _ _) ?_, hnext⟩
      exact (congrArg (Option.bind · Pattern.empty.lastGroup?) hlast)

-- ---------------------------------------------------------------------------
-- Steps
-- ---------------------------------------------------------------------------

theorem isGroupless_of_refer {index : Nat} (h : reader.refer index = .ok piece) :
    piece.IsGroupless := by
  unfold Reader.refer at h
  split at h
  · cases h
    exact fun _ => rfl
  · cases h

theorem isGroupless_of_readDigitEscape {c : Char}
    (h : reader.readDigitEscape c rest = .ok (piece, rest')) : piece.IsGroupless := by
  have hrefer {index : Nat} {more : List Symbol}
      (hr : (do return (← reader.refer index, more)) = .ok (piece, rest')) :
      piece.IsGroupless := by
    obtain ⟨read, hread, hpiece⟩ := bind_ok.mp hr
    cases hpiece
    exact isGroupless_of_refer hread
  unfold Reader.readDigitEscape at h
  dsimp only at h
  split at h
  · split at h
    · split at h
      · split at h
        · split at h
          · cases h
            exact fun _ => rfl
          · cases h
        · exact hrefer h
      · exact hrefer h
    · exact hrefer h
  · exact hrefer h

theorem isGroupless_of_readEscape {c : Char}
    (h : reader.readEscape c rest = .ok (piece, rest')) : piece.IsGroupless := by
  unfold Reader.readEscape at h
  split at h
  · cases h
    exact fun _ => rfl
  · cases h
    exact fun _ => rfl
  · cases h
    exact fun _ => rfl
  · split at h
    · cases h
      exact fun _ => rfl
    · split at h
      · exact isGroupless_of_readDigitEscape h
      · obtain ⟨⟨code, more⟩, -, hpiece⟩ := bind_ok.mp h
        cases hpiece
        exact fun _ => rfl

theorem Reader.Numbered.readBraces (h : reader.Numbered)
    (hr : reader.readBraces rest = .ok (next, rest')) : next.Numbered := by
  unfold Reader.readBraces at hr
  split at hr
  · cases hr
    exact h.push fun _ => rfl
  · cases hr
  · obtain ⟨⟨least, most⟩, -, hlast⟩ := bind_ok.mp hr
    exact h.repeatLast hlast

theorem Reader.Numbered.captureNamed {name : List Char} (h : reader.Numbered)
    (hr : reader.captureNamed name = .ok next) : next.Numbered := by
  unfold Reader.captureNamed at hr
  split at hr
  · cases hr
  · cases hr
    exact ⟨h.capture.permits, h.capture.numbered⟩

theorem Reader.Numbered.enterLookBehind (h : reader.Numbered) (negated : Bool) :
    (reader.enterLookBehind negated).Numbered := by
  have hinner : (reader.enter (.lookBehind negated reader.referable) reader.flags).Numbered :=
    h.enter fun _ => rfl
  exact ⟨hinner.permits, hinner.numbered⟩

theorem Reader.Numbered.readCondition (h : reader.Numbered)
    (hr : reader.readCondition rest = .ok (next, rest')) : next.Numbered := by
  unfold Reader.readCondition at hr
  obtain ⟨⟨text, more⟩, -, hr⟩ := bind_ok.mp hr
  obtain ⟨index, -, hr⟩ := bind_ok.mp hr
  split at hr
  · cases hr
    have hinner : (reader.enter (.given index) reader.flags).Numbered := h.enter fun _ => rfl
    exact ⟨hinner.permits, hinner.numbered⟩
  · cases hr

theorem Reader.Numbered.readFlags (h : reader.Numbered)
    (hr : reader.readFlags rest = .ok (next, rest')) : next.Numbered := by
  unfold Reader.readFlags at hr
  dsimp only at hr
  split at hr
  · cases hr
  · split at hr
    · split at hr
      · cases hr
        exact ⟨h.permits, h.numbered⟩
      · cases hr
    · split at hr
      · cases hr
      · cases hr
        exact h.enter fun _ => rfl
    · split at hr
      · split at hr
        · cases hr
        · cases hr
          exact h.enter fun _ => rfl
      · cases hr
    · cases hr

theorem Reader.Numbered.readExtension (h : reader.Numbered)
    (hr : reader.readExtension rest = .ok (next, rest')) : next.Numbered := by
  unfold Reader.readExtension at hr
  split at hr
  · obtain ⟨⟨name, more⟩, -, hr⟩ := bind_ok.mp hr
    obtain ⟨named, hnamed, hr⟩ := bind_ok.mp hr
    cases hr
    exact h.captureNamed hnamed
  · obtain ⟨⟨name, more⟩, -, hr⟩ := bind_ok.mp hr
    dsimp only at hr
    split at hr
    · obtain ⟨piece, hpiece, hr⟩ := bind_ok.mp hr
      cases hr
      exact h.push (isGroupless_of_refer hpiece)
    · cases hr
  · cases hr
    exact h.enter fun _ => rfl
  · obtain ⟨more, -, hr⟩ := bind_ok.mp hr
    cases hr
    exact h
  · cases hr
    exact h.enter fun _ => rfl
  · cases hr
    exact h.enter fun _ => rfl
  · cases hr
    exact h.enterLookBehind false
  · cases hr
    exact h.enterLookBehind true
  · exact h.readCondition hr
  · cases hr
    exact h.enter fun _ => rfl
  · exact h.readFlags hr

theorem Reader.Numbered.readPlain {c : Char} (h : reader.Numbered)
    (hr : reader.readPlain c rest = .ok (next, rest')) : next.Numbered := by
  unfold Reader.readPlain at hr
  split at hr
  · dsimp only at hr
    obtain ⟨⟨items, more⟩, -, hr⟩ := bind_ok.mp hr
    cases hr
    exact h.push fun _ => rfl
  · exact h.repeatLast hr
  · exact h.repeatLast hr
  · exact h.repeatLast hr
  · exact h.readBraces hr
  · cases hr
    exact h.push fun _ => rfl
  · cases hr
    exact h.push fun _ => rfl
  · cases hr
    exact h.push fun _ => rfl
  · split at hr
    · exact h.readExtension hr
    · cases hr
      exact h.capture
  · cases hr
    exact h.push fun _ => rfl

theorem Reader.Numbered.step {symbol : Symbol} (h : reader.Numbered)
    (hr : reader.step symbol rest = .ok (next, rest')) : next.Numbered := by
  unfold Reader.step at hr
  split at hr
  · cases hr
  · obtain ⟨⟨piece, more⟩, hpiece, hr⟩ := bind_ok.mp hr
    cases hr
    exact h.push (isGroupless_of_readEscape hpiece)
  · obtain ⟨bar, hbar, hr⟩ := bind_ok.mp hr
    cases hr
    exact h.readBar hbar
  · split at hr
    · obtain ⟨-, -, hr⟩ := bind_ok.mp hr
      cases hr
    · rename_i frame frames hframes
      cases hr
      exact h.close hframes
  · split at hr
    · cases hr
      exact h
    · split at hr
      · cases hr
        exact h
      · exact h.readPlain hr

theorem Reader.Numbered.finish {expression : Expression} (h : reader.Numbered)
    (hr : reader.finish = .ok expression) : (expression.pattern.lastGroup? 0).isSome = true := by
  obtain ⟨-, n, m, hstack, hlast, -⟩ := h
  unfold Reader.finish at hr
  dsimp only at hr
  split at hr
  · cases hr
  · rename_i hclosed
    obtain ⟨-, -, hr⟩ := bind_ok.mp hr
    split at hr
    · cases hr
    · split at hr
      · cases hr
      · split at hr
        · cases hr
        · cases hr
          have hnone : reader.frames = [] := by simpa using hclosed
          rw [hnone] at hstack
          cases hstack
          have hbody : Part.last? reader.body 0 = some m :=
            (Part.last?_alternatives _ 0).trans hlast
          exact Option.isSome_iff_exists.mpr ⟨m, hbody⟩

theorem Reader.Numbered.run {fuel : Nat} {input : List Symbol} {expression : Expression}
    (h : reader.Numbered) (hr : PatternReader.run fuel reader input = .ok expression) :
    (expression.pattern.lastGroup? 0).isSome = true := by
  induction fuel generalizing reader input with
  | zero =>
    cases input with
    | nil => exact h.finish hr
    | cons symbol rest => cases hr
  | succ fuel ih =>
    cases input with
    | nil => exact h.finish hr
    | cons symbol rest =>
      obtain ⟨⟨next, more⟩, hstep, hrun⟩ := bind_ok.mp hr
      exact ih (h.step hstep) hrun

end PatternReader

/-- The groups of a pattern that was read are numbered in the order in which they are opened. -/
theorem Expression.lastGroup?_of_parse {text : List Char} {expression : Expression}
    (h : Expression.parse text = .ok expression) :
    (expression.pattern.lastGroup? 0).isSome = true :=
  PatternReader.Reader.numbered_start.run h

end SolidityLint
