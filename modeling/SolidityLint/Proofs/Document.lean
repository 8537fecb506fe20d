import SolidityLint.Document

/-!
# Texts and their lines

Lines hold no line feed, and any lines without one, if there are some, are the lines of a text
(`splitLines_joinLines`). Lines are parts of their text, and what stands in a text without a line
end stands in one of its lines (`exists_mem_splitLines`), at the row and the column that the text
before it says (`charAt?_placeAfter`).
-/

namespace SolidityLint

inductive LineEnd
  | feed
  | returnFeed
  deriving DecidableEq, Repr

def LineEnd.text : LineEnd → List Char
  | .feed => ['\n']
  | .returnFeed => ['\r', '\n']

/-- Lines with line ends between them, of which the first one is `ends 0`. -/
def joinLines (ends : Nat → LineEnd) : List Line → List Char
  | [] => []
  | [line] => line
  | line :: lines => line ++ ((ends 0).text ++ joinLines (fun k => ends (k + 1)) lines)

-- ---------------------------------------------------------------------------
-- Lines of joined lines
-- ---------------------------------------------------------------------------

variable {line : Line} {lines : List Line} {text : List Char}

theorem splitLines_cons {x : Char} {rest first : List Char} {more : List Line} (hx : x ≠ '\n')
    (hr : x = '\r' → rest.head? ≠ some '\n') (h : splitLines rest = first :: more) :
    splitLines (x :: rest) = (x :: first) :: more := by
  unfold splitLines
  split
  · contradiction
  · rename_i he
    exact absurd (List.cons.inj he).1 hx
  · rename_i he
    obtain ⟨rfl, rfl⟩ := List.cons.inj he
    exact absurd rfl (hr rfl)
  · rename_i he
    obtain ⟨rfl, rfl⟩ := List.cons.inj he
    rw [h]

/-- What stands before the end of a line belongs to the line, but for a carriage return that is
part of the end. -/
theorem splitLines_append {rest : List Char} {more : List Line} (h : '\n' ∉ line)
    (hr : line.getLast? = some '\r' → rest.head? ≠ some '\n')
    (hs : splitLines rest = [] :: more) : splitLines (line ++ rest) = line :: more := by
  induction line with
  | nil => exact hs
  | cons x line ih =>
    simp only [List.mem_cons, not_or] at h
    cases line with
    | nil =>
      refine splitLines_cons (Ne.symm h.1) ?_ hs
      rintro rfl
      exact hr rfl
    | cons y line =>
      have hrest : splitLines (y :: line ++ rest) = (y :: line) :: more := by
        refine ih h.2 fun hlast => hr ?_
        rwa [List.getLast?_cons_cons]
      refine splitLines_cons (Ne.symm h.1) (fun _ he => ?_) hrest
      cases he
      exact h.2 List.mem_cons_self

theorem splitLines_lineEnd (stop : LineEnd) (rest : List Char) :
    splitLines (stop.text ++ rest) = [] :: splitLines rest := by
  cases stop with
  | feed => rfl
  | returnFeed => rfl

/-- A line may end with a carriage return if the line end behind it has one of its own. -/
theorem splitLines_joinLines {ends : Nat → LineEnd} (hne : lines ≠ [])
    (h : ∀ line ∈ lines, '\n' ∉ line)
    (hr : ∀ k line, lines[k]? = some line → ends k = .feed → line.getLast? ≠ some '\r') :
    splitLines (joinLines ends lines) = lines := by
  induction lines generalizing ends with
  | nil => exact absurd rfl hne
  | cons line lines ih =>
    have hline := h line List.mem_cons_self
    cases lines with
    | nil =>
      have hlast := splitLines_append hline (fun _ => by decide) (rfl : splitLines [] = [[]])
      rwa [List.append_nil] at hlast
    | cons next lines =>
      have hlater : splitLines (joinLines (fun k => ends (k + 1)) (next :: lines)) =
          next :: lines := by
        refine ih (List.cons_ne_nil _ _) (fun other ho => h other (List.mem_cons_of_mem _ ho)) ?_
        exact fun k other hk => hr (k + 1) other hk
      refine splitLines_append hline (fun hlast => ?_) ?_
      · cases hstop : ends 0 with
        | feed => exact absurd hlast (hr 0 line rfl hstop)
        | returnFeed => simp [LineEnd.text]
      · rw [splitLines_lineEnd, hlater]

-- ---------------------------------------------------------------------------
-- Lines are parts of their text
-- ---------------------------------------------------------------------------

theorem position?_of_lt {length row : Nat} (h : row < length) :
    position? length row = some row := by
  simp [position?, h]

theorem splitLines_ne_nil (text : List Char) : splitLines text ≠ [] := by
  fun_induction splitLines text <;> simp

theorem not_mem_splitLines (h : line ∈ splitLines text) : '\n' ∉ line := by
  fun_induction splitLines text generalizing line with
  | case1 =>
    rcases List.mem_singleton.mp h with rfl
    exact List.not_mem_nil
  | case2 rest ih | case3 rest ih =>
    rcases List.mem_cons.mp h with rfl | h
    · exact List.not_mem_nil
    · exact ih h
  | case4 x rest hx _ hrest => exact absurd hrest (splitLines_ne_nil rest)
  | case5 x rest hx _ first more hrest ih =>
    rcases List.mem_cons.mp h with rfl | h
    · have hfirst : '\n' ∉ first := ih (hrest ▸ List.mem_cons_self)
      simp only [List.mem_cons, not_or]
      exact ⟨fun he => hx he.symm, hfirst⟩
    · exact ih (hrest ▸ List.mem_cons_of_mem _ h)

section
variable {first word : List Char} {more : List Line}

theorem prefix_of_splitLines (h : splitLines text = first :: more) : first <+: text := by
  fun_induction splitLines text generalizing first more with
  | case1 | case2 | case3 =>
    cases h
    exact List.nil_prefix
  | case4 x rest _ _ hrest => exact absurd hrest (splitLines_ne_nil rest)
  | case5 x rest _ _ line lines hrest ih =>
    cases h
    exact (List.prefix_cons_inj x).mpr (ih hrest)

theorem infix_of_mem_splitLines (h : line ∈ splitLines text) : line <:+: text := by
  fun_induction splitLines text generalizing line with
  | case1 =>
    rcases List.mem_singleton.mp h with rfl
    exact List.nil_infix
  | case2 rest ih =>
    rcases List.mem_cons.mp h with rfl | h
    · exact List.nil_infix
    · exact List.infix_cons (ih h)
  | case3 rest ih =>
    rcases List.mem_cons.mp h with rfl | h
    · exact List.nil_infix
    · exact List.infix_cons (List.infix_cons (ih h))
  | case4 x rest _ _ hrest => exact absurd hrest (splitLines_ne_nil rest)
  | case5 x rest _ _ first more hrest ih =>
    rcases List.mem_cons.mp h with rfl | h
    · exact ((List.prefix_cons_inj x).mpr (prefix_of_splitLines hrest)).isInfix
    · exact List.infix_cons (ih (hrest ▸ List.mem_cons_of_mem _ h))

theorem prefix_splitLines (hn : '\n' ∉ word) (hr : word.getLast? ≠ some '\r')
    (hw : word <+: text) (h : splitLines text = first :: more) : word <+: first := by
  fun_induction splitLines text generalizing word first more with
  | case1 =>
    rw [List.prefix_nil.mp hw]
    exact List.nil_prefix
  | case2 rest ih =>
    cases word with
    | nil => exact List.nil_prefix
    | cons x word =>
      rw [(List.cons_prefix_cons.mp hw).1] at hn
      exact absurd List.mem_cons_self hn
  | case3 rest ih =>
    match word with
    | [] => exact List.nil_prefix
    | [x] =>
      rw [(List.cons_prefix_cons.mp hw).1] at hr
      exact absurd rfl hr
    | x :: y :: word =>
      have hy := (List.cons_prefix_cons.mp (List.cons_prefix_cons.mp hw).2).1
      rw [hy] at hn
      exact absurd (List.mem_cons_of_mem _ List.mem_cons_self) hn
  | case4 x rest _ _ hrest => exact absurd hrest (splitLines_ne_nil rest)
  | case5 x rest _ _ line lines hrest ih =>
    cases h
    cases word with
    | nil => exact List.nil_prefix
    | cons y word =>
      obtain ⟨rfl, hword⟩ := List.cons_prefix_cons.mp hw
      refine (List.prefix_cons_inj y).mpr ?_
      cases word with
      | nil => exact List.nil_prefix
      | cons z word =>
        rw [List.getLast?_cons_cons] at hr
        exact ih (fun hm => hn (List.mem_cons_of_mem _ hm)) hr hword hrest

theorem exists_infix_splitLines_cons (x : Char) (h : line ∈ splitLines text) :
    ∃ other ∈ splitLines (x :: text), line <:+: other := by
  by_cases hx : x = '\n'
  · subst hx
    exact ⟨line, List.mem_cons_of_mem _ h, List.infix_rfl⟩
  · by_cases hr : x = '\r' → text.head? ≠ some '\n'
    · obtain ⟨first, more, hsplit⟩ := List.exists_cons_of_ne_nil (splitLines_ne_nil text)
      rw [splitLines_cons hx hr hsplit]
      rcases List.mem_cons.mp (hsplit ▸ h) with rfl | h
      · exact ⟨x :: line, List.mem_cons_self, List.infix_cons List.infix_rfl⟩
      · exact ⟨line, List.mem_cons_of_mem _ h, List.infix_rfl⟩
    · simp only [Classical.not_imp, ne_eq, Decidable.not_not] at hr
      obtain ⟨rfl, hhead⟩ := hr
      obtain ⟨rest, rfl⟩ := List.head?_eq_some_iff.mp hhead
      exact ⟨line, h, List.infix_rfl⟩

theorem exists_mem_splitLines (hn : '\n' ∉ word) (hr : word.getLast? ≠ some '\r')
    (hw : word <:+: text) : ∃ line ∈ splitLines text, word <:+: line := by
  induction text with
  | nil => exact ⟨[], List.mem_singleton_self _, hw⟩
  | cons x rest ih =>
    obtain ⟨first, more, hsplit⟩ := List.exists_cons_of_ne_nil (splitLines_ne_nil (x :: rest))
    rcases List.infix_cons_iff.mp hw with hw | hw
    · refine ⟨first, hsplit ▸ List.mem_cons_self, ?_⟩
      exact (prefix_splitLines hn hr hw hsplit).isInfix
    · obtain ⟨line, hl, hword⟩ := ih hw
      obtain ⟨other, ho, hline⟩ := exists_infix_splitLines_cons x hl
      exact ⟨other, ho, hword.trans hline⟩

end

-- ---------------------------------------------------------------------------
-- Places of characters
-- ---------------------------------------------------------------------------

/-- The row and the column of what comes behind a front of a text: so many line feeds are before it,
and so many characters since the last of them. -/
def placeAfter (front : List Char) : Nat × Nat :=
  (front.count '\n', (front.reverse.takeWhile (· != '\n')).length)

def charAt? (lines : List Line) (place : Nat × Nat) : Option Char :=
  lines[place.1]?.bind (·[place.2]?)

theorem placeAfter_feed (front : List Char) :
    placeAfter (front ++ ['\n']) = ((placeAfter front).1 + 1, 0) := by
  simp [placeAfter]

theorem placeAfter_append {back : List Char} (front : List Char) (h : '\n' ∉ back) :
    placeAfter (front ++ back) = ((placeAfter front).1, (placeAfter front).2 + back.length) := by
  have hall : ∀ c ∈ back.reverse, (c != '\n') = true := by
    intro c hc
    rw [bne_iff_ne]
    rintro rfl
    exact h (List.mem_reverse.mp hc)
  rw [placeAfter, List.count_append, List.count_eq_zero.mpr h, List.reverse_append,
    List.takeWhile_append_of_pos hall, List.length_append, List.length_reverse, Nat.add_zero,
    Nat.add_comm back.length]
  rfl

theorem eq_nil_of_placeAfter_append_eq {front back : List Char}
    (h : placeAfter (front ++ back) = placeAfter front) : back = [] := by
  have hnone : '\n' ∉ back := by
    intro hm
    have hpos := List.count_pos_iff.mpr hm
    have hrow : (front ++ back).count '\n' = front.count '\n' := congrArg Prod.fst h
    rw [List.count_append] at hrow
    omega
  rw [placeAfter_append front hnone] at h
  have hcolumn : (placeAfter front).2 + back.length = (placeAfter front).2 := congrArg Prod.snd h
  exact List.length_eq_zero_iff.mp (by omega)

theorem eq_of_placeAfter_eq {front other : List Char} (hf : front <+: text)
    (ho : other <+: text) (h : placeAfter front = placeAfter other) : front = other := by
  rcases List.prefix_or_prefix_of_prefix hf ho with ⟨more, rfl⟩ | ⟨more, rfl⟩
  · rw [eq_nil_of_placeAfter_append_eq h.symm, List.append_nil]
  · rw [eq_nil_of_placeAfter_append_eq h, List.append_nil]

theorem exists_splitLines_append_feed (front rest : List Char) :
    ∃ lines : List Line, splitLines (front ++ '\n' :: rest) = lines ++ splitLines rest ∧
      lines.length = front.count '\n' + 1 := by
  fun_induction splitLines front with
  | case1 => exact ⟨[[]], rfl, rfl⟩
  | case2 front ih | case3 front ih =>
    obtain ⟨lines, hs, hl⟩ := ih
    refine ⟨[] :: lines, congrArg (List.cons []) hs, ?_⟩
    simp [hl]
  | case4 x front _ _ hfront => exact absurd hfront (splitLines_ne_nil front)
  | case5 x front hx hr first more hfront ih =>
    have hcount : (x :: front).count '\n' = front.count '\n' := List.count_cons_of_ne hx
    -- A carriage return at the end of the front belongs to the line end.
    by_cases hreturn : x = '\r' ∧ front = []
    · obtain ⟨rfl, rfl⟩ := hreturn
      exact ⟨[[]], rfl, rfl⟩
    · obtain ⟨lines, hs, hl⟩ := ih
      obtain ⟨line, lines, rfl⟩ := List.exists_cons_of_length_eq_add_one hl
      refine ⟨(x :: line) :: lines, ?_, hcount ▸ hl⟩
      refine splitLines_cons hx (fun he hhead => ?_) hs
      cases front with
      | nil => exact hreturn ⟨he, rfl⟩
      | cons y front =>
        cases hhead
        exact hr front he rfl

theorem charAt?_of_not_mem {c : Char} {front : List Char} (hn : c ≠ '\n') (hr : c ≠ '\r')
    (hf : '\n' ∉ front) (back : List Char) :
    charAt? (splitLines (front ++ c :: back)) (0, front.length) = some c := by
  obtain ⟨first, more, hs⟩ := List.exists_cons_of_ne_nil (splitLines_ne_nil (front ++ c :: back))
  have hword : '\n' ∉ front ++ [c] := by simp [hf, hn.symm]
  have hlast : (front ++ [c]).getLast? ≠ some '\r' := by simp [hr]
  obtain ⟨rest, rfl⟩ := prefix_splitLines hword hlast ⟨back, List.append_assoc _ _ _⟩ hs
  simp [charAt?, hs]

theorem charAt?_placeAfter {c : Char} (hn : c ≠ '\n') (hr : c ≠ '\r') (front back : List Char) :
    charAt? (splitLines (front ++ c :: back)) (placeAfter front) = some c := by
  by_cases hm : '\n' ∈ front
  · obtain ⟨inner, before, hfront, hinner⟩ := List.eq_append_cons_of_mem (List.mem_reverse.mpr hm)
    obtain rfl : front = before.reverse ++ ['\n'] ++ inner.reverse := by
      rw [← List.reverse_reverse front, hfront]
      simp
    have hinner : '\n' ∉ inner.reverse := fun hx => hinner (List.mem_reverse.mp hx)
    obtain ⟨lines, hs, hl⟩ :=
      exists_splitLines_append_feed before.reverse (inner.reverse ++ c :: back)
    have hrow : (placeAfter before.reverse).1 + 1 = lines.length := hl.symm
    rw [placeAfter_append _ hinner, placeAfter_feed, List.append_assoc, List.append_assoc,
      List.singleton_append, hs, hrow, Nat.zero_add, charAt?,
      List.getElem?_append_right (Nat.le_refl _), Nat.sub_self]
    exact charAt?_of_not_mem hn hr hinner back
  · have hplace : placeAfter front = (0, front.length) := by
      have h := placeAfter_append [] hm
      simpa [placeAfter] using h
    rw [hplace]
    exact charAt?_of_not_mem hn hr hm back

end SolidityLint
