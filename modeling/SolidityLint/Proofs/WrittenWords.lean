import SolidityLint.Proofs.Marks
import SolidityLint.Proofs.Pattern.Complete
import SolidityLint.Proofs.Pattern.Crossing

/-!
# Words as written patterns

A word is written as a pattern with a boundary on both sides and a backslash before every character
that could mean something else. Whatever the word is, this can be read (`parse_writtenWord`), and a
search by what was read finds what a search for the whole word finds, and never fails
(`search_wordExpression`).
-/

namespace SolidityLint

open Pattern PatternReader

/-- Characters that are written with a backslash to stand for themselves. -/
def specialCharacters : List Char :=
  ['(', ')', '[', ']', '{', '}', '?', '*', '+', '-', '|', '^', '$', '\\', '.', '&', '~', '#', ' ',
    '\t', '\n', '\r', '\x0b', '\x0c']

def escapeLetter (c : Char) : List Char :=
  if specialCharacters.contains c then ['\\', c] else [c]

/-- A word between boundaries, as a pattern is written. -/
def writtenWord (word : List Char) : List Char :=
  ['\\', 'b'] ++ word.flatMap escapeLetter ++ ['\\', 'b']

-- ---------------------------------------------------------------------------
-- Letters
-- ---------------------------------------------------------------------------

def letterSymbol (c : Char) : Symbol :=
  if specialCharacters.contains c then .escaped c else .plain c

theorem symbols_cons {c : Char} (h : c ≠ '\\') (rest : List Char) :
    symbols (c :: rest) = .plain c :: symbols rest := by
  rw [symbols]
  · exact fun he _ => h he
  · exact fun _ _ he _ => h he

theorem symbols_escapeLetters (word rest : List Char) :
    symbols (word.flatMap escapeLetter ++ rest) = word.map letterSymbol ++ symbols rest := by
  induction word with
  | nil => rfl
  | cons c word ih =>
    rw [List.flatMap_cons, List.append_assoc, List.map_cons, List.cons_append, ← ih]
    by_cases hc : specialCharacters.contains c = true
    · rw [escapeLetter, if_pos hc, letterSymbol, if_pos hc]
      rfl
    · have hne : c ≠ '\\' := by
        rintro rfl
        exact hc (by decide)
      rw [escapeLetter, if_neg hc, letterSymbol, if_neg hc]
      exact symbols_cons hne _

theorem readEscape_special {c : Char} (h : specialCharacters.contains c = true) (reader : Reader)
    (rest : List Symbol) : reader.readEscape c rest = .ok (reader.flags.code c.toNat, rest) := by
  simp only [specialCharacters, List.contains_iff_mem, List.mem_cons, List.not_mem_nil,
    or_false] at h
  rcases h with rfl | rfl | rfl | rfl | rfl | rfl | rfl | rfl | rfl | rfl | rfl | rfl | rfl | rfl |
    rfl | rfl | rfl | rfl | rfl | rfl | rfl | rfl | rfl | rfl <;> rfl

theorem readPlain_letter {c : Char} (h : ¬specialCharacters.contains c = true) (reader : Reader)
    (rest : List Symbol) :
    reader.readPlain c rest = .ok (reader.push (reader.flags.code c.toNat), rest) := by
  unfold Reader.readPlain
  split <;> first | rfl | exact absurd (by decide) h

theorem step_letterSymbol {reader : Reader} (hv : reader.flags.verbose = false) (c : Char)
    (rest : List Symbol) :
    reader.step (letterSymbol c) rest =
      .ok (reader.push (reader.flags.code c.toNat), rest) := by
  unfold letterSymbol
  split
  · rename_i hc
    simp only [Reader.step, readEscape_special hc]
    rfl
  · rename_i hc
    unfold Reader.step
    split
    · rename_i he
      cases he
    · rename_i he
      cases he
    · rename_i he
      cases he
      exact absurd (by decide) hc
    · rename_i he
      cases he
      exact absurd (by decide) hc
    · rename_i he
      cases he
      simp only [hv, Bool.false_and, Bool.false_eq_true, if_false]
      exact readPlain_letter hc reader rest

-- ---------------------------------------------------------------------------
-- Words
-- ---------------------------------------------------------------------------

def letterPart (c : Char) : Part := ⟨char c, none⟩

def boundaryPart : Part := ⟨boundary, none⟩

def wordParts (word : List Char) : List Part :=
  boundaryPart :: (word.map letterPart ++ [boundaryPart])

def wordPieces (word : List Char) : List Piece :=
  .single boundaryPart false ::
    ((word.map fun c => Piece.of (char c)).reverse ++ [.single boundaryPart false])

theorem parts_wordPieces (word : List Char) :
    (wordPieces word).reverse.flatMap Piece.parts = wordParts word := by
  have hletters : (word.map fun c => Piece.of (char c)).flatMap Piece.parts =
      word.map letterPart := by
    rw [List.flatMap_map]
    exact List.map_eq_flatMap.symm
  simp only [wordPieces, wordParts, List.reverse_cons, List.reverse_append, List.reverse_reverse,
    List.reverse_nil, List.nil_append, List.cons_append, List.flatMap_cons, List.flatMap_append,
    List.flatMap_nil, hletters, Piece.parts, List.append_nil]

theorem run_letters {reader : Reader} (hf : reader.flags = {}) (word : List Char) (fuel : Nat)
    (rest : List Symbol) :
    PatternReader.run (word.length + fuel) reader (word.map letterSymbol ++ rest) =
      PatternReader.run fuel { reader with
        pieces := (word.map fun c => Piece.of (char c)).reverse ++ reader.pieces } rest := by
  induction word generalizing reader with
  | nil =>
    rw [List.length_nil, Nat.zero_add]
    rfl
  | cons c word ih =>
    have hv : reader.flags.verbose = false := by rw [hf]
    have hcode : reader.flags.code c.toNat = Piece.of (char c) := by rw [hf]; rfl
    have hstep := step_letterSymbol hv c (word.map letterSymbol ++ rest)
    rw [hcode] at hstep
    have hnext : (reader.push (.of (char c))).flags = {} := hf
    rw [List.length_cons, Nat.add_right_comm, List.map_cons, List.cons_append, PatternReader.run,
      hstep]
    refine (ih hnext).trans ?_
    simp [Reader.push]

theorem finish_pieces (pieces : List Piece) :
    Reader.finish { pieces } =
      let pattern := Part.sequence (pieces.reverse.flatMap Piece.parts)
      .ok ⟨pattern, min (pattern.width []).least Width.maxLeast, pattern.opening false⟩ :=
  rfl

theorem width_wordParts (word : List Char) :
    ((Part.sequence (wordParts word)).width []).least = word.length := by
  have hletters : ((Part.sequence (word.map letterPart ++ [boundaryPart])).width []).least =
      word.length := by
    induction word with
    | nil => rfl
    | cons c word ih =>
      rw [List.length_cons, ← ih, Nat.add_comm]
      rfl
  exact (Nat.zero_add _).trans hletters

def wordExpression (word : List Char) : Expression where
  pattern := Part.sequence (wordParts word)
  least := min word.length Width.maxLeast
  opening := .anything

theorem parse_writtenWord (word : List Char) :
    Expression.parse (writtenWord word) = .ok (wordExpression word) := by
  have hsymbols : symbols (writtenWord word) =
      .escaped 'b' :: (word.map letterSymbol ++ [.escaped 'b']) := by
    rw [writtenWord, List.append_assoc]
    exact congrArg (_ :: ·) (symbols_escapeLetters word ['\\', 'b'])
  have hlength : (symbols (writtenWord word)).length = word.length + 1 + 1 := by
    simp [hsymbols]
  rw [Expression.parse, hlength, hsymbols, PatternReader.run]
  have hfirst (rest : List Symbol) : Reader.step {} (.escaped 'b') rest =
      .ok (Reader.push {} (.single boundaryPart false), rest) := rfl
  rw [hfirst]
  refine (run_letters rfl word 1 [.escaped 'b']).trans ((finish_pieces (wordPieces word)).trans ?_)
  simp only [parts_wordPieces, width_wordParts]
  rfl

-- ---------------------------------------------------------------------------
-- Searches
-- ---------------------------------------------------------------------------

/-- How letters and boundaries are put together makes no difference to a match. -/
theorem run_letterParts (word : List Char) (setting inner : Setting) (a : Place) (trail : Trail)
    (rest : Rest) :
    (Part.sequence (word.map letterPart ++ [boundaryPart])).run setting a trail rest =
      (all (word.map char)).run inner a trail fun b trail => boundary.run setting b trail rest := by
  induction word generalizing a trail with
  | nil => rfl
  | cons c word ih =>
    have hletter (more : Rest) (left right : Setting) :
        (char c).run left a trail more = (char c).run right a trail more := rfl
    have hfirst : (Part.sequence ((c :: word).map letterPart ++ [boundaryPart])).run setting a trail
        rest = (char c).run inner a trail fun b trail =>
          (Part.sequence (word.map letterPart ++ [boundaryPart])).run setting b trail rest := rfl
    rw [hfirst, funext fun b => funext fun trail => ih b trail]
    cases word <;> rfl

theorem matchAt?_wordParts (word : List Char) (a : Place) :
    (Part.sequence (wordParts word)).matchAt? a = (Check.wholeWord word).matchAt? a := by
  have hrun : (Part.sequence (wordParts word)).run {} a ⟨a, []⟩ settle =
      (Check.wholeWord word).run {} a ⟨a, []⟩ settle := by
    have hmore :
        (fun b trail =>
          (Part.sequence (word.map letterPart ++ [boundaryPart])).run {} b trail settle) =
        fun b trail => (all [all (word.map char), boundary]).run {} b trail settle :=
      funext fun b => funext fun trail => run_letterParts word {} _ b trail settle
    exact congrArg (boundary.run {} a ⟨a, []⟩) hmore
  simp only [matchAt?, hrun]

/-- Where the word stands, there are enough letters left for a search to try. -/
theorem wordExpression_tries {word text : List Char} {a : Place} {found : Match} (ha : a.In text)
    (h : (Check.wholeWord word).matchAt? a = some found) :
    (wordExpression word).tries text.length a.pos a.after = true := by
  obtain ⟨hlow, hhigh⟩ := FoundIn.span_bounds word.length ⟨a, ha, h⟩
    (Check.isPlain_wholeWord word) (Check.width_wholeWord word)
  have hstart := matchAt?_start h
  have hleast : min word.length Width.maxLeast ≤ word.length := Nat.min_le_left _ _
  refine Bool.or_eq_true_iff.mpr (.inr (decide_eq_true ?_))
  change a.pos + min word.length Width.maxLeast ≤ text.length + 1
  omega

theorem wordExpression_matchAt? {word text : List Char} {a : Place} (ha : a.In text) :
    (wordExpression word).matchAt? text.length a = (Check.wholeWord word).matchAt? a := by
  unfold Expression.matchAt?
  split
  · exact matchAt?_wordParts word a
  · rename_i htries
    cases hm : (Check.wholeWord word).matchAt? a with
    | none => rfl
    | some found => exact absurd (wordExpression_tries ha hm) htries

theorem wordExpression_searchFrom? {word text : List Char} {pos : Nat} {before after : List Char}
    (ha : Place.In ⟨pos, before, after⟩ text) :
    (wordExpression word).searchFrom? text.length pos before after =
      (Check.wholeWord word).searchFrom? pos before after := by
  induction after generalizing pos before with
  | nil => exact wordExpression_matchAt? ha
  | cons x after ih =>
    have hnext : Place.In ⟨pos + 1, x :: before, after⟩ text := (Place.Reads.step rfl).in ha
    cases hm : (Check.wholeWord word).matchAt? ⟨pos, before, x :: after⟩ with
    | none =>
      have hnone := (wordExpression_matchAt? ha).trans hm
      simp only [Expression.searchFrom?, Pattern.searchFrom?, hm, hnone, ih hnext]
    | some found =>
      have hfound := (wordExpression_matchAt? ha).trans hm
      simp only [Expression.searchFrom?, Pattern.searchFrom?, hm, hfound]

/-- A search by what was read finds what a search for the whole word finds. -/
theorem search_wordExpression (word text : List Char) :
    (wordExpression word).search text = .ok ((Check.wholeWord word).search? text) := by
  unfold Expression.search
  split
  · rename_i hshort
    cases hs : (Check.wholeWord word).search? text with
    | none => rfl
    | some found =>
      obtain ⟨hlow, hhigh⟩ := (foundIn_of_search? hs).span_bounds word.length
        (Check.isPlain_wholeWord word) (Check.width_wholeWord word)
      have hleast : (wordExpression word).least ≤ word.length := Nat.min_le_left _ _
      omega
  · have hplain := Check.isPlain_wholeWord word
    have hfrom : (wordExpression word).searchFrom? text.length 0 [] text =
        (Check.wholeWord word).search? text := wordExpression_searchFrom? (.of_start text)
    rw [hfrom]
    cases hs : (Check.wholeWord word).search? text with
    | none => rfl
    | some found =>
      have hcrossed : found.marks.areCrossed = false :=
        (foundIn_of_search? hs).areCrossed (by rw [lastGroup?_of_isPlain hplain]; rfl)
          (isYielding_of_isPlain hplain)
      simp only [hcrossed, Bool.false_eq_true, if_false]

end SolidityLint
