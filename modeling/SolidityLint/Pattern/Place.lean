import SolidityLint.Pattern.Basic

/-!
# Places in a text

A match is looked for from a place in a text. Anchors are conditions on places.
-/

namespace SolidityLint

/-- A position in a text: what is before it, nearest first, and what is after it. -/
structure Place where
  pos : Nat := 0
  before : List Char := []
  after : List Char
  deriving DecidableEq, Repr

namespace Place

def step (place : Place) (c : Char) (rest : List Char) : Place :=
  ⟨place.pos + 1, c :: place.before, rest⟩

def skip : Nat → Place → Place
  | 0, place => place
  | n + 1, place => match place.after with
    | [] => place
    | c :: rest => (place.step c rest).skip n

def back? : Nat → Place → Option Place
  | 0, place => some place
  | n + 1, place => match place.before with
    | [] => none
    | c :: rest => back? n ⟨place.pos - 1, rest, c :: place.after⟩

def hasLeft (place : Place) (n : Nat) : Bool :=
  n = 0 || !(place.after.drop (n - 1)).isEmpty

def text (place : Place) : List Char :=
  place.before.reverse ++ place.after

end Place

def Text.slice (text : List Char) (first last : Nat) : List Char :=
  (text.drop first).take (last - first)

def isWordEnd (ascii : Bool) (side : List Char) : Bool :=
  side.head?.any (CharClass.contains ascii · .word)

def Anchor.holds (place : Place) : Anchor → Bool
  | .textStart => place.before.isEmpty
  | .lineStart => place.before.head?.all (· == '\n')
  | .textEnd => place.after.isEmpty
  | .lastLineEnd => place.after.isEmpty || place.after == ['\n']
  | .lineEnd => place.after.head?.all (· == '\n')
  | .wordBoundary ascii => isWordEnd ascii place.before != isWordEnd ascii place.after
  -- An empty text has neither boundaries nor places between them.
  | .notWordBoundary ascii =>
    isWordEnd ascii place.before == isWordEnd ascii place.after &&
      !(place.before.isEmpty && place.after.isEmpty)

end SolidityLint
