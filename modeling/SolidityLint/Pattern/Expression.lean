import SolidityLint.Pattern.Match
import SolidityLint.Pattern.Width

/-!
# Searching for written patterns

A pattern that was read from text is searched for with what can be known of its matches beforehand:
how wide they are at least, and with which character they begin. Positions that this rules out are
not tried. Classes at the beginning are taken as the flags of the whole pattern have them, also
where a group has its own flags, so that a first character has to pass both.
-/

namespace SolidityLint

inductive Opening
  | anything
  /-- With known characters, on which the pattern itself insists. -/
  | literal
  | member (set : CharSet)
  deriving DecidableEq, Repr

namespace Pattern

/-- One character at the beginning is known; and, if not, the pattern takes none at all. -/
def literalStart : Pattern → Bool × Bool
  | .empty => (false, true)
  | .one set => (set.literal?.isSome, false)
  | .seq p q => match p.literalStart with
    | (false, true) => q.literalStart
    | start => start
  | .group _ p | .scoped p => p.literalStart
  | _ => (false, false)

def literalAlternatives : Pattern → Bool
  | .alt p q => p.literalAlternatives && q.literalAlternatives
  | .seq (.one set) _ => set.literal?.isSome
  | _ => false

def firstOpening : Pattern → Opening
  | .one set => if set.isSingle || set.isCased then .anything else .member set
  | .alt p q => if p.literalAlternatives && q.literalAlternatives then .literal else .anything
  | .seq p _ | .group _ p | .scoped p => p.firstOpening
  | _ => .anything

def opening (ascii : Bool) (p : Pattern) : Opening :=
  if p.literalStart.1 then .literal
  else match p.firstOpening with
    | .member set => .member { set with ascii, ignoreCase := false }
    | start => start

end Pattern

structure Expression where
  pattern : Pattern
  /-- The fewest characters of a match. -/
  least : Nat
  opening : Opening
  deriving DecidableEq, Repr

/-- A match with a group that was opened again behind its last end cannot be given back. -/
inductive MatchFault
  | crossedGroup
  deriving DecidableEq, Repr

def MatchFault.message : MatchFault → String
  | .crossedGroup =>
    "The span of capturing group is wrong, please report a bug for the re module."

namespace Expression

def tries (expression : Expression) (length pos : Nat) (after : List Char) : Bool :=
  match expression.opening with
  | .anything => expression.least ≤ 1 || pos + expression.least ≤ length + 1
  | .literal => true
  | .member set => after.head?.any set.contains

def matchAt? (expression : Expression) (length : Nat) (place : Place) : Option Match :=
  if expression.tries length place.pos place.after then expression.pattern.matchAt? place else none

/-- The leftmost match in `after`, where `before`, nearest first, has `pos` characters. -/
def searchFrom? (expression : Expression) (length pos : Nat) (before : List Char) :
    List Char → Option Match
  | [] => expression.matchAt? length { pos, before, after := [] }
  | c :: after => match expression.matchAt? length { pos, before, after := c :: after } with
    | some found => some found
    | none => expression.searchFrom? length (pos + 1) (c :: before) after

def search (expression : Expression) (text : List Char) : Except MatchFault (Option Match) :=
  if text.length < expression.least then .ok none
  else match expression.searchFrom? text.length 0 [] text with
    | none => .ok none
    | some found => if found.marks.areCrossed then .error .crossedGroup else .ok (some found)

end Expression

end SolidityLint
