import SolidityLint.Pattern.CharSet

/-!
# Patterns

The patterns by which lines and names are recognised: sequences, ordered alternatives, repeats,
groups that remember where they matched, and conditions on the surroundings of a position.
Which of several ways to match is taken is part of a pattern's meaning, see
`SolidityLint.Pattern.Match`.
-/

namespace SolidityLint

inductive Anchor
  | textStart
  | lineStart
  | textEnd
  /-- The end of the text, or before a line break that ends the text. -/
  | lastLineEnd
  | lineEnd
  | wordBoundary (ascii : Bool)
  | notWordBoundary (ascii : Bool)
  deriving DecidableEq, Repr

/-- How often a repeat tries its body: as often as possible first, as seldom as possible first, or
as often as possible without ever taking an iteration back. -/
inductive RepeatMode
  | greedy
  | reluctant
  | possessive
  deriving DecidableEq, Repr

/-- Look ahead, or behind from as many characters back as the body is wide. -/
inductive LookDirection
  | ahead
  | behind (width : Nat)
  deriving DecidableEq, Repr

inductive Pattern
  | empty
  | one (set : CharSet)
  | anchor (anchor : Anchor)
  | seq (first second : Pattern)
  | alt (first second : Pattern)
  | times (mode : RepeatMode) (low : Nat) (high : Option Nat) (body : Pattern)
  | group (index : Nat) (body : Pattern)
  /-- A group that keeps its body apart from its neighbours and remembers nothing. -/
  | scoped (body : Pattern)
  /-- The text that a group matched, once more. -/
  | again (index : Nat) (ignoreCase ascii : Bool)
  /-- One pattern if a group has matched, another if it has not. -/
  | given (index : Nat) (yes no : Pattern)
  | look (direction : LookDirection) (negated : Bool) (body : Pattern)
  /-- The first way to match the body and no other. -/
  | atomic (body : Pattern)
  deriving DecidableEq, Repr

namespace Pattern

def single? : Pattern → Option CharSet
  | .one set => some set
  | .seq p .empty => p.single?
  | .scoped p => p.single?
  | _ => none

def isAlt : Pattern → Bool
  | .alt _ _ => true
  | _ => false

def all : List Pattern → Pattern
  | [] => .empty
  | [p] => p
  | p :: rest => .seq p (all rest)

/-- The first alternative that leads to a match wins. -/
def any : List Pattern → Pattern
  | [] => .one { items := [] }
  | [p] => p
  | p :: rest => .alt p (any rest)

def char (c : Char) : Pattern := .one { items := [.char c] }

def oneOf (items : List CharItem) : Pattern := .one { items }

def noneOf (items : List CharItem) : Pattern := .one { items, negated := true }

def literal (text : String) : Pattern := all (text.toList.map char)

def caseless (text : String) : Pattern :=
  all (text.toList.map fun c => .one { items := [.char c], ignoreCase := true })

def caselessAny (texts : List String) : Pattern := any (texts.map caseless)

def many (p : Pattern) : Pattern := .times .greedy 0 none p

def many1 (p : Pattern) : Pattern := .times .greedy 1 none p

def optional (p : Pattern) : Pattern := .times .greedy 0 (some 1) p

def start : Pattern := .anchor .textStart

def finish : Pattern := .anchor .lastLineEnd

def boundary : Pattern := .anchor (.wordBoundary false)

def blank : Pattern := oneOf [.inClass .blank]

def blanks : Pattern := many blank

def blanks1 : Pattern := many1 blank

def wordChar : Pattern := oneOf [.inClass .word]

def word : Pattern := many1 wordChar

def digits : Pattern := many (oneOf [.inClass .digit])

def anyOnLine : Pattern := noneOf [.char '\n']

def ahead (p : Pattern) : Pattern := .look .ahead false p

def notAhead (p : Pattern) : Pattern := .look .ahead true p

/-- Letters of names, as ranges so that ignoring case reaches their partners beyond ASCII. -/
def nameStartItems : List CharItem := [.range 65 90, .range 97 122, .char '_']

def nameItems : List CharItem := [.range 65 90, .range 97 122, .range 48 57, .char '_']

def name : Pattern := all [oneOf nameStartItems, many (oneOf nameItems)]

end Pattern

end SolidityLint
