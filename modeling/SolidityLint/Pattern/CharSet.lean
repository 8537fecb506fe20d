import SolidityLint.Text.Alphanumeric
import SolidityLint.Text.Blank
import SolidityLint.Text.Digit
import SolidityLint.Text.LetterCase

/-!
# Character sets

What one character of a text may be: single characters, ranges of code points and the classes of
digits, blanks and word characters, together or all but these, with or without regard to case.
-/

namespace SolidityLint

open Text

inductive CharClass
  | digit
  | blank
  | word
  deriving DecidableEq, Repr

def CharClass.contains (ascii : Bool) (c : Char) : CharClass → Bool
  | .digit => isDigit c && !(ascii && 128 ≤ c.toNat)
  | .blank => isBlank c && !(ascii && (128 ≤ c.toNat || 28 ≤ c.toNat && c.toNat ≤ 31))
  | .word => isWordChar c && !(ascii && 128 ≤ c.toNat)

inductive CharItem
  | code (code : Nat)
  | range (first last : Nat)
  | inClass (kind : CharClass)
  | outOfClass (kind : CharClass)
  deriving DecidableEq, Repr

def CharItem.char (c : Char) : CharItem := .code c.toNat

structure CharSet where
  items : List CharItem
  negated : Bool := false
  ignoreCase : Bool := false
  ascii : Bool := false
  deriving DecidableEq, Repr

/-! ## Membership -/

def foldedCode (ascii : Bool) (code : Nat) : Nat :=
  if ascii then asciiLowerCode code else foldCode code

def smallCode (ascii : Bool) (code : Nat) : Nat :=
  if ascii then asciiLowerCode code else lowerCode code

def letterVariants (ascii : Bool) (code : Nat) : List Nat :=
  if ascii then asciiCaseVariants code else caseVariants code

/-- The last code point of the basic plane. Beyond it letters stand in sets as they are written. -/
def lastBasicCode : Nat := 0xffff

/-- Ranges that go beyond the basic plane take characters by their small form or the capital of
it, all other ranges by any of their forms. -/
def inRangeIgnoringCase (ascii : Bool) (first last code : Nat) : Bool :=
  let small := smallCode ascii code
  let capital := upperCode small
  (letterVariants ascii code).any (fun form => first ≤ form && form ≤ min last lastBasicCode) ||
    lastBasicCode < last &&
      (first ≤ small && small ≤ last || first ≤ capital && capital ≤ last)

def CharItem.contains (ascii : Bool) (c : Char) : CharItem → Bool
  | .code n => c.toNat == n
  | .range first last => first ≤ c.toNat && c.toNat ≤ last
  | .inClass kind => kind.contains ascii c
  | .outOfClass kind => !kind.contains ascii c

def CharItem.containsLetter (ascii : Bool) (c : Char) : CharItem → Bool
  | .code n =>
    if n ≤ lastBasicCode then foldedCode ascii c.toNat == foldedCode ascii n
    else smallCode ascii c.toNat == n
  | .range first last => inRangeIgnoringCase ascii first last c.toNat
  | item => item.contains ascii c

/-- A set of a single code point, written as a set or not, is that character in all its forms. -/
def CharSet.contains (set : CharSet) (c : Char) : Bool :=
  (if set.ignoreCase then
    match set.items with
    | [.code n] => foldedCode set.ascii c.toNat == foldedCode set.ascii n
    | items => items.any (·.containsLetter set.ascii c)
  else set.items.any (·.contains set.ascii c)) != set.negated

/-! ## Kinds of sets -/

def CharSet.isSingle (set : CharSet) : Bool :=
  match set.items with
  | [] | [.code _] => true
  | _ => false

def CharItem.isCased (ascii : Bool) : CharItem → Bool
  | .code n => Text.isCased ascii n || lastBasicCode < n
  | .range first last => lastBasicCode < last || hasCased ascii first last
  | .inClass _ | .outOfClass _ => false

def CharSet.isCased (set : CharSet) : Bool :=
  set.ignoreCase && match set.items with
    | [.code n] => Text.isCased set.ascii n
    | items => items.any (·.isCased set.ascii)

/-- The one code point that a set takes, and takes as it is. -/
def CharSet.literal? (set : CharSet) : Option Nat :=
  match set.items with
  | [.code n] => if set.negated || set.isCased then none else some n
  | _ => none

def CharSet.isFolded (set : CharSet) : Bool :=
  set.isCased && match set.items with
    | [.code n] => !set.ascii && hasTwin (lowerCode n)
    | _ => true

end SolidityLint
