import SolidityLint.Line.Context
import SolidityLint.Pattern.Expression

/-!
# Documents

A document is a text and its lines. Lines end with a line feed, which may follow a carriage return.
Lines are addressed by integers: from 0 on from the start, and from -1 on backwards from the end.
-/

namespace SolidityLint

inductive Fault
  | lineOutOfRange
  | failed
  | matching (fault : MatchFault)
  deriving DecidableEq, Repr

def Fault.message : Fault → String
  | .lineOutOfRange => "list index out of range"
  | .failed => "check failed"
  | .matching fault => fault.message

def splitLines : List Char → List Line
  | [] => [[]]
  | '\n' :: rest => [] :: splitLines rest
  | '\r' :: '\n' :: rest => [] :: splitLines rest
  | c :: rest => match splitLines rest with
    | [] => [[c]]
    | line :: lines => (c :: line) :: lines

structure Document where
  text : List Char
  lines : List Line
  deriving DecidableEq, Repr

namespace Document

open Pattern

def ofText (text : List Char) : Document := ⟨text, splitLines text⟩

def valueTransfer : Pattern :=
  any [caseless ".transfer(", caseless ".send(",
    all [caseless ".call\x7b", many anyOnLine, caseless "value"]]

def movesValue (document : Document) : Bool := valueTransfer.occursIn document.text

end Document

def position? (length : Nat) (index : Int) : Option Nat :=
  if 0 ≤ index then
    if index < length then some index.toNat else none
  else if -length ≤ index then some (length + index).toNat else none

namespace Context

/-- A line with its neighbours. Behind the last line, an index that counts from the end goes on
with the first line; before it there is nothing. -/
def at? (lines : List Line) (index : Int) : Option Context := do
  let position ← position? lines.length index
  let line ← lines[position]?
  let below := lines.drop (position + 1)
  if 0 ≤ index then return ⟨(lines.take position).reverse, line, below⟩
  return ⟨[], line, below ++ lines⟩

end Context

/-- The lines behind an index, whether or not there is a line at the index. -/
def linesAfter (lines : List Line) (index : Int) : Except Fault (List Line) :=
  if 0 ≤ index + 1 then .ok (lines.drop (index + 1).toNat)
  else match position? lines.length (index + 1) with
    | some position => .ok (lines.drop position ++ lines)
    | none => .error .lineOutOfRange

def linesBefore (lines : List Line) (lookback index : Int) : Except Fault (List Line) :=
  let first := max 0 (index - lookback)
  if index ≤ first then .ok []
  else if index ≤ lines.length then
    .ok ((lines.take index.toNat).drop first.toNat).reverse
  else .error .lineOutOfRange

end SolidityLint
