import SolidityLint.Line.Comment
import SolidityLint.Pattern.Match

/-!
# Mapping types on a line

A mapping type spreads over several tokens. For token by token reading it is collapsed to the bare
word, padded with spaces so that all other characters keep their columns.
-/

namespace SolidityLint

namespace Line

open Pattern

def mappingOpening : Pattern :=
  all [boundary, caseless "mapping", blanks, char '(']

/-- The number of characters up to and including the parenthesis that closes the first one of a
text, when `depth` parentheses are open before it; all of the text if it is never closed. -/
def closingLength (depth : Nat) : List Char → Nat
  | [] => 0
  | c :: rest =>
    if c == '(' then closingLength (depth + 1) rest + 1
    else if c == ')' then if depth ≤ 1 then 1 else closingLength (depth - 1) rest + 1
    else closingLength depth rest + 1

/-- The length of the mapping type at the start of a text, where `previous` is what is before. -/
def mappingLength? (previous : Option Char) (text : List Char) : Option Nat :=
  (mappingOpening.matchAt? { before := previous.toList, after := text }).map fun found =>
    found.span.stop - 1 + closingLength 0 (text.drop (found.span.stop - 1))

def mappingWord (length : Nat) : List Char :=
  "mapping".toList ++ List.replicate (length - 7) ' '

/-- `pending` replaces the characters of a mapping type that was met before. -/
def maskFrom (previous : Option Char) : List Char → List Char → List Char
  | _, [] => []
  | p :: pending, _ :: rest => p :: maskFrom (some p) pending rest
  | [], c :: rest =>
    match mappingLength? previous (c :: rest) with
    | none => c :: maskFrom (some c) [] rest
    | some length => match mappingWord length with
      | [] => c :: maskFrom (some c) [] rest
      | p :: pending => p :: maskFrom (some p) pending rest

def maskMappings (text : List Char) : List Char :=
  maskFrom none [] text

end Line

end SolidityLint
