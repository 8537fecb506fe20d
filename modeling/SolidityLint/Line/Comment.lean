import SolidityLint.Text.Blank

/-!
# Code and comments on a line

A line is code up to the first comment marker. Comments that were opened on an earlier line are not
known here.
-/

namespace SolidityLint

abbrev Line := List Char

namespace Line

open Text

/-- The part of a line before the first `//` or `/*`. -/
def code : Line → Line
  | [] => []
  | '/' :: '/' :: _ => []
  | '/' :: '*' :: _ => []
  | c :: rest => c :: code rest

def trimmedCode (line : Line) : Line :=
  trim line.code

def hasNoCode (line : Line) : Bool :=
  let text := trim line
  text.isEmpty || ['/', '/'].isPrefixOf text || ['/', '*'].isPrefixOf text

/-- The column of the last character of the code that is neither a space nor a tab; the last
column of the code if there is no such character, and 0 if there is no code. -/
def lastCodeColumn (line : Line) : Nat :=
  match line.code.reverse.dropWhile fun c => c == ' ' || c == '\t' with
  | [] => line.code.length - 1
  | rest => rest.length - 1

def endsWithAny (marks : List Char) (line : Line) : Bool :=
  line.getLast?.any marks.contains

def isTerminated (line : Line) : Bool :=
  line.endsWithAny [';', '{', '}']

end Line

end SolidityLint
