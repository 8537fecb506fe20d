import SolidityLint.Document
import SolidityLint.Finding.Sink

/-!
# Brace balance

Every brace of the document counts, comments and strings included. The first closing brace without
a partner is reported, and the last opening brace without one.
-/

namespace SolidityLint

namespace Check

/-- The opening braces without a partner so far, latest first, and the first closing brace without
one. -/
structure Braces where
  opened : List (Nat × Nat) := []
  extra : Option (Nat × Nat) := none
  deriving DecidableEq, Repr

namespace Braces

def read (braces : Braces) (row column : Nat) (c : Char) : Braces :=
  if c == '{' then { braces with opened := (row, column) :: braces.opened }
  else if c == '}' then
    match braces.opened with
    | _ :: opened => { braces with opened }
    | [] => { braces with extra := some (braces.extra.getD (row, column)) }
  else braces

def readLine (row column : Nat) : Line → Braces → Braces
  | [], braces => braces
  | c :: rest, braces => readLine row (column + 1) rest (braces.read row column c)

def readLines (row : Nat) : List Line → Braces → Braces
  | [], braces => braces
  | line :: lines, braces => readLines (row + 1) lines (readLine row 0 line braces)

def report (place : Nat × Nat) (message : String) : Report :=
  ⟨place.1, place.2, place.2 + 1, message, .missingBraces⟩

def reports (braces : Braces) : List Report :=
  (braces.extra.map (report · "Extra closing brace.")).toList ++
    (braces.opened.head?.map (report · "Missing closing brace.")).toList

end Braces

def braceReports (lines : List Line) : List Report :=
  (Braces.readLines 0 lines {}).reports

end Check

end SolidityLint
