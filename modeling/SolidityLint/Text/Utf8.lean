import SolidityLint.Text.Split

/-!
# Byte offsets in text

Syntax trees count in bytes of UTF-8, findings in characters. A stretch of bytes holds the
characters whose bytes are all inside it.
-/

namespace SolidityLint.Text

def byteLength : List Char → Nat
  | [] => 0
  | c :: rest => c.utf8Size + byteLength rest

/-- The characters between two byte offsets of a text whose first byte is at `offset`. -/
def charsBetween (first last : Nat) (offset : Nat) : List Char → List Char
  | [] => []
  | c :: rest =>
    let next := offset + c.utf8Size
    if first ≤ offset && next ≤ last then c :: charsBetween first last next rest
    else charsBetween first last next rest

/-- A bound of a stretch of `length` bytes. A negative bound counts from the end. -/
def clampBound (length : Nat) (bound : Int) : Nat :=
  if bound < 0 then (length + bound).toNat else min bound.toNat length

/-- The characters between two byte bounds. Without a bound, the text goes on to its end. -/
def byteSlice (text : List Char) (first last : Option Int) : List Char :=
  let length := byteLength text
  charsBetween (first.elim 0 (clampBound length)) (last.elim length (clampBound length)) 0 text

def charsBefore (row : List Char) (column : Option Int) : Nat :=
  (byteSlice row none column).length

/-- The rows of a text, which end with a line feed. -/
def rows (text : List Char) : List (List Char) :=
  splitBy (· == '\n') text

end SolidityLint.Text
