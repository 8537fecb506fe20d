import SolidityLint.Text.Blank
import SolidityLint.Text.Digit

/-!
# Integers in text

An integer is written as an optional sign and decimal digits, with single underscores between
digits. What counts as a digit and which blanks may surround the number depend on who reads it.
-/

namespace SolidityLint.Text

def maxDigits : Nat := 4300

def readDigits? (digit? : Char → Option Nat) : List Char → Option (List Nat)
  | [] => none
  | [c] => (digit? c).map ([·])
  | c :: '_' :: rest => do return (← digit? c) :: (← readDigits? digit? rest)
  | c :: rest => do return (← digit? c) :: (← readDigits? digit? rest)

def ofDigits (digits : List Nat) : Nat :=
  digits.foldl (fun value digit => 10 * value + digit) 0

def readSigned? (digit? : Char → Option Nat) : List Char → Option (Bool × List Nat)
  | '+' :: rest => (readDigits? digit? rest).map (false, ·)
  | '-' :: rest => (readDigits? digit? rest).map (true, ·)
  | text => (readDigits? digit? text).map (false, ·)

def signed (negative : Bool) (value : Nat) : Int :=
  if negative then -value else value

/-- Blanks that may surround a number: the separator controls are not among them. -/
def surroundsNumber (c : Char) : Bool :=
  isBlank c && !(28 ≤ c.toNat && c.toNat ≤ 31)

def trimNumber (text : List Char) : List Char :=
  ((text.dropWhile surroundsNumber).reverse.dropWhile surroundsNumber).reverse

def integer? (text : List Char) : Option Int := do
  let (negative, digits) ← readSigned? digit? (trimNumber text)
  if digits.length ≤ maxDigits then some (signed negative (ofDigits digits)) else none

end SolidityLint.Text
