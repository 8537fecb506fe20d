/-!
# Doubles

Numbers of binary64 as exact values: a mantissa and a power of two, an infinity, or no number at
all. Reading a number rounds once, to the nearest value and from the middle to the even one.
-/

namespace SolidityLint

inductive Double
  /-- `mantissa * 2 ^ exponent`, with a sign. -/
  | finite (negative : Bool) (mantissa : Nat) (exponent : Int)
  | infinite (negative : Bool)
  | nan
  deriving DecidableEq, Repr

namespace Double

def minExponent : Int := -1074

def mantissaBound : Nat := Nat.pow 2 53

/-- A quotient rounded to the nearest integer, and from the middle to the even one. -/
def roundDiv (numerator denominator : Nat) : Nat :=
  let quotient := numerator / denominator
  let rest := 2 * (numerator % denominator)
  if denominator < rest || (denominator == rest && quotient % 2 == 1) then quotient + 1
  else quotient

def scaled (numerator denominator : Nat) (exponent : Int) : Nat × Nat :=
  if 0 ≤ exponent then (numerator, denominator * Nat.pow 2 exponent.toNat)
  else (numerator * Nat.pow 2 (-exponent).toNat, denominator)

/-- The exponent at which a quotient has as many bits as a mantissa, but at least the least one. -/
def exponentFor (numerator denominator : Nat) : Int :=
  let guess : Int := numerator.log2 - denominator.log2 - 52
  let (n, d) := scaled numerator denominator guess
  let exact := if n / d < Nat.pow 2 52 then guess - 1 else guess
  max minExponent exact

def ofRatio (negative : Bool) (numerator denominator : Nat) : Double :=
  if numerator = 0 then .finite negative 0 0
  else
    let exponent := exponentFor numerator denominator
    let (n, d) := scaled numerator denominator exponent
    let mantissa := roundDiv n d
    if 971 < exponent || (exponent = 971 && mantissaBound ≤ mantissa) then .infinite negative
    else if mantissa = mantissaBound then .finite negative (mantissaBound / 2) (exponent + 1)
    else .finite negative mantissa exponent

/-- The double nearest to `digits * 10 ^ scale`, where `digits` has `count` digits. -/
def ofDecimal (negative : Bool) (digits count : Nat) (scale : Int) : Double :=
  if digits = 0 || count + scale < -400 then .finite negative 0 0
  else if 400 < scale then .infinite negative
  else if 0 ≤ scale then ofRatio negative (digits * Nat.pow 10 scale.toNat) 1
  else ofRatio negative digits (Nat.pow 10 (-scale).toNat)

def applySign (negative : Bool) (magnitude : Nat) : Int :=
  if negative then -magnitude else magnitude

def truncate? : Double → Option Int
  | .finite negative mantissa exponent =>
    some (applySign negative (if 0 ≤ exponent then mantissa * Nat.pow 2 exponent.toNat
      else mantissa / Nat.pow 2 (-exponent).toNat))
  | .infinite _ | .nan => none

def isFinite : Double → Bool
  | .finite .. => true
  | .infinite _ | .nan => false

def integer? : Double → Option Int
  | .finite negative mantissa exponent =>
    if 0 ≤ exponent then some (applySign negative (mantissa * Nat.pow 2 exponent.toNat))
    else if mantissa % Nat.pow 2 (-exponent).toNat = 0 then
      some (applySign negative (mantissa / Nat.pow 2 (-exponent).toNat))
    else none
  | .infinite _ | .nan => none

def isAtLeast (bound : Nat) : Double → Bool
  | .finite negative mantissa exponent =>
    let (numerator, denominator) := scaled mantissa 1 (-exponent)
    (bound * denominator : Nat) ≤ applySign negative numerator
  | .infinite negative => !negative
  | .nan => false

/-- One more, rounded once. -/
def addOne : Double → Double
  | .finite negative mantissa exponent =>
    let (numerator, denominator) := scaled mantissa 1 (-exponent)
    let sum := applySign negative numerator + denominator
    ofRatio (sum < 0) sum.natAbs denominator
  | value => value

end Double

end SolidityLint
