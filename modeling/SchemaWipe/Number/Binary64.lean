/-! Double-precision numbers as exact values. A finite one is a significand below `2 ^ 53` times a
power of two, and every operation is the exact one followed by a single rounding to the nearest
representable number. -/
namespace SchemaWipe

/-- A double-precision number. A finite one stands for `± significand * 2 ^ exponent`. -/
inductive Binary64 where
  | nan
  | infinite (negative : Bool)
  | finite (negative : Bool) (significand : Nat) (exponent : Int)
  deriving DecidableEq, Repr

/-- A quotient rounded to the nearest whole number, a half to the even neighbour. -/
def roundDiv (num den : Nat) : Nat :=
  let quotient := num / den
  let double := 2 * (num % den)
  if double < den ∨ (double = den ∧ quotient % 2 = 0) then quotient else quotient + 1

namespace Binary64

/-- The least exponent of a double-precision number. -/
def leastExponent : Int := -1074

/-- The greatest exponent of a double-precision number. -/
def greatestExponent : Int := 971

/-- The first of the fifty-three bits of a significand. -/
def leadingBit : Nat := 0x10000000000000

/-- The zero of a sign. -/
def zero (negative : Bool) : Binary64 :=
  .finite negative 0 leastExponent

/-- A quotient divided by a power of two, as a quotient. -/
def scaledDown (num den : Nat) (exponent : Int) : Nat × Nat :=
  if 0 ≤ exponent then (num, den * Nat.pow 2 exponent.toNat)
  else (num * Nat.pow 2 (-exponent).toNat, den)

/-- The exponent at which a positive quotient has a significand of fifty-three bits, or the least
one where it has fewer. -/
def exponentOf (num den : Nat) : Int :=
  let guess : Int := (num.log2 : Int) - den.log2 - 52
  let (n, d) := scaledDown num den guess
  max leastExponent (if n / d < leadingBit then guess - 1 else guess)

/-- The number nearest to `± num / den`. -/
def ofRatio (negative : Bool) (num den : Nat) : Binary64 :=
  if num = 0 then zero negative
  else
    let exponent := exponentOf num den
    let (n, d) := scaledDown num den exponent
    let rounded := roundDiv n d
    let (significand, exponent) :=
      if rounded = 2 * leadingBit then (leadingBit, exponent + 1) else (rounded, exponent)
    if greatestExponent < exponent then .infinite negative
    else .finite negative significand exponent

/-- The number nearest to `mantissa * 2 ^ exponent`. -/
def ofScaled (mantissa exponent : Int) : Binary64 :=
  if 0 ≤ exponent then ofRatio (mantissa < 0) (mantissa.natAbs * Nat.pow 2 exponent.toNat) 1
  else ofRatio (mantissa < 0) mantissa.natAbs (Nat.pow 2 (-exponent).toNat)

/-- The number nearest to `± digits * 10 ^ power`. Beyond the range of a double the answer does
not depend on the digits, so no large power is formed there. -/
def ofDecimal (negative : Bool) (digits : Nat) (power : Int) : Binary64 :=
  let magnitude : Int := (Nat.toDigits 10 digits).length + power
  if digits = 0 then zero negative
  else if 310 < magnitude then .infinite negative
  else if magnitude < -330 then zero negative
  else if 0 ≤ power then ofRatio negative (digits * Nat.pow 10 power.toNat) 1
  else ofRatio negative digits (Nat.pow 10 (-power).toNat)

/-- The significand with its sign. -/
def signed (negative : Bool) (significand : Nat) : Int :=
  if negative then -significand else significand

/-- The sum. -/
def add : Binary64 → Binary64 → Binary64
  | .nan, _ | _, .nan => .nan
  | .infinite s, .infinite t => if s = t then .infinite s else .nan
  | .infinite s, _ | _, .infinite s => .infinite s
  | .finite s m e, .finite t n f =>
    let low := min e f
    let first := signed s (m * Nat.pow 2 (e - low).toNat)
    let second := signed t (n * Nat.pow 2 (f - low).toNat)
    ofScaled (first + second) low

/-- The product with a whole number. -/
def scale (factor : Nat) : Binary64 → Binary64
  | .nan => .nan
  | .infinite s => .infinite s
  | .finite s m e =>
    match ofScaled (m * factor : Nat) e with
    | .finite _ n f => .finite s n f
    | .infinite _ => .infinite s
    | .nan => .nan

/-- The number with the other sign. -/
def negate : Binary64 → Binary64
  | .nan => .nan
  | .infinite s => .infinite !s
  | .finite s m e => .finite (!s) m e

/-- The whole part of a finite number: its fraction is cut off. -/
def wholePart (negative : Bool) (significand : Nat) (exponent : Int) : Int :=
  signed negative <|
    if 0 ≤ exponent then significand * Nat.pow 2 exponent.toNat
    else significand / Nat.pow 2 (-exponent).toNat

/-- Whether a number is exactly a whole one. -/
def isWhole (i : Int) : Binary64 → Bool
  | .finite negative significand exponent =>
    if 0 ≤ exponent then signed negative (significand * Nat.pow 2 exponent.toNat) = i
    else signed negative significand = i * (Nat.pow 2 (-exponent).toNat : Nat)
  | _ => false

/-- Equality of values: the two zeros are equal. -/
def sameValue : Binary64 → Binary64 → Bool
  | .finite _ 0 _, .finite _ 0 _ => true
  | x, y => x = y

end Binary64
end SchemaWipe
