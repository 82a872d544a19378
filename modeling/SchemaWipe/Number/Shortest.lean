import SchemaWipe.Number.Binary64

/-! The shortest decimal text that reads back as a double. Among the decimals with the fewest
digits the one nearest to the number is chosen, and of two equally near ones the even one. -/
namespace SchemaWipe.Binary64

/-- The numbers that round to a given one lie between two bounds. All three are numerators over
one denominator; the bounds themselves belong to the span when `closed`. -/
structure Span where
  low : Nat
  value : Nat
  high : Nat
  denominator : Nat
  closed : Bool

/-- The span of a positive finite number. Below a power of two its neighbour is nearer. -/
def spanOf (significand : Nat) (exponent : Int) : Span :=
  let gap := if significand = leadingBit ∧ leastExponent < exponent then 1 else 2
  let unit := Nat.pow 2 (exponent - 2).toNat
  { low := (4 * significand - gap) * unit
    value := 4 * significand * unit
    high := (4 * significand + 2) * unit
    denominator := Nat.pow 2 (2 - exponent).toNat
    closed := significand % 2 = 0 }

/-- The span in units of a power of ten. -/
def Span.inTens (s : Span) (power : Int) : Span :=
  if 0 ≤ power then { s with denominator := s.denominator * Nat.pow 10 power.toNat }
  else
    let factor := Nat.pow 10 (-power).toNat
    { s with low := s.low * factor, value := s.value * factor, high := s.high * factor }

/-- Whether a whole number lies in the span. -/
def Span.holds (s : Span) (n : Nat) : Bool :=
  let scaled := n * s.denominator
  if s.closed then s.low ≤ scaled && scaled ≤ s.high else s.low < scaled && scaled < s.high

/-- The whole number of the span next to its value. -/
def Span.nearest? (s : Span) : Option Nat :=
  let below := s.value / s.denominator
  let above := below + 1
  match s.holds below, s.holds above with
  | true, true =>
    let down := s.value - below * s.denominator
    let up := above * s.denominator - s.value
    some (if down < up ∨ (down = up ∧ below % 2 = 0) then below else above)
  | true, false => some below
  | false, true => some above
  | false, false => none

/-- The place of the decimal point of a positive quotient: the power of ten just above it. -/
def decimalPoint (num den : Nat) : Int :=
  if den ≤ num then (Nat.toDigits 10 (num / den)).length
  else 1 - (Nat.toDigits 10 ((den - 1) / num)).length

/-- A decimal without the zeros at its end. -/
def withoutTrailingZeros : Nat → Nat → Int → Nat × Int
  | 0, digits, power => (digits, power)
  | fuel + 1, digits, power =>
    if digits ≠ 0 ∧ digits % 10 = 0 then withoutTrailingZeros fuel (digits / 10) (power + 1)
    else (digits, power)

/-- The shortest decimal of a positive finite number, as digits and a power of ten. Seventeen
digits always suffice. -/
def shortest (significand : Nat) (exponent : Int) : Nat × Int :=
  let span := spanOf significand exponent
  let point := decimalPoint span.value span.denominator
  let found := (List.range 17).findSome? fun (count : Nat) =>
    let power := point - (count + 1 : Nat)
    (span.inTens power).nearest?.map (·, power)
  let (digits, power) := found.getD (significand, 0)
  withoutTrailingZeros 20 digits power

/-- Where a number is written with an exponent and how. Positional notation is used for exponents
from `least` up to but not including `limit`. -/
structure DecimalStyle where
  least : Int
  limit : Int
  exponentDigits : Nat

/-- A whole number in decimal, with zeros in front up to a width. -/
def padded (width n : Nat) : List Char :=
  let digits := Nat.toDigits 10 n
  List.replicate (width - digits.length) '0' ++ digits

/-- A positive decimal in a style. -/
def writeDecimal (style : DecimalStyle) (digits : Nat) (power : Int) : List Char :=
  let ds := Nat.toDigits 10 digits
  let point : Int := ds.length + power
  let exponent := point - 1
  if style.least ≤ exponent ∧ exponent < style.limit then
    if point ≤ 0 then '0' :: '.' :: (List.replicate (-point).toNat '0' ++ ds)
    else if ds.length ≤ point then
      ds ++ List.replicate (point - ds.length).toNat '0' ++ ['.', '0']
    else ds.take point.toNat ++ '.' :: ds.drop point.toNat
  else
    let fraction := match ds.drop 1 with
      | [] => []
      | more => '.' :: more
    ds.take 1 ++ fraction ++
      'e' :: (if exponent < 0 then '-' else '+') :: padded style.exponentDigits exponent.natAbs

/-- A number in a style. -/
def write (style : DecimalStyle) : Binary64 → List Char
  | .nan => ['n', 'a', 'n']
  | .infinite negative => (if negative then ['-'] else []) ++ ['i', 'n', 'f']
  | .finite negative significand exponent =>
    let (digits, power) := if significand = 0 then (0, 0) else shortest significand exponent
    (if negative then ['-'] else []) ++ writeDecimal style digits power

end SchemaWipe.Binary64
