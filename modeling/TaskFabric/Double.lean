/-! Finite binary numbers of 64 bits. A number is a sign and the 63 bits below it read as one
natural number, so that numbers of one sign are ordered as their patterns are. Every operation is
the exact rational operation followed by one rounding to the nearest pattern, ties to the even one;
a result beyond the greatest finite pattern has no value.
-/

namespace TaskFabric

/-- The number of fractions of one exponent. -/
abbrev Double.fractionCount : Nat := 4503599627370496

/-- The first pattern that is no finite number: the exponent bits are all set. -/
abbrev Double.finiteCount : Nat := 2047 * fractionCount

/-- A finite binary number of 64 bits: its sign, and its exponent and fraction bits as one
natural number.
-/
structure Double where
  negative : Bool
  pattern : Nat
  pattern_lt : pattern < Double.finiteCount
deriving DecidableEq

namespace Double

/-- The positive zero. -/
def zero : Double := ⟨false, 0, by decide⟩

/-- The negative zero, the neutral element of addition. -/
def negZero : Double := ⟨true, 0, by decide⟩

instance : Inhabited Double := ⟨zero⟩

/-- The integer part of the scientific form: the magnitude is `significand * 2 ^ scale`. -/
def significand (d : Double) : Nat :=
  if d.pattern / fractionCount = 0 then d.pattern else d.pattern % fractionCount + fractionCount

/-- The power of two by which the significand is multiplied. -/
def scale (d : Double) : Int :=
  if d.pattern / fractionCount = 0 then -1074 else (d.pattern / fractionCount : Nat) - 1075

/-- The numerator of the magnitude as a fraction of natural numbers. -/
def numerator (d : Double) : Nat := d.significand * Nat.pow 2 d.scale.toNat

/-- The denominator of the magnitude as a fraction of natural numbers. -/
def denominator (d : Double) : Nat := Nat.pow 2 (-d.scale).toNat

/-- A quotient rounded to the nearest natural number, a half to the even one. -/
def roundQuotient (num den : Nat) : Nat :=
  let quotient := num / den
  let twice := 2 * (num % den)
  if twice > den ∨ (twice = den ∧ quotient % 2 = 1) then quotient + 1 else quotient

/-- The greatest `k` with `2 ^ k ≤ num / den`, for positive `num` and `den`. -/
def floorLog2 (num den : Nat) : Int :=
  let guess : Int := (num.log2 : Int) - den.log2
  if num * Nat.pow 2 (-guess).toNat ≥ den * Nat.pow 2 guess.toNat then guess else guess - 1

/-- The pattern nearest to a fraction, which may lie beyond the finite ones. Below `2 ^ (-1022)`
the grid is that of the least numbers, elsewhere it has 53 significant bits; a significand that
is rounded up to the next power of two carries into the exponent by itself.
-/
def nearestPattern (num den : Nat) : Nat :=
  if num = 0 then
    0
  else
    let scale := max (floorLog2 num den - 52) (-1074)
    let rounded := roundQuotient (num * Nat.pow 2 (-scale).toNat) (den * Nat.pow 2 scale.toNat)
    -- The leading bit of a normal significand counts as the first unit of the exponent field.
    (scale + 1074).toNat * fractionCount + rounded

/-- The number nearest to a fraction with a positive denominator. -/
def ofFraction? (negative : Bool) (num den : Nat) : Option Double :=
  let pattern := nearestPattern num den
  if h : pattern < finiteCount then some ⟨negative, pattern, h⟩ else none

/-- The number of decimal digits of a natural number. -/
def decimalLength (n : Nat) : Nat := (Nat.toDigits 10 n).length

/-- The number nearest to `digits * 10 ^ exponent`. A magnitude of more than 310 digits before
the point has none, and one below `10 ^ (-330)` is a zero; neither needs the power of ten.
-/
def ofDecimal? (negative : Bool) (digits : Nat) (exponent : Int) : Option Double :=
  let magnitude : Int := exponent + decimalLength digits
  if digits = 0 then
    ofFraction? negative 0 1
  else if magnitude > 310 then
    none
  else if magnitude < -330 then
    ofFraction? negative 0 1
  else
    ofFraction? negative (digits * Nat.pow 10 exponent.toNat) (Nat.pow 10 (-exponent).toNat)

/-- The number nearest to an integer. -/
def ofInt? (i : Int) : Option Double := ofFraction? (i < 0) i.natAbs 1

/-- The exact value of a number in units of the least positive one. -/
def units (d : Double) : Int :=
  let magnitude : Int := (d.significand * Nat.pow 2 (d.scale + 1074).toNat : Nat)
  if d.negative then -magnitude else magnitude

/-- The sum, rounded once. A sum that is exactly zero is negative only if both operands are. -/
def add? (a b : Double) : Option Double :=
  let sum := a.units + b.units
  let negative := if sum = 0 then a.negative && b.negative else decide (sum < 0)
  ofFraction? negative sum.natAbs (Nat.pow 2 1074)

end Double

end TaskFabric
