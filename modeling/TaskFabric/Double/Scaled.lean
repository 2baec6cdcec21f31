import TaskFabric.Double

/-! Decimals read by scaling. The digits that one word can hold make a significand, which is
rounded, multiplied or divided by a rounded power of ten, and rounded again. The result may miss the
number nearest to the decimal (`Double.ofDecimal?`) in its last places, and a decimal close to the
greatest finite number may have no result although there is a number nearest to it.
-/

namespace TaskFabric.Double

/-- The product, rounded once. -/
def mul? (a b : Double) : Option Double :=
  ofFraction? (a.negative != b.negative) (a.numerator * b.numerator)
    (a.denominator * b.denominator)

/-- The quotient, rounded once. There is none by zero. -/
def div? (a b : Double) : Option Double :=
  if b.numerator = 0 then
    none
  else
    ofFraction? (a.negative != b.negative) (a.numerator * b.denominator)
      (a.denominator * b.numerator)

/-- The exponent of the greatest power of ten that is finite. -/
def greatestPower : Nat := 308

/-- The number nearest to a power of ten. -/
def powerOfTen? (exponent : Nat) : Option Double := ofDecimal? false 1 exponent

/-- A significand scaled by a power of ten. A scale beyond the greatest power has no result, unless
the significand is zero; below the least one the significand is divided twice.
-/
def scaled? (negative : Bool) (significand : Nat) (exponent : Int) : Option Double := do
  let start ← ofFraction? negative significand 1
  if significand = 0 then
    return start
  else if (greatestPower : Int) < exponent then
    none
  else if 0 ≤ exponent then
    start.mul? (← powerOfTen? exponent.toNat)
  else if -(greatestPower : Int) ≤ exponent then
    start.div? (← powerOfTen? (-exponent).toNat)
  else
    let reduced ← start.div? (← powerOfTen? greatestPower)
    -- Whatever is left to divide by, two full divisions leave nothing of a word.
    let left := min (-exponent).toNat (2 * greatestPower) - greatestPower
    reduced.div? (← powerOfTen? left)

/-- Takes digits while a word can hold the value that they have behind `taken`; answers the value
and the digits that were left.
-/
def takeWord (taken : Nat) : List Char → Nat × List Char
  | [] => (taken, [])
  | c :: rest =>
      let next := taken * 10 + (c.toNat - '0'.toNat)
      if next < UInt64.size then takeWord next rest else (taken, c :: rest)

/-- The number of a decimal, given the digits before and behind its point. Of those that are left
when the word is full, the ones before the point count as zeros and the others do not count; the
word is offered the digits behind the point even if some before it were left.
-/
def ofDigits? (negative : Bool) (whole fraction : List Char) (exponent : Int) : Option Double :=
  let (upper, left) := takeWord 0 whole
  let (significand, ignored) := takeWord upper fraction
  scaled? negative significand
    (exponent + left.length - (fraction.length - ignored.length : Nat))

end TaskFabric.Double
