import TaskFabric.Double

/-! The text of a finite binary number: the fewest decimal digits that no other number is nearer to
(`Double.ofDecimal?` gives the number back), and of those the nearest to it, laid out by position
where the decimal exponent is small and with an exponent mark elsewhere. The layout is one record,
`Double.layout`.
-/

namespace TaskFabric.Double

/-- The greatest `e` with `10 ^ e ≤ num / den`, for positive `num` and `den`. -/
def floorLog10 (num den : Nat) : Int :=
  if num ≥ den then
    (decimalLength (num / den) : Int) - 1
  else
    -(decimalLength ((den - 1) / num) : Int)

/-- A decimal significand without its trailing zeros, and the exponent of its last digit. -/
def trimZeros : Nat → Nat → Int → Nat × Int
  | 0, digits, exponent => (digits, exponent)
  | fuel + 1, digits, exponent =>
      if digits ≠ 0 ∧ digits % 10 = 0 then
        trimZeros fuel (digits / 10) (exponent + 1)
      else
        (digits, exponent)

/-- Of the two neighbours of a number on the grid of the multiples of `10 ^ exponent`, the nearest
one that reads back as the number.
-/
def neighbour? (d : Double) (exponent : Int) : Option Nat :=
  let num := d.numerator * Nat.pow 10 (-exponent).toNat
  let den := d.denominator * Nat.pow 10 exponent.toNat
  let below := num / den
  let above := below + 1
  let readsBack (digits : Nat) : Bool := ofDecimal? d.negative digits exponent == some d
  if 2 * (num % den) < den ∨ (2 * (num % den) = den ∧ below % 2 = 0) then
    if readsBack below then some below else if readsBack above then some above else none
  else
    if readsBack above then some above else if readsBack below then some below else none

/-- Looks for a neighbour on finer and finer grids, from `count` digits on. -/
def shortestFrom (d : Double) (leading : Int) : Nat → Nat → Nat × Int
  | 0, _ => (d.numerator / d.denominator, 0)
  | fuel + 1, count =>
      -- On this grid the number has `count` digits.
      let exponent := leading - count + 1
      match neighbour? d exponent with
      | some digits => trimZeros (count + 1) digits exponent
      | none => shortestFrom d leading fuel (count + 1)

/-- The digits of the shortest decimal that reads back, and the exponent of the last of them.
Seventeen digits always read back.
-/
def shortest (d : Double) : Nat × Int :=
  if d.pattern = 0 then
    (0, 0)
  else
    shortestFrom d (floorLog10 d.numerator d.denominator) 17 1

/-- The decisions that the text of a number leaves open once its digits are known. -/
structure Layout where
  /-- The least decimal exponent written by position. -/
  leastPositional : Int
  /-- The greatest decimal exponent written by position. -/
  greatestPositional : Int
  /-- What follows the digits of an integral value written by position. -/
  integralEnd : String
  /-- What stands between the digits and an exponent that is not negative. -/
  positiveMark : String
  /-- What stands between the digits and the magnitude of a negative exponent. -/
  negativeMark : String

/-- Numbers from `0.00001` up to, but not including, `10 ^ 16` are written by position, integral
ones with `.0`; the others have one digit before the point and a signed exponent.
-/
def layout : Layout := ⟨-5, 15, ".0", "e+", "e-"⟩

/-- Lays out decimal digits, of which the last counts `10 ^ exponent`. -/
def Layout.render (l : Layout) (digits : Nat) (exponent : Int) : String :=
  let text := Nat.toDigits 10 digits
  let leading := exponent + text.length - 1
  if leading < l.leastPositional ∨ l.greatestPositional < leading then
    let mantissa :=
      match text with
      | first :: second :: rest => first :: '.' :: second :: rest
      | short => short
    let mark := if leading < 0 then l.negativeMark else l.positiveMark
    String.ofList mantissa ++ mark ++ toString leading.natAbs
  else if exponent ≥ 0 then
    String.ofList (text ++ List.replicate exponent.toNat '0') ++ l.integralEnd
  else if leading < 0 then
    String.ofList ('0' :: '.' :: List.replicate (-leading - 1).toNat '0' ++ text)
  else
    let whole := (leading + 1).toNat
    String.ofList (text.take whole ++ '.' :: text.drop whole)

/-- The text of a number. -/
def text (d : Double) : String :=
  let (digits, exponent) := d.shortest
  (if d.negative then "-" else "") ++ layout.render digits exponent

end TaskFabric.Double
