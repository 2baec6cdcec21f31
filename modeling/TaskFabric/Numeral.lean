/-! Numbers in a base of at most sixteen, without sign. Digits beyond nine are letters of either
case.
-/

namespace TaskFabric.Numeral

/-- The value of a digit in a base. -/
def digit? (base : Nat) (c : Char) : Option Nat :=
  let value :=
    if '0' ≤ c ∧ c ≤ '9' then c.toNat - 48
    else if 'a' ≤ c ∧ c ≤ 'f' then c.toNat - 87
    else if 'A' ≤ c ∧ c ≤ 'F' then c.toNat - 55
    else base
  if value < base then some value else none

/-- Whether a character is a digit in a base. -/
def isDigit (base : Nat) (c : Char) : Bool := (digit? base c).isSome

/-- The value of digits. -/
def value (base : Nat) (digits : List Char) : Nat :=
  digits.foldl (fun n c => n * base + (digit? base c).getD 0) 0

/-- The value of a text, unless a character is no digit. -/
def ofDigits? (base : Nat) (cs : List Char) : Option Nat :=
  if cs.all (isDigit base) then some (value base cs) else none

/-- The number at the front of a text, below a bound, of at most `most` digits of which there has
to be one, and the text behind it.
-/
def front? (base bound most : Nat) (cs : List Char) : Option (Nat × List Char) :=
  let digits := cs.takeWhile (isDigit base)
  if digits.isEmpty ∨ most < digits.length ∨ bound ≤ value base digits then none
  else some (value base digits, cs.dropWhile (isDigit base))

end TaskFabric.Numeral
