/-! Natural numbers in decimal notation, as they stand in addresses, keys and arguments. Leading
zeros are allowed; whether a plus sign is, and how great a number may be, is for the caller to say.
Reading back a written number gives the number (`Decimal.natural?_toDigits`).
-/

namespace TaskFabric.Decimal

/-- The number of a text that consists of digits, one at least. -/
def natural? (cs : List Char) : Option Nat :=
  if cs.isEmpty || !cs.all Char.isDigit then none else some (Nat.ofDigitChars 10 cs 0)

/-- As `natural?`, behind at most one plus sign. -/
def signedNatural? : List Char → Option Nat
  | '+' :: rest => natural? rest
  | cs => natural? cs

/-- A number below a bound, behind at most one plus sign. -/
def below? (bound : Nat) (cs : List Char) : Option Nat :=
  match signedNatural? cs with
  | some n => if n < bound then some n else none
  | none => none

theorem natural?_toDigits (n : Nat) : natural? (Nat.toDigits 10 n) = some n := by
  have hall : (Nat.toDigits 10 n).all Char.isDigit = true := by
    rw [List.all_eq_true]
    exact fun c hc => Nat.isDigit_of_mem_toDigits (by decide) (by decide) hc
  simp [natural?, hall, Nat.toDigits_ne_nil, Nat.ofDigitChars_toDigits]

end TaskFabric.Decimal
