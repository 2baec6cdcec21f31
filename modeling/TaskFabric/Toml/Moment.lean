/-! Dates and times of day in configuration documents: their notation and the ranges of their parts.
A reader takes the longest moment off the front of a text; no setting uses its value.
-/

namespace TaskFabric.Toml.Moment

/-- Two digits of a number in a range. -/
def twoDigits? (least greatest : Nat) : List Char → Option (Nat × List Char)
  | a :: b :: rest =>
      if a.isDigit && b.isDigit then
        let n := Nat.ofDigitChars 10 [a, b] 0
        if least ≤ n ∧ n ≤ greatest then some (n, rest) else none
      else
        none
  | _ => none

/-- The days of a month. -/
def daysIn (year month : Nat) : Nat :=
  if month = 2 then
    if year % 4 = 0 ∧ (year % 100 ≠ 0 ∨ year % 400 = 0) then 29 else 28
  else if month = 4 ∨ month = 6 ∨ month = 9 ∨ month = 11 then
    30
  else
    31

/-- A date. -/
def date? : List Char → Option (List Char)
  | a :: b :: c :: d :: '-' :: rest =>
      if [a, b, c, d].all Char.isDigit then
        match twoDigits? 1 12 rest with
        | some (month, '-' :: rest) =>
            (twoDigits? 1 (daysIn (Nat.ofDigitChars 10 [a, b, c, d] 0) month) rest).map (·.2)
        | _ => none
      else
        none
  | _ => none

/-- A time of day, of which the seconds may have a fraction. -/
def time? (cs : List Char) : Option (List Char) :=
  match twoDigits? 0 23 cs with
  | some (_, ':' :: rest) =>
      match twoDigits? 0 59 rest with
      | some (_, ':' :: rest) =>
          match twoDigits? 0 60 rest with
          | some (_, '.' :: rest) =>
              if rest.head?.any Char.isDigit then some (rest.dropWhile Char.isDigit)
              else some ('.' :: rest)
          | some (_, rest) => some rest
          | none => none
      | _ => none
  | _ => none

/-- The text behind an offset from universal time, if there is one. -/
def skipOffset (cs : List Char) : List Char :=
  match cs with
  | sign :: rest =>
      if sign = 'Z' ∨ sign = 'z' then
        rest
      else if sign = '+' ∨ sign = '-' then
        match twoDigits? 0 23 rest with
        | some (_, ':' :: behind) =>
            match twoDigits? 0 59 behind with
            | some (_, behind) => behind
            | none => cs
        | _ => cs
      else
        cs
  | [] => []

/-- A moment: a date, a time of day, or both with a separator between them and perhaps an offset
behind them.
-/
def read? (cs : List Char) : Option (List Char) :=
  match date? cs with
  | some rest =>
      match rest with
      | separator :: behind =>
          if separator = 'T' ∨ separator = 't' ∨ separator = ' ' then
            match time? behind with
            | some behind => some (skipOffset behind)
            | none => some rest
          else
            some rest
      | [] => some []
  | none => time? cs

end TaskFabric.Toml.Moment
