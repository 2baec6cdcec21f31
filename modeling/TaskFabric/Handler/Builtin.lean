import TaskFabric.Handler

/-! The handlers that every node has: one copies its source, one adds it up. A sum of integers is an
integer as long as it and all partial sums have 64 bits; otherwise it is the sum of the nearest
binary fractions, from left to right.
-/

namespace TaskFabric.Handler

/-- Copies the source to the results. -/
def echo : Handler := plain fun source result context => ⟨.succeeded, result ++ source, context⟩

/-- The sum of signed 64-bit integers, unless a value is none or a partial sum does not fit. -/
def integerSum? (values : List Value) : Option Int64 :=
  values.foldlM
    (fun (total : Int64) value =>
      match value.int64? with
      | some n =>
          let sum := total.toInt + n.toInt
          if FitsSigned sum then some (Int64.ofInt sum) else none
      | none => none)
    0

/-- The sum of numbers as binary fractions, from left to right, unless it leaves the finite ones. -/
def fractionSum? (values : List Value) : Option Double :=
  values.foldlM
    (fun total value =>
      match value.number? with
      | some n => n.toDouble?.bind total.add?
      | none => some total)
    .negZero

/-- Adds the source up and appends the sum to the results; fails if a value is no number. -/
def sum : Handler :=
  plain fun source result context =>
    if source.all (·.number?.isSome) then
      let total :=
        match integerSum? source with
        | some total => Value.num (.ofInt64 total)
        | none => Value.ofDouble? (fractionSum? source)
      ⟨.succeeded, result ++ [total], context⟩
    else
      ⟨.failed, result, context⟩

/-- The names of the handlers that every node has. -/
def builtins : List (String × Handler) := [("echo", echo), ("sum", sum)]

end TaskFabric.Handler
