import Mathlib.Algebra.Order.BigOperators.Group.List
import Mathlib.Algebra.Ring.Int.Defs
import TaskFabric.Handler.Builtin

/-! What comes of adding integers up. A sum of integers is exact if every running total has 64 bits,
whether or not the integers could be put into another order: if the sum itself has 64 bits there is
an order in which it is exact, and it is exact in every order only if what is gained alone and what
is lost alone have 64 bits as well.
-/

namespace TaskFabric

-----------------------------------------------------------------------------------------
-- Running totals
-----------------------------------------------------------------------------------------

/-- All running totals of some amounts have 64 bits, from the one before the first amount on. -/
def RunningFit (total : Int) (amounts : List Int) : Prop :=
  ∀ part, part <+: amounts → FitsSigned (total + part.sum)

/-- The sum of what is gained. -/
def gains (amounts : List Int) : Int := (amounts.filter (0 < ·)).sum

/-- The sum of what is lost. -/
def losses (amounts : List Int) : Int := (amounts.filter (· < 0)).sum

section RunningTotals

variable {total n : Int} {amounts rest : List Int}

theorem runningFit_nil : RunningFit total [] ↔ FitsSigned total := by
  simp [RunningFit]

theorem runningFit_cons
    : RunningFit total (n :: rest) ↔ FitsSigned total ∧ RunningFit (total + n) rest := by
  constructor
  · intro fit
    refine ⟨by simpa using fit [] List.nil_prefix, ?_⟩
    intro part initial
    have longer := fit (n :: part) (List.prefix_cons_iff.mpr (.inr ⟨part, rfl, initial⟩))
    rwa [List.sum_cons, ← Int.add_assoc] at longer
  · rintro ⟨first, later⟩ part initial
    rcases List.prefix_cons_iff.mp initial with rfl | ⟨behind, rfl, inside⟩
    · simpa using first
    · rw [List.sum_cons, ← Int.add_assoc]
      exact later behind inside

theorem sum_nonpos (down : ∀ n ∈ amounts, n ≤ 0) : amounts.sum ≤ 0 := by
  simpa using List.sum_le_card_nsmul amounts 0 down

theorem gains_nonneg (amounts : List Int) : 0 ≤ gains amounts := by
  refine List.sum_nonneg fun n member => ?_
  exact Int.le_of_lt (of_decide_eq_true (List.mem_filter.mp member).2)

theorem losses_nonpos (amounts : List Int) : losses amounts ≤ 0 := by
  refine sum_nonpos fun n member => ?_
  exact Int.le_of_lt (of_decide_eq_true (List.mem_filter.mp member).2)

/-- No running total goes beyond what is gained or lost, by induction on the amounts. -/
theorem runningFit_of_gains_losses (least : -signedBound ≤ total + losses amounts)
    (most : total + gains amounts < signedBound)
    : RunningFit total amounts := by
  induction amounts generalizing total with
  | nil =>
      rw [runningFit_nil]
      simp only [losses, gains, List.filter_nil, List.sum_nil] at least most
      omega
  | cons n rest ih =>
      have lost := losses_nonpos rest
      have gained := gains_nonneg rest
      have lostFirst : losses (n :: rest) = min n 0 + losses rest := by
        by_cases loss : n < 0
        · simp [losses, loss, Int.min_eq_left (Int.le_of_lt loss)]
        · simp [losses, loss, Int.min_eq_right (Int.not_lt.mp loss)]
      have gainedFirst : gains (n :: rest) = max n 0 + gains rest := by
        by_cases gain : 0 < n
        · simp [gains, gain, Int.max_eq_left (Int.le_of_lt gain)]
        · simp [gains, gain, Int.max_eq_right (Int.not_lt.mp gain)]
      rw [lostFirst] at least
      rw [gainedFirst] at most
      refine runningFit_cons.mpr ⟨by omega, ih ?_ ?_⟩
      · omega
      · omega

/-- If what is gained has 64 bits, and what is lost, then all running totals of every order have. -/
theorem runningFit_of_perm {others : List Int} (order : others.Perm amounts)
    (gained : FitsSigned (gains amounts)) (lost : FitsSigned (losses amounts))
    : RunningFit 0 others := by
  have gainedSame : gains others = gains amounts := (order.filter _).sum_eq
  have lostSame : losses others = losses amounts := (order.filter _).sum_eq
  refine runningFit_of_gains_losses ?_ ?_
  · rw [lostSame, Int.zero_add]
    exact lost.1
  · rw [gainedSame, Int.zero_add]
    exact gained.2

end RunningTotals

section Orders

variable {α : Type} {amount : α → Int} {total : Int} {l : List α}

/-- As long as there are amounts, one of them leads to a total with 64 bits, if each of them and all
of them together do: one that brings the total closer to zero, or, if there is none, any one, since
the total then goes straight to its end.
-/
theorem exists_fitting_amount (each : ∀ a ∈ l, FitsSigned (amount a)) (starts : FitsSigned total)
    (ends : FitsSigned (total + (l.map amount).sum)) (some : l ≠ [])
    : ∃ a ∈ l, FitsSigned (total + amount a) := by
  obtain ⟨first, rest, rfl⟩ := List.exists_cons_of_ne_nil some
  rw [List.map_cons, List.sum_cons] at ends
  rcases lt_or_ge total 0 with negative | positive
  · by_cases gain : ∃ a ∈ first :: rest, 0 ≤ amount a
    · obtain ⟨a, member, up⟩ := gain
      have own := each a member
      exact ⟨a, member, by omega⟩
    · have down : (rest.map amount).sum ≤ 0 := by
        refine sum_nonpos ?_
        simp only [List.forall_mem_map]
        intro a member
        by_contra up
        exact gain ⟨a, List.mem_cons_of_mem _ member, by omega⟩
      have own : ¬ 0 ≤ amount first := fun up => gain ⟨first, List.mem_cons_self, up⟩
      exact ⟨first, List.mem_cons_self, by omega⟩
  · by_cases loss : ∃ a ∈ first :: rest, amount a ≤ 0
    · obtain ⟨a, member, down⟩ := loss
      have own := each a member
      exact ⟨a, member, by omega⟩
    · have up : 0 ≤ (rest.map amount).sum := by
        refine List.sum_nonneg ?_
        simp only [List.forall_mem_map]
        intro a member
        by_contra down
        exact loss ⟨a, List.mem_cons_of_mem _ member, by omega⟩
      have own : ¬ amount first ≤ 0 := fun down => loss ⟨first, List.mem_cons_self, down⟩
      exact ⟨first, List.mem_cons_self, by omega⟩

/-- Amounts with a sum of 64 bits have an order in which all running totals have 64 bits, by
induction on their number.
-/
theorem exists_order_runningFit (each : ∀ a ∈ l, FitsSigned (amount a))
    (starts : FitsSigned total) (ends : FitsSigned (total + (l.map amount).sum))
    : ∃ order : List α, order.Perm l ∧ RunningFit total (order.map amount) := by
  generalize size : l.length = count
  induction count generalizing l total with
  | zero =>
      obtain rfl := List.length_eq_zero_iff.mp size
      exact ⟨[], .nil, runningFit_nil.mpr starts⟩
  | succ count ih =>
      obtain ⟨a, member, fits⟩ :=
        exists_fitting_amount each starts ends (List.ne_nil_of_length_eq_add_one size)
      obtain ⟨before, behind, rfl⟩ := List.append_of_mem member
      have apart : (a :: (before ++ behind)).Perm (before ++ a :: behind) :=
        List.perm_middle.symm
      have rests : FitsSigned (total + amount a + ((before ++ behind).map amount).sum) := by
        have same := (apart.map amount).sum_eq
        rw [List.map_cons, List.sum_cons] at same
        rwa [Int.add_assoc, same]
      have fewer : (before ++ behind).length = count := by
        have same := apart.length_eq
        simp only [List.length_cons] at same
        omega
      obtain ⟨order, rearranged, fit⟩ :=
        ih (fun b there => each b (apart.subset (List.mem_cons_of_mem _ there))) fits rests fewer
      exact ⟨a :: order, (rearranged.cons a).trans apart, runningFit_cons.mpr ⟨starts, fit⟩⟩

/-- If all running totals have 64 bits in every order, then what is gained has, and what is lost. -/
theorem fits_of_every_order
    (every : ∀ order : List α, order.Perm l → RunningFit 0 (order.map amount))
    : FitsSigned (gains (l.map amount)) ∧ FitsSigned (losses (l.map amount)) := by
  have chosen (p : Int → Bool) : FitsSigned ((l.map amount).filter p).sum := by
    have order := List.filter_append_perm (p ∘ amount) l
    have fit := every _ order ((l.filter (p ∘ amount)).map amount)
    rw [List.map_append, Int.zero_add, ← List.filter_map] at fit
    exact fit (List.prefix_append _ _)
  exact ⟨chosen _, chosen _⟩

end Orders

-----------------------------------------------------------------------------------------
-- Integers as payloads
-----------------------------------------------------------------------------------------

namespace Value

variable {value : Value} {n : Int64}

/-- The integer that a payload stands for; nothing counts as zero. -/
def amount (value : Value) : Int := (value.int64?.map Int64.toInt).getD 0

theorem amount_of_int64? (integer : value.int64? = some n) : value.amount = n.toInt := by
  rw [amount, integer, Option.map_some, Option.getD_some]

theorem fitsSigned_amount (value : Value) : FitsSigned value.amount := by
  cases integer : value.int64? with
  | none =>
      rw [amount, integer]
      decide
  | some n =>
      rw [amount_of_int64? integer]
      exact ⟨n.le_toInt, n.toInt_lt⟩

theorem number?_of_int64? (integer : value.int64?.isSome) : value.number?.isSome := by
  cases written : value.doc with
  | num number => simp [number?, written]
  | _ => simp [int64?, Json.int?, written] at integer

/-- A fraction is not an integer, nor is the lack of one. -/
theorem int?_ofDouble? (d : Option Double) : (ofDouble? d).doc.int? = none := by
  cases d <;> rfl

end Value

namespace Handler

variable {source order : List Value} {total last : Int64} {result : List Value}
  {context : SortedMap String Value}

/-- Adds the integer of a payload to a total, unless there is none or the next total does not fit.
-/
def addTo? (total : Int64) (value : Value) : Option Int64 :=
  match value.int64? with
  | some n =>
      let sum := total.toInt + n.toInt
      if FitsSigned sum then some (Int64.ofInt sum) else none
  | none => none

theorem integerSum?_eq (source : List Value) : integerSum? source = source.foldlM addTo? 0 := rfl

theorem addTo?_eq_some_iff {value : Value} (integer : value.int64?.isSome)
    : addTo? total value = some last
      ↔ FitsSigned (total.toInt + value.amount) ∧ last.toInt = total.toInt + value.amount := by
  obtain ⟨n, found⟩ := Option.isSome_iff_exists.mp integer
  rw [addTo?, found, Value.amount_of_int64? found]
  simp only [Option.ite_none_right_eq_some, Option.some.injEq]
  refine and_congr_right fun fits => ?_
  rw [← Int64.toInt_inj, Int64.toInt_ofInt_of_le fits.1 fits.2, eq_comm]

/-- Integers have a sum exactly if all running totals fit, by induction on the integers. -/
theorem foldlM_addTo?_eq_some_iff (integers : ∀ value ∈ source, value.int64?.isSome)
    : source.foldlM addTo? total = some last
      ↔ RunningFit total.toInt (source.map Value.amount)
        ∧ last.toInt = total.toInt + (source.map Value.amount).sum := by
  have starts : FitsSigned total.toInt := ⟨total.le_toInt, total.toInt_lt⟩
  induction source generalizing total with
  | nil =>
      rw [List.foldlM_nil, List.map_nil, runningFit_nil, List.sum_nil, Int.add_zero,
        and_iff_right starts, Option.pure_def, Option.some.injEq, ← Int64.toInt_inj, eq_comm]
  | cons value rest ih =>
      obtain ⟨first, others⟩ := List.forall_mem_cons.mp integers
      rw [List.foldlM_cons, List.map_cons, runningFit_cons, List.sum_cons, ← Int.add_assoc]
      constructor
      · intro summed
        obtain ⟨next, added, summed⟩ := Option.bind_eq_some_iff.mp summed
        obtain ⟨fits, same⟩ := (addTo?_eq_some_iff first).mp added
        obtain ⟨fit, ends⟩ := (ih others ⟨next.le_toInt, next.toInt_lt⟩).mp summed
        rw [same] at fit ends
        exact ⟨⟨starts, fit⟩, ends⟩
      · rintro ⟨⟨_, fit⟩, ends⟩
        have fits : FitsSigned (total.toInt + value.amount) := by
          simpa using fit [] List.nil_prefix
        let next := Int64.ofInt (total.toInt + value.amount)
        have same : next.toInt = total.toInt + value.amount :=
          Int64.toInt_ofInt_of_le fits.1 fits.2
        refine Option.bind_eq_some_iff.mpr ⟨next, (addTo?_eq_some_iff first).mpr ⟨fits, same⟩, ?_⟩
        refine (ih others ⟨next.le_toInt, next.toInt_lt⟩).mpr ?_
        rw [same]
        exact ⟨fit, ends⟩

theorem all_numbers (integers : ∀ value ∈ source, value.int64?.isSome)
    : source.all (·.number?.isSome) = true := by
  rw [List.all_eq_true]
  exact fun value member => Value.number?_of_int64? (integers value member)

/-- The integers of a source are added up if all running totals fit. -/
theorem sum_of_runningFit (integers : ∀ value ∈ source, value.int64?.isSome)
    (fit : RunningFit 0 (source.map Value.amount))
    : sum.run source result context
      = ⟨.succeeded,
          result ++ [.num (.ofInt64 (Int64.ofInt (source.map Value.amount).sum))], context⟩ := by
  have fits : FitsSigned (source.map Value.amount).sum := by
    simpa using fit _ List.prefix_rfl
  have summed : integerSum? source = some (Int64.ofInt (source.map Value.amount).sum) := by
    rw [integerSum?_eq, foldlM_addTo?_eq_some_iff integers, Int64.toInt_ofInt_of_le fits.1 fits.2]
    exact ⟨fit, (Int.zero_add _).symm⟩
  simp only [sum, plain, all_numbers integers, if_true, summed]

/-- If one does not fit, the payload is a fraction, or nothing. -/
theorem exists_sum_of_not_runningFit (integers : ∀ value ∈ source, value.int64?.isSome)
    (unfit : ¬ RunningFit 0 (source.map Value.amount)) (result : List Value)
    (context : SortedMap String Value)
    : ∃ total,
        sum.run source result context = ⟨.succeeded, result ++ [total], context⟩
        ∧ total.doc.int? = none := by
  have inexact : integerSum? source = none := by
    by_contra exact
    obtain ⟨last, summed⟩ := Option.ne_none_iff_exists'.mp exact
    rw [integerSum?_eq, foldlM_addTo?_eq_some_iff integers] at summed
    exact unfit summed.1
  refine ⟨.ofDouble? (fractionSum? source), ?_, Value.int?_ofDouble? _⟩
  simp only [sum, plain, all_numbers integers, if_true, inexact]

/-- A source with a payload that is no number is refused. -/
theorem sum_of_not_number (other : ∃ value ∈ source, value.number? = none)
    : sum.run source result context = ⟨.failed, result, context⟩ := by
  have numbers : source.all (·.number?.isSome) = false := by
    simpa [List.all_eq_false] using other
  simp only [sum, plain, numbers]
  rfl

/-- The integers of a source are added up to one payload, which is their sum exactly if all running
totals fit.
-/
theorem exists_total (integers : ∀ value ∈ source, value.int64?.isSome) (result : List Value)
    (context : SortedMap String Value)
    : ∃ total,
        sum.run source result context = ⟨.succeeded, result ++ [total], context⟩
        ∧ (total.doc.int? = some (source.map Value.amount).sum
            ↔ RunningFit 0 (source.map Value.amount)) := by
  by_cases fit : RunningFit 0 (source.map Value.amount)
  · have fits : FitsSigned (source.map Value.amount).sum := by
      simpa using fit _ List.prefix_rfl
    refine ⟨_, sum_of_runningFit integers fit, iff_of_true ?_ fit⟩
    exact congrArg some (Int64.toInt_ofInt_of_le fits.1 fits.2)
  · obtain ⟨total, summed, fraction⟩ := exists_sum_of_not_runningFit integers fit result context
    exact ⟨total, summed, iff_of_false (by simp [fraction]) fit⟩

/-- The integers of a source can be put into an order in which their sum is exact, if it has 64
bits.
-/
theorem exists_exact_order (integers : ∀ value ∈ source, value.int64?.isSome)
    (fits : FitsSigned (source.map Value.amount).sum) (result : List Value)
    (context : SortedMap String Value)
    : ∃ order : List Value,
        order.Perm source
        ∧ ∃ total,
            sum.run order result context = ⟨.succeeded, result ++ [total], context⟩
            ∧ total.doc.int? = some (source.map Value.amount).sum := by
  rw [← Int.zero_add (List.sum _)] at fits
  obtain ⟨order, rearranged, fit⟩ : ∃ order : List Value,
      order.Perm source ∧ RunningFit 0 (order.map Value.amount) :=
    exists_order_runningFit (fun value _ => value.fitsSigned_amount) (by decide) fits
  obtain ⟨total, summed, exact⟩ :=
    exists_total (fun value member => integers value (rearranged.subset member)) result context
  rw [(rearranged.map _).sum_eq] at exact
  exact ⟨order, rearranged, total, summed, exact.mpr fit⟩

/-- The order of a source makes no difference exactly if what is gained has 64 bits, and what is
lost.
-/
theorem orders_alike_iff (integers : ∀ value ∈ source, value.int64?.isSome)
    (fits : FitsSigned (source.map Value.amount).sum) (result : List Value)
    (context : SortedMap String Value)
    : (∀ order : List Value, order.Perm source →
        sum.run order result context = sum.run source result context)
      ↔ FitsSigned (gains (source.map Value.amount))
        ∧ FitsSigned (losses (source.map Value.amount)) := by
  have others {order : List Value} (rearranged : order.Perm source)
      : ∀ value ∈ order, value.int64?.isSome :=
    fun value member => integers value (rearranged.subset member)
  constructor
  · intro alike
    obtain ⟨best, rearranged, exact, summed, same⟩ :=
      exists_exact_order integers fits result context
    refine fits_of_every_order fun order reordered => ?_
    obtain ⟨total, added, isExact⟩ := exists_total (others reordered) result context
    -- The outcome is that of an order in which the sum is exact.
    have equal : total = exact := by
      have outcomes := (alike order reordered).trans (alike best rearranged).symm
      rw [added, summed] at outcomes
      simpa using outcomes
    rw [(reordered.map _).sum_eq, equal] at isExact
    exact isExact.mp same
  · rintro ⟨gained, lost⟩ order reordered
    have fit {order : List Value} (reordered : order.Perm source)
        : RunningFit 0 (order.map Value.amount) :=
      runningFit_of_perm (reordered.map _) gained lost
    rw [sum_of_runningFit (others reordered) (fit reordered), (reordered.map _).sum_eq,
      sum_of_runningFit integers (fit .rfl)]

/-- Sums of integers of 64 bits are exact as long as the running totals are. The integers of a
source are always added up to one payload, and the context is left alone. This payload is the
integer that is their sum exactly if no running total leaves 64 bits. If the sum itself has 64 bits,
then there is an order of the source in which the payload is that integer; and all orders have the
same outcome exactly if what is gained alone and what is lost alone have 64 bits. A source with
anything else than numbers fails and leaves results and context as they were.
-/
theorem integer_sums_are_exact_while_totals_fit (source result : List Value)
    (context : SortedMap String Value)
    : ((∀ value ∈ source, value.int64?.isSome) →
        let amounts := source.map Value.amount
        (∃ total,
          sum.run source result context = ⟨.succeeded, result ++ [total], context⟩
          ∧ (total.doc.int? = some amounts.sum ↔ RunningFit 0 amounts))
        ∧ (FitsSigned amounts.sum →
            (∃ order : List Value,
              order.Perm source
              ∧ ∃ total,
                  sum.run order result context = ⟨.succeeded, result ++ [total], context⟩
                  ∧ total.doc.int? = some amounts.sum)
            ∧ ((∀ order : List Value, order.Perm source →
                  sum.run order result context = sum.run source result context)
                ↔ FitsSigned (gains amounts) ∧ FitsSigned (losses amounts))))
      ∧ ((∃ value ∈ source, value.number? = none) →
          sum.run source result context = ⟨.failed, result, context⟩) := by
  refine ⟨?_, sum_of_not_number⟩
  intro integers amounts
  refine ⟨exists_total integers result context, ?_⟩
  intro fits
  exact ⟨exists_exact_order integers fits result context,
    orders_alike_iff integers fits result context⟩

/-- Payloads of these integers. -/
def payloads (amounts : List Int64) : List Value := amounts.map fun n => .num (.ofInt64 n)

/-- The greatest integer of 64 bits, one and minus one do not add up to an integer, since the
running total of the first two does not have 64 bits; in another order they add up to the greatest
integer.
-/
theorem greatest_and_one_and_minus_one_lose_places
    : let early := payloads [9223372036854775807, 1, -1]
      let late := payloads [9223372036854775807, -1, 1]
      (∀ value ∈ early, value.int64?.isSome)
      ∧ (early.map Value.amount).sum = 9223372036854775807
      ∧ late.Perm early
      ∧ sum.run late [] ∅ = ⟨.succeeded, payloads [9223372036854775807], ∅⟩
      ∧ ∃ total, sum.run early [] ∅ = ⟨.succeeded, [total], ∅⟩ ∧ total.doc.int? = none := by
  intro early late
  have each : ∀ value ∈ early, value.int64?.isSome := by decide
  refine ⟨each, by decide, (List.Perm.swap _ _ _).cons _, rfl, ?_⟩
  refine exists_sum_of_not_runningFit each ?_ [] ∅
  intro fit
  have beyond := fit [9223372036854775807, 1] ⟨[-1], rfl⟩
  exact absurd beyond (by decide)

end Handler

end TaskFabric
