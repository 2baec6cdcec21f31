import TaskFabric.Proofs.Scheduler.Expiries

/-! How far deadlines can be computed. A task may take a multiple of the base expiry, which is exact
wherever its whole seconds fit in 64 bits and has no value elsewhere. For a base expiry of so many
milliseconds they always fit, and so do the seconds of the deadline, for billions of years.
-/

namespace TaskFabric

-----------------------------------------------------------------------------------------
-- Multiples of a span
-----------------------------------------------------------------------------------------

namespace Duration

/-- A product has no value exactly if its whole seconds do not fit in 64 bits. -/
theorem scale?_eq_none_iff {d : Duration} {factor : UInt32}
    : d.scale? factor = none ↔ UInt64.size ≤ factor.toNat * d.toNanos / nanosPerSec := by
  rw [Nat.mul_comm]
  constructor
  · intro none
    by_contra fits
    obtain ⟨product, scaled⟩ := exists_scale? (Nat.not_le.mp fits)
    cases none.symm.trans scaled
  · intro beyond
    cases scaled : d.scale? factor with
    | none => rfl
    | some product => exact absurd (scale?_eq_some_iff.mp scaled).2 (Nat.not_lt.mpr beyond)

/-- The whole seconds of a span, and what is left of the next one. -/
theorem parts_eq (d : Duration)
    : d.secs.toNat = d.toNanos / nanosPerSec ∧ d.nanos.toNat = d.toNanos % nanosPerSec := by
  have left : d.nanos.toNat < 1000000000 := d.nanos_lt
  simp only [toNanos, nanosPerSec]
  omega

theorem toNanos_div_lt (d : Duration) : d.toNanos / nanosPerSec < UInt64.size := by
  rw [← d.parts_eq.1]
  exact d.secs.toNat_lt_size

end Duration

namespace TaskType

/-- An expiry has no value exactly if its whole seconds do not fit in 64 bits; a short task has the
base expiry, whose seconds do.
-/
theorem expiry?_eq_none_iff (type : TaskType) (base : Duration)
    : type.expiry? base = none
      ↔ UInt64.size ≤ type.factor.toNat * base.toNanos / nanosPerSec := by
  unfold expiry?
  split
  · next short =>
      subst short
      have fits := base.toNanos_div_lt
      simp only [reduceCtorEq, false_iff, factor, UInt32.toNat_one, Nat.one_mul]
      exact Nat.not_le.mpr fits
  · exact Duration.scale?_eq_none_iff

/-- Where an expiry has a value, it is the multiple of the base expiry. -/
theorem toNanos_of_expiry? {type : TaskType} {base limit : Duration}
    (found : type.expiry? base = some limit)
    : limit.toNanos = type.factor.toNat * base.toNanos := by
  unfold expiry? at found
  split at found
  · next short =>
      obtain rfl := Option.some.inj found
      subst short
      simp [factor]
  · rw [(Duration.scale?_eq_some_iff.mp found).1, Nat.mul_comm]

theorem toNanos_of_expiry?_ofMillis {type : TaskType} {ms : UInt64} {limit : Duration}
    (found : type.expiry? (.ofMillis ms) = some limit)
    : limit.toNanos = type.factor.toNat * ms.toNat * 1000000 := by
  rw [toNanos_of_expiry? found, Duration.toNanos_ofMillis, Nat.mul_assoc]

end TaskType

-----------------------------------------------------------------------------------------
-- Calls to a scheduler
-----------------------------------------------------------------------------------------

namespace Scheduler

variable {s : Scheduler} {ms : UInt64}

/-- A scheduler with a base expiry of so many milliseconds can represent its deadlines. -/
theorem punctual_of_early (configured : s.expire = .ofMillis ms)
    (early : s.clock.nanos / nanosPerSec < 4611686018427387904)
    : s.Punctual := by
  intro type
  obtain ⟨limit, known, _⟩ := type.exists_expiry? ms
  obtain ⟨deadline, added⟩ := s.clock.exists_add? early known
  exact ⟨limit, deadline, configured ▸ known, added⟩

theorem Punctual.doneEach_ne_overflow (punctual : s.Punctual) (tasks : Batch)
    : (s.doneEach tasks).1 ≠ .error .overflow := by
  obtain ⟨expiries, deadlines, found, counted, _⟩ := punctual.exists_deadlines tasks.toList
  simp only [doneEach, found]
  split
  · simp
  · simp [counted]

theorem Punctual.done_ne_overflow (punctual : s.Punctual) (task : Task)
    : (s.done task).1 ≠ .error .overflow := by
  obtain ⟨limit, _, found, _⟩ := punctual task.type
  simp only [done, found]
  split
  · simp
  · rename_i id queued entered
    cases (queued.settle.wait id).1 <;> simp [Except.mapError]

/-- The deadline of a task lies as long behind its submission as a task of its type may take. -/
theorem deadline?_eq_of_early (configured : s.expire = .ofMillis ms)
    (early : s.clock.nanos / nanosPerSec < 4611686018427387904) (task : Task)
    : s.deadline? task
      = some ⟨s.clock.nanos + task.type.factor.toNat * ms.toNat * 1000000⟩ := by
  obtain ⟨limit, deadline, found, added⟩ := punctual_of_early configured early task.type
  have length := TaskType.toNanos_of_expiry?_ofMillis (configured ▸ found)
  obtain ⟨_, same⟩ := Option.ite_none_right_eq_some.mp added
  rw [deadline?, found, Option.bind_some, added, ← same, length]

end Scheduler

-----------------------------------------------------------------------------------------
-- Deadlines
-----------------------------------------------------------------------------------------

/-- The deadlines of a node are exact. A task may take one, three, ten or sixty times the base
expiry, according to whether it is short, routine, long or permanent, and of any number of
milliseconds this is a span, of exactly so many whole seconds and so many milliseconds. Until the
clock has come to 2 ^ 62 seconds it can be added to any reading; so no call to a scheduler of that
base expiry ends because a deadline cannot be represented, and each task has its deadline so much
later than it was submitted. Of an arbitrary base expiry the multiple has no value exactly if its
whole seconds do not fit in 64 bits, and otherwise it is exact.
-/
theorem deadlines_are_exact (type : TaskType)
    : (type, type.factor.toNat) ∈ [(.short, 1), (.routine, 3), (.long, 10), (.permanent, 60)]
      ∧ (∀ ms : UInt64, ∃ limit,
          type.expiry? (.ofMillis ms) = some limit
          ∧ limit.toNanos = type.factor.toNat * ms.toNat * 1000000
          ∧ limit.secs.toNat = type.factor.toNat * ms.toNat / 1000
          ∧ limit.nanos.toNat = type.factor.toNat * ms.toNat % 1000 * 1000000
          ∧ limit.nanos.toNat < nanosPerSec
          ∧ ∀ now : Instant, now.nanos / nanosPerSec < 4611686018427387904 →
              now.add? limit = some ⟨now.nanos + limit.toNanos⟩)
      ∧ (∀ (s : Scheduler) (ms : UInt64), s.expire = .ofMillis ms →
          s.clock.nanos / nanosPerSec < 4611686018427387904 →
          (∀ tasks, (s.doneEach tasks).1 ≠ .error .overflow)
          ∧ (∀ task, (s.done task).1 ≠ .error .overflow)
          ∧ ∀ task, task.type = type →
              s.deadline? task
                = some ⟨s.clock.nanos + type.factor.toNat * ms.toNat * 1000000⟩)
      ∧ ∀ base : Duration,
          (type.expiry? base = none
            ↔ UInt64.size ≤ type.factor.toNat * base.toNanos / nanosPerSec)
          ∧ ∀ limit, type.expiry? base = some limit →
              limit.toNanos = type.factor.toNat * base.toNanos := by
  refine ⟨by cases type <;> decide, ?_, ?_, ?_⟩
  · intro ms
    obtain ⟨limit, found, _⟩ := type.exists_expiry? ms
    have length := TaskType.toNanos_of_expiry?_ofMillis found
    obtain ⟨secs, nanos⟩ := limit.parts_eq
    rw [length] at secs nanos
    simp only [nanosPerSec] at secs nanos
    refine ⟨limit, found, length, by omega, by omega, limit.nanos_lt, ?_⟩
    intro now early
    obtain ⟨deadline, added⟩ := now.exists_add? early found
    obtain ⟨_, same⟩ := Option.ite_none_right_eq_some.mp added
    rw [added, same]
  · intro s ms configured early
    have punctual := Scheduler.punctual_of_early configured early
    refine ⟨punctual.doneEach_ne_overflow, punctual.done_ne_overflow, ?_⟩
    intro task same
    rw [Scheduler.deadline?_eq_of_early configured early, same]
  · intro base
    exact ⟨type.expiry?_eq_none_iff base, fun limit found => TaskType.toNanos_of_expiry? found⟩

-- Three times the longest such span has 2 ^ 64 - 1 seconds; one nanosecond more is carried over.
example
    : (TaskType.routine.expiry? ⟨6148914691236517205, 333333333, by decide⟩).isSome
      ∧ TaskType.routine.expiry? ⟨6148914691236517205, 333333334, by decide⟩ = none := by
  decide

end TaskFabric
