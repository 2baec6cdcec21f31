import TaskFabric.Task

/-! Deadlines of a configured node. A base expiry of so many milliseconds leaves room for every type
of task, since the longest-lived one takes sixty times as long and a second has a thousand
milliseconds.
-/

namespace TaskFabric

theorem Duration.toNanos_ofMillis (ms : UInt64)
    : (Duration.ofMillis ms).toNanos = ms.toNat * 1000000 := by
  have small : ms.toNat % 1000 < 1000 := Nat.mod_lt _ (by decide)
  have nanos : ((ms % 1000).toUInt32 * 1000000).toNat = ms.toNat % 1000 * 1000000 := by
    rw [UInt32.toNat_mul, UInt64.toNat_toUInt32, UInt64.toNat_mod]
    simp only [UInt32.reduceToNat, UInt64.toNat_ofNat, Nat.reducePow, Nat.reduceMod]
    omega
  have secs : (ms / 1000).toNat = ms.toNat / 1000 := by
    simp [UInt64.toNat_div]
  simp only [Duration.toNanos, Duration.ofMillis, secs, nanos, nanosPerSec]
  omega

/-- A product has a value as soon as its whole seconds fit in 64 bits. -/
theorem Duration.exists_scale? {d : Duration} {factor : UInt32}
    (fits : d.toNanos * factor.toNat / nanosPerSec < UInt64.size)
    : ∃ e, d.scale? factor = some e := by
  cases scaled : d.scale? factor with
  | some e => exact ⟨e, rfl⟩
  | none =>
      have whole : d.toNanos * factor.toNat / nanosPerSec
          = d.secs.toNat * factor.toNat + d.nanos.toNat * factor.toNat / nanosPerSec := by
        rw [Duration.toNanos, Nat.add_mul, Nat.mul_right_comm, Nat.mul_comm _ nanosPerSec,
          Nat.mul_add_div (by decide)]
      rw [whole] at fits
      simp [Duration.scale?, Duration.ofParts?, fits] at scaled

theorem TaskType.factor_le (type : TaskType) : type.factor.toNat ≤ 60 := by
  cases type <;> decide

theorem TaskType.nanos_lt (type : TaskType) (ms : UInt64)
    : ms.toNat * 1000000 * type.factor.toNat < 18446744073709551616 * 60000000 := by
  have product : ms.toNat * 1000000 * type.factor.toNat ≤ ms.toNat * 1000000 * 60 :=
    Nat.mul_le_mul_left _ type.factor_le
  have bound := ms.toNat_lt
  omega

/-- The expiry of a task of a configured node exists and is the product of the base expiry and the
factor of its type.
-/
theorem TaskType.exists_expiry? (type : TaskType) (ms : UInt64)
    : ∃ limit,
        type.expiry? (.ofMillis ms) = some limit
        ∧ limit.toNanos = ms.toNat * 1000000 * type.factor.toNat := by
  unfold TaskType.expiry?
  split
  · next short =>
      subst short
      exact ⟨_, rfl, by simp [Duration.toNanos_ofMillis, TaskType.factor]⟩
  · have bound := type.nanos_lt ms
    have fits : (Duration.ofMillis ms).toNanos * type.factor.toNat / nanosPerSec < UInt64.size := by
      rw [Duration.toNanos_ofMillis]
      simp only [nanosPerSec, UInt64.size]
      omega
    obtain ⟨limit, scaled⟩ := Duration.exists_scale? fits
    have exact := (Duration.scale?_eq_some_iff.mp scaled).1
    rw [Duration.toNanos_ofMillis] at exact
    exact ⟨limit, scaled, exact⟩

theorem TaskType.expiry?_ofMillis_ne_none (type : TaskType) (ms : UInt64)
    : type.expiry? (.ofMillis ms) ≠ none := by
  obtain ⟨limit, found, _⟩ := type.exists_expiry? ms
  simp [found]

/-- The deadline of a task of a configured node can be held by the clock for billions of years. -/
theorem Instant.exists_add? (now : Instant) (early : now.nanos / nanosPerSec < 4611686018427387904)
    {type : TaskType} {ms : UInt64} {limit : Duration}
    (found : type.expiry? (.ofMillis ms) = some limit)
    : ∃ deadline, now.add? limit = some deadline := by
  obtain ⟨same, known, length⟩ := type.exists_expiry? ms
  have equal := Option.some.inj (known.symm.trans found)
  subst equal
  have bound := type.nanos_lt ms
  have fits : (now.nanos + same.toNanos) / nanosPerSec < secondsBound := by
    rw [length]
    simp only [nanosPerSec, secondsBound] at early ⊢
    omega
  exact ⟨_, if_pos fits⟩

end TaskFabric
