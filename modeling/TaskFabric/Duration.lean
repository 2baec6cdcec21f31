/-! Spans of time and readings of the monotonic clock. A span has whole seconds in 64 bits and the
nanoseconds below the next second; arithmetic that leaves this range has no value. A scaled span
exists exactly when the whole seconds of the product fit (`Duration.scale?_eq_some_iff` is stated
through `Duration.toNanos`), so nothing wraps around.
-/

namespace TaskFabric

/-- The nanoseconds in one second. -/
def nanosPerSec : Nat := 1000000000

/-- A span of time of whole seconds and the nanoseconds of a started second. -/
structure Duration where
  secs : UInt64
  nanos : UInt32
  nanos_lt : nanos.toNat < nanosPerSec
deriving DecidableEq

namespace Duration

/-- The length of a span in nanoseconds. -/
def toNanos (d : Duration) : Nat := d.secs.toNat * nanosPerSec + d.nanos.toNat

/-- Spans of one length are one span. -/
theorem toNanos_inj {a b : Duration} : a.toNanos = b.toNanos ↔ a = b := by
  refine ⟨fun h => ?_, fun h => h ▸ rfl⟩
  obtain ⟨s, n, hn⟩ := a
  obtain ⟨s', n', hn'⟩ := b
  have hlen : s.toNat * 1000000000 + n.toNat = s'.toNat * 1000000000 + n'.toNat := h
  have hlt : n.toNat < 1000000000 := hn
  have hlt' : n'.toNat < 1000000000 := hn'
  have hs : s = s' := UInt64.toNat_inj.mp (by omega)
  have hn : n = n' := UInt32.toNat_inj.mp (by omega)
  subst hs hn
  rfl

theorem toNat_toUInt64 {n : Nat} (h : n < UInt64.size) : n.toUInt64.toNat = n :=
  UInt64.toNat_ofNat_of_lt' h

theorem toNat_toUInt32 {n : Nat} (h : n < UInt32.size) : n.toUInt32.toNat = n :=
  UInt32.toNat_ofNat_of_lt' h

/-- The span of seconds and any number of nanoseconds, full seconds of which are carried over;
there is none if the seconds do not fit in 64 bits.
-/
def ofParts? (secs nanos : Nat) : Option Duration :=
  if secs + nanos / nanosPerSec < UInt64.size then
    some
      {
        secs := (secs + nanos / nanosPerSec).toUInt64,
        nanos := (nanos % nanosPerSec).toUInt32,
        nanos_lt := by
          have h : nanos % nanosPerSec < nanosPerSec := Nat.mod_lt _ (by decide)
          rw [toNat_toUInt32 (Nat.lt_trans h (by decide))]
          exact h
      }
  else
    none

/-- The empty span. -/
def zero : Duration := ⟨0, 0, by decide⟩

instance : Inhabited Duration := ⟨zero⟩

/-- The span of so many milliseconds. -/
def ofMillis (ms : UInt64) : Duration :=
  {
    secs := ms / 1000,
    nanos := (ms % 1000).toUInt32 * 1000000,
    nanos_lt := by
      have h : (ms % 1000).toNat < 1000 := by
        rw [UInt64.toNat_mod]; exact Nat.mod_lt _ (by decide)
      rw [UInt32.toNat_mul, UInt64.toNat_toUInt32,
        Nat.mod_eq_of_lt (Nat.lt_trans h (by decide : 1000 < UInt32.size))]
      simp only [UInt32.reduceToNat, nanosPerSec, Nat.reducePow]
      rw [Nat.mod_eq_of_lt (by omega)]
      omega
  }

/-- The span `factor` times as long. Nanoseconds are multiplied apart and their full seconds
carried into the product of the seconds; there is no value if the seconds do not fit.
-/
def scale? (d : Duration) (factor : UInt32) : Option Duration :=
  ofParts? (d.secs.toNat * factor.toNat) (d.nanos.toNat * factor.toNat)

/-- Whether a span has no length. -/
def isZero (d : Duration) : Bool := d.toNanos == 0

/-- A span of given parts exists exactly if its whole seconds fit, and then it is exact. -/
theorem ofParts?_eq_some_iff {secs nanos : Nat} {d : Duration}
    : ofParts? secs nanos = some d
      ↔ d.toNanos = secs * nanosPerSec + nanos ∧ secs + nanos / nanosPerSec < UInt64.size := by
  have hlt : nanos % nanosPerSec < nanosPerSec := Nat.mod_lt _ (by decide)
  rw [ofParts?]
  by_cases hfit : secs + nanos / nanosPerSec < UInt64.size
  · rw [if_pos hfit, Option.some.injEq, ← toNanos_inj, toNanos, toNat_toUInt64 hfit,
      toNat_toUInt32 (Nat.lt_trans hlt (by decide)), Nat.add_mul, Nat.add_assoc,
      Nat.div_add_mod']
    exact ⟨fun h => ⟨h.symm, hfit⟩, fun h => h.1.symm⟩
  · rw [if_neg hfit]
    exact ⟨fun h => (nomatch h), fun h => absurd h.2 hfit⟩

/-- A product exists exactly if its whole seconds fit in 64 bits, and then it is exact. -/
theorem scale?_eq_some_iff {d e : Duration} {factor : UInt32}
    : d.scale? factor = some e
      ↔ e.toNanos = d.toNanos * factor.toNat
        ∧ d.toNanos * factor.toNat / nanosPerSec < UInt64.size := by
  have hprod : d.toNanos * factor.toNat
      = d.secs.toNat * factor.toNat * nanosPerSec + d.nanos.toNat * factor.toNat := by
    simp only [toNanos, Nat.add_mul, Nat.mul_right_comm]
  have hdiv : d.toNanos * factor.toNat / nanosPerSec
      = d.secs.toNat * factor.toNat + d.nanos.toNat * factor.toNat / nanosPerSec := by
    rw [hprod, Nat.mul_comm _ nanosPerSec, Nat.mul_add_div (by decide)]
  rw [scale?, ofParts?_eq_some_iff, hdiv, hprod]

end Duration

-----------------------------------------------------------------------------------------
-- Readings of the monotonic clock
-----------------------------------------------------------------------------------------

/-- A reading of the monotonic clock: nanoseconds since its start, whose whole seconds are held
in a signed 64-bit word.
-/
structure Instant where
  nanos : Nat
deriving DecidableEq, Inhabited

namespace Instant

/-- The first second that a reading cannot hold. -/
def secondsBound : Nat := 9223372036854775808

/-- The reading after a span has passed, if its seconds can be held. -/
def add? (i : Instant) (d : Duration) : Option Instant :=
  if (i.nanos + d.toNanos) / nanosPerSec < secondsBound then some ⟨i.nanos + d.toNanos⟩ else none

/-- The span from an earlier reading to this one, empty if the other is not earlier. -/
def since (later earlier : Instant) : Nat := later.nanos - earlier.nanos

end Instant

end TaskFabric
