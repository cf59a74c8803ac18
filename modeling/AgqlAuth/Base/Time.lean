import Mathlib.Algebra.Order.Ring.Int
import Mathlib.Algebra.Order.Ring.Nat
import Mathlib.Order.Lattice

/-!
# Instants and durations

`OffsetDateTime` and `Duration` of the `time` crate, in nanoseconds.  All
instants of the library are UTC.  Both types are bounded, and every checked
operation fails exactly when the exact result is not representable.
-/

namespace AgqlAuth

abbrev nanosPerSecond : Int := 1000000000

/-- `-9999-01-01T00:00:00Z`. -/
abbrev minUnixNanos : Int := -377705116800 * nanosPerSecond

/-- `9999-12-31T23:59:59.999999999Z`. -/
abbrev maxUnixNanos : Int := 253402300799 * nanosPerSecond + 999999999

structure OffsetDateTime where
  unixNanos : Int
  lower : minUnixNanos ≤ unixNanos
  upper : unixNanos ≤ maxUnixNanos
  deriving DecidableEq

/-- An `i64` number of seconds with a sub-second part of the same sign. -/
abbrev minDurationNanos : Int := -(2 ^ 63) * nanosPerSecond - 999999999

abbrev maxDurationNanos : Int := (2 ^ 63 - 1) * nanosPerSecond + 999999999

structure Duration where
  nanos : Int
  lower : minDurationNanos ≤ nanos
  upper : nanos ≤ maxDurationNanos
  deriving DecidableEq

namespace OffsetDateTime

theorem unixNanos_injective : Function.Injective unixNanos := by
  intro a b same
  cases a
  cases b
  simpa using same

instance : LinearOrder OffsetDateTime := LinearOrder.lift' unixNanos unixNanos_injective

theorem le_iff {a b : OffsetDateTime} : a ≤ b ↔ a.unixNanos ≤ b.unixNanos := Iff.rfl

theorem lt_iff {a b : OffsetDateTime} : a < b ↔ a.unixNanos < b.unixNanos := Iff.rfl

/-- The whole second an instant lies in. -/
def unixTimestamp (t : OffsetDateTime) : Int := t.unixNanos / nanosPerSecond

/-- `OffsetDateTime::from_unix_timestamp(..).ok()`. -/
def fromUnixTimestamp (seconds : Int) : Option OffsetDateTime :=
  if h : minUnixNanos ≤ seconds * nanosPerSecond ∧ seconds * nanosPerSecond ≤ maxUnixNanos then
    some ⟨seconds * nanosPerSecond, h.1, h.2⟩
  else none

theorem unixTimestamp_of_fromUnixTimestamp {seconds : Int} {t : OffsetDateTime}
    (read : fromUnixTimestamp seconds = some t) : t.unixTimestamp = seconds := by
  unfold fromUnixTimestamp at read
  split at read
  · cases read
    exact Int.mul_ediv_cancel seconds (by decide)
  · cases read

/-- So many seconds after the epoch. -/
def atSecond (n : UInt32) : OffsetDateTime where
  unixNanos := n.toNat * nanosPerSecond
  lower := by
    simp only [minUnixNanos, nanosPerSecond]
    omega
  upper := by
    have small := n.toNat_lt
    simp only [maxUnixNanos, nanosPerSecond]
    omega

def checkedAdd (t : OffsetDateTime) (d : Duration) : Option OffsetDateTime :=
  if h : minUnixNanos ≤ t.unixNanos + d.nanos ∧ t.unixNanos + d.nanos ≤ maxUnixNanos then
    some ⟨t.unixNanos + d.nanos, h.1, h.2⟩
  else none

theorem checkedAdd_eq_some {t u : OffsetDateTime} {d : Duration}
    (added : t.checkedAdd d = some u) : u.unixNanos = t.unixNanos + d.nanos := by
  unfold checkedAdd at added
  split at added
  · cases added
    rfl
  · cases added

def checkedSub (t : OffsetDateTime) (d : Duration) : Option OffsetDateTime :=
  if h : minUnixNanos ≤ t.unixNanos - d.nanos ∧ t.unixNanos - d.nanos ≤ maxUnixNanos then
    some ⟨t.unixNanos - d.nanos, h.1, h.2⟩
  else none

theorem checkedSub_eq_some {t u : OffsetDateTime} {d : Duration}
    (subtracted : t.checkedSub d = some u) : u.unixNanos = t.unixNanos - d.nanos := by
  unfold checkedSub at subtracted
  split at subtracted
  · cases subtracted
    rfl
  · cases subtracted

/-- The span from `b` to `a`; the difference of two instants always fits. -/
def since (a b : OffsetDateTime) : Duration where
  nanos := a.unixNanos - b.unixNanos
  lower := by
    have hlow := a.lower
    have hhigh := b.upper
    simp only [minUnixNanos, maxUnixNanos, minDurationNanos, nanosPerSecond] at *
    omega
  upper := by
    have hhigh := a.upper
    have hlow := b.lower
    simp only [minUnixNanos, maxUnixNanos, maxDurationNanos, nanosPerSecond] at *
    omega

end OffsetDateTime

namespace Duration

theorem nanos_injective : Function.Injective nanos := by
  intro a b same
  cases a
  cases b
  simpa using same

instance : LinearOrder Duration := LinearOrder.lift' nanos nanos_injective

theorem le_iff {a b : Duration} : a ≤ b ↔ a.nanos ≤ b.nanos := Iff.rfl

theorem lt_iff {a b : Duration} : a < b ↔ a.nanos < b.nanos := Iff.rfl

def zero : Duration := ⟨0, by decide, by decide⟩

/-- `Duration::seconds` for a count that fits. -/
def seconds (n : Int) (h : -(2 ^ 63) ≤ n ∧ n < 2 ^ 63 := by decide) : Duration where
  nanos := n * nanosPerSecond
  lower := by
    simp only [minDurationNanos, nanosPerSecond]
    omega
  upper := by
    simp only [maxDurationNanos, nanosPerSecond]
    omega

def minutes (n : Int) (h : -(2 ^ 63) ≤ n * 60 ∧ n * 60 < 2 ^ 63 := by decide) : Duration :=
  seconds (n * 60) h

def hours (n : Int) (h : -(2 ^ 63) ≤ n * 3600 ∧ n * 3600 < 2 ^ 63 := by decide) : Duration :=
  seconds (n * 3600) h

/-- A count of seconds that fits whatever it is. -/
def ofSeconds (n : UInt32) : Duration where
  nanos := n.toNat * nanosPerSecond
  lower := by
    simp only [minDurationNanos, nanosPerSecond]
    omega
  upper := by
    have small := n.toNat_lt
    simp only [maxDurationNanos, nanosPerSecond]
    omega

/-- `whole_seconds`, which rounds towards zero. -/
def wholeSeconds (d : Duration) : Int := d.nanos.tdiv nanosPerSecond

/-- Absolute value, saturating at the longest duration. -/
def abs (d : Duration) : Duration where
  nanos := min (max d.nanos (-d.nanos)) maxDurationNanos
  lower := by
    simp only [minDurationNanos, maxDurationNanos, nanosPerSecond]
    omega
  upper := min_le_right _ _

/-- Multiplication by an `i32`. -/
def checkedMul (d : Duration) (k : Int) : Option Duration :=
  if h : minDurationNanos ≤ d.nanos * k ∧ d.nanos * k ≤ maxDurationNanos then
    some ⟨d.nanos * k, h.1, h.2⟩
  else none

end Duration

end AgqlAuth
