/-!
# Durations

A span of time in whole nanoseconds, up to the largest number of seconds that
64 bits hold.  Sums that would pass the largest duration stay there.
-/

namespace ResumableSession

/-- A non-negative span of time. -/
structure Duration where
  /-- The length in nanoseconds. -/
  nanos : Nat
  /-- Seconds fit 64 bits. -/
  bounded : nanos < 0x10000000000000000 * 1000000000
deriving DecidableEq

namespace Duration

/-- The longest duration, in nanoseconds. -/
def maxNanos : Nat := 0x10000000000000000 * 1000000000 - 1

/-- The duration of this many nanoseconds, or the longest one if that is less. -/
def ofNanos (nanos : Nat) : Duration :=
  ⟨min nanos maxNanos, by unfold maxNanos; omega⟩

/-- A number of milliseconds. -/
def ofMillis (millis : Nat) : Duration := ofNanos (millis * 1000000)

/-- A number of seconds. -/
def ofSeconds (seconds : Nat) : Duration := ofNanos (seconds * 1000000000)

/-- No time at all. -/
def zero : Duration := ofNanos 0

instance : Inhabited Duration := ⟨zero⟩

instance : Repr Duration := ⟨fun duration _ => repr duration.nanos⟩

/-- Whether no time passes. -/
def isZero (duration : Duration) : Bool := duration.nanos == 0

/-- The whole seconds. -/
def seconds (duration : Duration) : Nat := duration.nanos / 1000000000

/-- The nanoseconds that the whole seconds leave. -/
def subsecond (duration : Duration) : Nat := duration.nanos % 1000000000

/-- The sum, or the longest duration if that is less. -/
def add (left right : Duration) : Duration := ofNanos (left.nanos + right.nanos)

instance : Add Duration := ⟨add⟩

/-- The difference, or no time if `right` is longer. -/
def sub (left right : Duration) : Duration := ofNanos (left.nanos - right.nanos)

instance : Sub Duration := ⟨sub⟩

instance : LE Duration := ⟨fun left right => left.nanos ≤ right.nanos⟩

instance (left right : Duration) : Decidable (left ≤ right) :=
  inferInstanceAs (Decidable (left.nanos ≤ right.nanos))

/-- The longer of two durations. -/
def max (left right : Duration) : Duration := if left ≤ right then right else left

theorem le_iff_nanos {left right : Duration} : left ≤ right ↔ left.nanos ≤ right.nanos := .rfl

theorem nanos_ofNanos_of_lt {nanos : Nat} (bounded : nanos < 0x10000000000000000 * 1000000000) :
    (ofNanos nanos).nanos = nanos := by
  unfold ofNanos maxNanos
  simp only
  omega

theorem nanos_add (left right : Duration) :
    (left + right).nanos = min (left.nanos + right.nanos) maxNanos := rfl

@[ext] theorem ext {left right : Duration} (nanos : left.nanos = right.nanos) :
    left = right := by
  cases left
  cases right
  simp_all

end Duration

end ResumableSession
