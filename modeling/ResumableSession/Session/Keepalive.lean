import ResumableSession.Time.Duration

/-!
# Keepalive probes

A probe carries its sender's clock in milliseconds and comes back unchanged, so
the round trip is measured on one clock.  The estimate moves an eighth of the
way to each new sample.
-/

namespace ResumableSession

/-- The time from `sent` to `now` on a clock of 32-bit milliseconds that wraps. -/
def roundTrip (sent now : UInt32) : Duration := .ofMillis (now - sent).toNat

/-- The estimate after one more sample.  Nanoseconds of the result are kept to
64 bits. -/
def smoothRoundTrip (estimate sample : Duration) : Duration :=
  .ofNanos ((estimate.nanos * 875 + sample.nanos * 125) / 1000 % 0x10000000000000000)

/-- The probe in flight, and the estimate so far. -/
structure Keepalive where
  /-- The ticks of the probe that has not come back. -/
  outstanding : Option UInt32 := none
  /-- The smoothed round trip, once there was a sample. -/
  smoothed : Option Duration := none
deriving DecidableEq, Repr

namespace Keepalive

/-- A probe was sent. -/
def recordPing (keepalive : Keepalive) (ticks : UInt32) : Keepalive :=
  { keepalive with outstanding := some ticks }

/-- The probe in flight, if any, no longer counts. -/
def clear (keepalive : Keepalive) : Keepalive := { keepalive with outstanding := none }

/-- A probe came back.  Only the ticks of the probe in flight count; then the
new estimate is given. -/
def processPong (keepalive : Keepalive) (ticks now : UInt32) : Keepalive × Option Duration :=
  if keepalive.outstanding = some ticks then
    let sample := roundTrip ticks now
    let estimate :=
      match keepalive.smoothed with
      | some estimate => smoothRoundTrip estimate sample
      | none => sample
    ({ outstanding := none, smoothed := some estimate }, some estimate)
  else (keepalive, none)

end Keepalive

end ResumableSession
