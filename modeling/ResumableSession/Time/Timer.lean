import ResumableSession.Time.Duration

/-!
# Timers

A timer holds the time since it was started and moves only when its owner says
how much time has passed.
-/

namespace ResumableSession

/-- A stopwatch that may be stopped. -/
inductive Timer where
  /-- Not running. -/
  | stopped
  /-- Running, for this long. -/
  | running (elapsed : Duration)
deriving DecidableEq, Repr

namespace Timer

instance : Inhabited Timer := ⟨stopped⟩

/-- A timer that starts now. -/
def started : Timer := running Duration.zero

/-- Whether the timer runs. -/
def isRunning : Timer → Bool
  | stopped => false
  | running _ => true

/-- Starts the timer unless it runs already. -/
def ensureStarted (timer : Timer) : Timer :=
  if timer.isRunning then timer else started

/-- Lets time pass. -/
def advance (time : Duration) : Timer → Timer
  | stopped => stopped
  | running elapsed => running (elapsed + time)

/-- Whether a running timer has come to `limit`. -/
def reached (limit : Duration) : Timer → Bool
  | stopped => false
  | running elapsed => decide (limit ≤ elapsed)

end Timer

end ResumableSession
