import ResumableSession.Time.Duration

/-!
# Settings

The timeouts and intervals of a session.  A zero offline timeout, and a zero
alive-check interval, switch the timer off.
-/

namespace ResumableSession

/-- What both ends of a session need to know. -/
structure SessionSettings where
  /-- How long a session may be without a bound line. -/
  offlineTimeout : Duration := .ofSeconds 20
  /-- How long a session lingers in `timeWait`. -/
  timeWaitTimeout : Duration := .ofSeconds 1
  /-- How long a bound line goes unprobed. -/
  aliveCheckInterval : Duration := .ofSeconds 4
  /-- How long a probe may go unanswered. -/
  aliveCheckWait : Duration := .ofSeconds 2
  /-- How often the session's timers move. -/
  tickInterval : Duration := .ofMillis 100
deriving DecidableEq, Repr

/-- The pace at which a connecting side looks for a new line. -/
structure RebindLimits where
  /-- How long one attempt may take. -/
  timeout : Duration := .ofSeconds 2
  /-- How long to wait after a line was lost or an attempt failed. -/
  cooltime : Duration := .ofSeconds 1
deriving DecidableEq, Repr

/-- What a connecting side needs to know. -/
structure ClientSettings where
  session : SessionSettings := {}
  /-- The pace of its rebind attempts. -/
  rebind : RebindLimits := {}
  /-- How long creating a session may take. -/
  connectTimeout : Duration := .ofSeconds 10
deriving DecidableEq, Repr

end ResumableSession
