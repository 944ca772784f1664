import ResumableSession.Session.Settings
import ResumableSession.Time.Timer

/-!
# The timers of a session

Offline, rebind, alive-check and time-wait timers move together.  A tick says
what has become due; what to do about it is for the session to decide.  An
expired offline timer and a due rebind end the tick: the other timers do not
move then.
-/

namespace ResumableSession

/-- Something that a tick found due. -/
inductive LivenessEvent where
  /-- No line was bound for the whole offline timeout. -/
  | offlineExpired
  /-- It is time for another rebind attempt. -/
  | rebindDue
  /-- It is time to probe the line. -/
  | sendPing
  /-- The probe was not answered in time. -/
  | aliveWaitExpired
  /-- The session has lingered long enough. -/
  | timeWaitExpired
deriving DecidableEq, Repr

/-- The timers of one session. -/
structure Liveness where
  /-- The limits of the timers. -/
  settings : SessionSettings
  /-- The pace of rebind attempts; only a connecting side has one. -/
  rebindLimits : Option RebindLimits := none
  /-- Time without a bound line. -/
  offline : Timer := .stopped
  /-- Time spent on a rebind attempt. -/
  rebind : Timer := .stopped
  /-- Time spent waiting before the next attempt. -/
  cooltime : Timer := .stopped
  /-- Time since the line was bound or last answered a probe. -/
  aliveCheck : Timer := .stopped
  /-- Time spent waiting for the answer to a probe. -/
  aliveWait : Timer := .stopped
  /-- Time spent in `timeWait`. -/
  timeWait : Timer := .stopped
deriving DecidableEq, Repr

namespace Liveness

/-- A line was bound. -/
def lineBound (liveness : Liveness) : Liveness :=
  { liveness with
    offline := .stopped
    rebind := .stopped
    cooltime := .stopped
    aliveWait := .stopped
    aliveCheck :=
      if liveness.settings.aliveCheckInterval.isZero then .stopped else .started }

/-- The bound line was lost. -/
def lineLost (liveness : Liveness) : Liveness :=
  { liveness with
    offline :=
      if liveness.settings.offlineTimeout.isZero then liveness.offline
      else liveness.offline.ensureStarted
    aliveCheck := .stopped
    aliveWait := .stopped
    rebind := if liveness.rebindLimits.isSome then .stopped else liveness.rebind
    cooltime := if liveness.rebindLimits.isSome then .started else liveness.cooltime }

/-- A rebind attempt was started. -/
def rebindStarted (liveness : Liveness) : Liveness :=
  { liveness with rebind := .started, cooltime := .stopped }

/-- A rebind attempt came to nothing. -/
def rebindFailed (liveness : Liveness) : Liveness :=
  { liveness with rebind := .stopped, cooltime := .started }

/-- The probe was answered. -/
def aliveConfirmed (liveness : Liveness) : Liveness :=
  if liveness.aliveWait.isRunning then
    { liveness with aliveWait := .stopped, aliveCheck := .started }
  else liveness

/-- Whether a probe waits for its answer. -/
def awaitingPong (liveness : Liveness) : Bool := liveness.aliveWait.isRunning

/-- The session began to linger. -/
def timeWaitEntered (liveness : Liveness) : Liveness :=
  { liveness with timeWait := liveness.timeWait.ensureStarted }

/-- Stops every timer. -/
def stopAll (liveness : Liveness) : Liveness :=
  { liveness with
    offline := .stopped
    rebind := .stopped
    cooltime := .stopped
    aliveCheck := .stopped
    aliveWait := .stopped
    timeWait := .stopped }

/-- Moves the probe timers: one of the two at most runs. -/
def tickAlive (liveness : Liveness) (time : Duration) : Liveness × List LivenessEvent :=
  if liveness.aliveCheck.isRunning then
    let check := liveness.aliveCheck.advance time
    if check.reached liveness.settings.aliveCheckInterval then
      ({ liveness with aliveCheck := .stopped, aliveWait := .started }, [.sendPing])
    else ({ liveness with aliveCheck := check }, [])
  else
    let wait := liveness.aliveWait.advance time
    if wait.reached liveness.settings.aliveCheckWait then
      ({ liveness with aliveWait := .stopped }, [.aliveWaitExpired])
    else ({ liveness with aliveWait := wait }, [])

/-- Moves the time-wait timer. -/
def tickTimeWait (liveness : Liveness) (time : Duration) : Liveness × List LivenessEvent :=
  let timeWait := liveness.timeWait.advance time
  if timeWait.reached liveness.settings.timeWaitTimeout then
    ({ liveness with timeWait := .stopped }, [.timeWaitExpired])
  else ({ liveness with timeWait }, [])

/-- Moves the rebind timers.  The third component says whether an attempt is
due; it then counts as started. -/
def tickRebind (liveness : Liveness) (time : Duration) : Liveness × Bool :=
  match liveness.rebindLimits with
  | none => (liveness, false)
  | some limits =>
      let moved :=
        { liveness with
          rebind := liveness.rebind.advance time
          cooltime := liveness.cooltime.advance time }
      if moved.rebind.reached limits.timeout || moved.cooltime.reached limits.cooltime then
        (moved.rebindStarted, true)
      else (moved, false)

/-- Lets `time` pass and says what became due. -/
def tick (liveness : Liveness) (time : Duration) : Liveness × List LivenessEvent :=
  let offline := liveness.offline.advance time
  if offline.reached liveness.settings.offlineTimeout then
    ({ liveness with offline := .stopped }, [.offlineExpired])
  else
    match tickRebind { liveness with offline } time with
    | (liveness, true) => (liveness, [.rebindDue])
    | (liveness, false) =>
        let (liveness, probes) := liveness.tickAlive time
        let (liveness, lingering) := liveness.tickTimeWait time
        (liveness, probes ++ lingering)

end Liveness

end ResumableSession
