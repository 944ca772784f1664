import ResumableSession.Network.Host.Step
import ResumableSession.Network.Listening

/-!
# Isolated hosts

A host that no connection leads to or from: it can listen, but nobody comes, and
whatever it dials is refused.  Time is virtual and passes only when somebody waits;
everything else takes a millisecond.
-/

namespace ResumableSession

/-- A host without connections. -/
structure IsolatedHost (P : Type) where
  /-- The host.  Addresses make no difference. -/
  host : Host Unit P
  /-- Whether the host has a gateway that has not ended and been forgotten. -/
  hasGateway : Bool := false
  /-- The virtual time. -/
  now : Duration := .zero
  /-- What the gateway has reported and the application has not seen, oldest first. -/
  reports : List GatewayEvent := []

/-- What comes of waiting for an event of the gateway. -/
inductive Awaited where
  /-- The next event. -/
  | event (event : GatewayEvent)
  /-- The gateway has ended. -/
  | ended
  /-- Nothing, for as long as was waited. -/
  | quiet
deriving DecidableEq, Repr

namespace IsolatedHost

variable {P : Type}

/-- The small steps that an input may set off. -/
def stepLimit : Nat := 1000

/-- A host with the gateway that these settings describe, if there are any. -/
def start {Address : Type} (codec : PacketCodec P)
    (gateway : Option (GatewaySettings Address)) : IsolatedHost P :=
  match gateway with
  | none => { host := { codec } }
  | some settings =>
      { host := { codec, sessionSettings := settings.session, gateway := .ofSettings settings }
        hasGateway := true }

/-- What the world answers: whatever is dialed is refused. -/
def answerTo : HostEffect Unit P → Option (HostInput Unit P)
  | .dial connection _ => some (.refused connection .connectionRefused)
  | _ => none

/-- Takes an input, and gives what the host then wants of the world. -/
def input (isolated : IsolatedHost P) (next : HostInput Unit P) :
    IsolatedHost P × List (HostEffect Unit P) :=
  let rested := (isolated.host.take next).rest stepLimit
  let reports := rested.outbox.filterMap fun effect =>
    match effect with
    | .report event => some event
    | _ => none
  ({ isolated with
      host := { rested with outbox := [] }
      reports := isolated.reports ++ reports }, rested.outbox)

/-- Takes inputs in order. -/
def inputs (isolated : IsolatedHost P) :
    List (HostInput Unit P) → IsolatedHost P × List (HostEffect Unit P)
  | [] => (isolated, [])
  | next :: later =>
      let (isolated, effects) := isolated.input next
      let (isolated, further) := isolated.inputs later
      (isolated, effects ++ further)

/-- Lets a millisecond pass. -/
def moment (isolated : IsolatedHost P) : IsolatedHost P :=
  { isolated with now := isolated.now + .ofMillis 1 }

/-- Whether there is a gateway that has not ended. -/
def serves (isolated : IsolatedHost P) : Bool :=
  isolated.hasGateway && !isolated.host.gateway.isFinished

/-- What comes of listening at an address, where somebody listens at the addresses
in `taken`. -/
def listen (taken : List SocketAddress) (address : SocketAddress) :
    Except TransportError Unit :=
  match address.fault? with
  | some cause => .error cause
  | none => if taken.any address.conflicts then .error .addressInUse else .ok ()

/-- Opens a token on behalf of `tag`. -/
def openBinding (isolated : IsolatedHost P) (token tag : String) :
    IsolatedHost P × Except SessionError Unit :=
  let isolated := isolated.moment
  if isolated.serves then
    ((isolated.input (.gateway (.openBinding token tag isolated.now))).1, .ok ())
  else (isolated, .error .channelClosed)

/-- Tells the gateway to stop. -/
def stop (isolated : IsolatedHost P) (listenOnly : Bool) : IsolatedHost P :=
  (isolated.moment.input (.gateway (.stop listenOnly))).1

/-- Tries to create a session with any gateway.  It is refused before the application
could lose its patience. -/
def connect (isolated : IsolatedHost P) (settings : ClientSettings) (token : String) :
    IsolatedHost P × Except SessionError UInt32 :=
  let (dialing, wanted) := isolated.moment.input (.connect () settings token)
  let (answered, effects) := dialing.inputs (wanted.filterMap answerTo)
  let outcome := effects.findSome? fun effect =>
    match effect with
    | .answer _ outcome => some outcome
    | _ => none
  (answered, outcome.getD (.error .channelClosed))

/-- When the gateway looks for old tokens next, after `now`. -/
def nextSweep? (isolated : IsolatedHost P) : Option Duration :=
  isolated.host.gateway.sweepInterval?.map fun interval =>
    .ofNanos ((isolated.now.nanos / interval.nanos + 1) * interval.nanos)

/-- Waits until `deadline` for an event of the gateway, over at most `sweeps`
sweeps for old tokens. -/
def waitWithin (deadline : Duration) :
    (sweeps : Nat) → IsolatedHost P → IsolatedHost P × Awaited
  | sweeps, isolated =>
      match isolated.reports with
      | event :: reports => ({ isolated with reports }, .event event)
      | [] =>
          if isolated.hasGateway && isolated.host.gateway.isFinished then (isolated, .ended)
          else
            match sweeps, isolated.nextSweep? with
            | sweeps + 1, some time =>
                if isolated.serves && decide (time ≤ deadline) then
                  let swept := { isolated with now := time }.input (.gateway (.sweep time))
                  waitWithin deadline sweeps swept.1
                else ({ isolated with now := deadline }, .quiet)
            | _, _ => ({ isolated with now := deadline }, .quiet)

/-- Waits for an event of the gateway, but no longer than `time`. -/
def wait (isolated : IsolatedHost P) (time : Duration) : IsolatedHost P × Awaited :=
  let isolated := isolated.moment
  let sweeps :=
    match isolated.host.gateway.sweepInterval? with
    | some interval => time.nanos / interval.nanos + 1
    | none => 0
  isolated.waitWithin (isolated.now + time) sweeps

/-- Waits for the next event of the gateway.  What has not happened after two more
looks for old tokens never will. -/
def nextEvent (isolated : IsolatedHost P) : IsolatedHost P × Awaited :=
  let interval := isolated.host.gateway.sweepInterval?.getD .zero
  isolated.wait (interval + interval)

end IsolatedHost

end ResumableSession
