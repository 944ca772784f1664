import ResumableSession.Gateway.Registry
import ResumableSession.Gateway.Settings
import ResumableSession.Line.Handshake

/-!
# The dispatch of a gateway

A gateway owns the registry of live sessions and outstanding tokens.  It creates a
session for every create handshake that it admits, hands a rebinding line to the
session it names, and forgets sessions that have ended.  Once it is told to stop it
admits no more, and it ends when no session is live.
-/

namespace ResumableSession

/-- What an application is told by a gateway. -/
inductive GatewayEvent where
  /-- A client has created a session; the tag of its token, if it had one. -/
  | sessionOpened (sessionId : UInt32) (tag : Option String)
  /-- A session has ended. -/
  | sessionClosed (sessionId : UInt32) (reason : CloseReason)
  /-- A token was not used in time. -/
  | bindingTimedOut (tag : String)
deriving DecidableEq, Repr

/-- What happens to a gateway; `C` tells connections apart. -/
inductive GatewayInput (C : Type) where
  /-- A connection has shaken hands. -/
  | handshake (connection : C) (handshake : Handshake)
  /-- The driver of a session has returned. -/
  | sessionEnded (sessionId : UInt32) (reason : CloseReason)
  /-- The application wants a token on behalf of `tag`. -/
  | openBinding (token tag : String) (now : Duration)
  /-- It is time to look for tokens that are too old. -/
  | sweep (now : Duration)
  /-- The application wants the gateway to stop, and its sessions to close unless
  `listenOnly`. -/
  | stop (listenOnly : Bool)
deriving DecidableEq, Repr

/-- What a gateway does to the world around it. -/
inductive GatewayEffect (C : Type) where
  /-- An event for the application. -/
  | report (event : GatewayEvent)
  /-- Starts a session, with a first line over a connection. -/
  | startSession (sessionId : UInt32) (connection : C) (handshake : Handshake)
  /-- Hands a connection to a live session as a line. -/
  | route (sessionId : UInt32) (connection : C) (handshake : Handshake)
  /-- Closes a connection without a word. -/
  | refuse (connection : C)
  | stopListening
  /-- Asks every session to close. -/
  | closeSessions
deriving DecidableEq, Repr

/-- The state of a gateway. -/
structure Gateway where
  /-- Whether a session may only be created with an issued token. -/
  tokenRequired : Bool := false
  /-- How long a token may go unused; zero means for ever. -/
  tokenTimeout : Duration := .ofSeconds 30
  /-- Live sessions and outstanding tokens. -/
  registry : Registry Unit := {}
  /-- Whether the gateway was told to stop. -/
  stopping : Bool := false
deriving Repr

namespace Gateway

variable {C : Type}

/-- The gateway that these settings describe. -/
def ofSettings {Address : Type} (settings : GatewaySettings Address) : Gateway where
  tokenRequired := settings.tokenRequired
  tokenTimeout := settings.tokenTimeout

/-- The time between two sweeps; at least a millisecond.  Tokens that may go unused
for ever are not swept. -/
def sweepInterval? (gateway : Gateway) : Option Duration :=
  if gateway.tokenTimeout.isZero then none else some (gateway.tokenTimeout.max (.ofMillis 1))

/-- Whether the gateway has ended. -/
def isFinished (gateway : Gateway) : Bool := gateway.stopping && gateway.registry.isEmpty

/-- Creates a session if the token, or the lack of one, is admitted. -/
def createSession (gateway : Gateway) (connection : C) (token : String) :
    Gateway × List (GatewayEffect C) :=
  if gateway.stopping then (gateway, [.refuse connection])
  else
    let (registry, tag) := gateway.registry.takeBinding token
    if gateway.tokenRequired && tag.isNone then ({ gateway with registry }, [.refuse connection])
    else
      match registry.issueSessionId with
      | none => ({ gateway with registry }, [.refuse connection])
      | some (sessionId, registry) =>
          ({ gateway with registry := (registry.register sessionId ()).1 },
            [.startSession sessionId connection (.create token),
              .report (.sessionOpened sessionId tag)])

/-- Hands a rebinding line to the session it names, if that is live. -/
def routeRebind (gateway : Gateway) (connection : C) (sessionId : UInt32)
    (handshake : Handshake) : List (GatewayEffect C) :=
  match gateway.registry.get? sessionId with
  | some () => [.route sessionId connection handshake]
  | none => [.refuse connection]

/-- What an input makes of a gateway that has not ended. -/
def handle (gateway : Gateway) : GatewayInput C → Gateway × List (GatewayEffect C)
  | .handshake connection (.create token) => gateway.createSession connection token
  | .handshake connection (.rebind sessionId lineIndex clientAck) =>
      (gateway, gateway.routeRebind connection sessionId (.rebind sessionId lineIndex clientAck))
  | .sessionEnded sessionId reason =>
      ({ gateway with registry := (gateway.registry.unregister sessionId).1 },
        [.report (.sessionClosed sessionId reason)])
  | .openBinding token tag now =>
      ({ gateway with registry := gateway.registry.openBinding token tag now }, [])
  | .sweep now =>
      let (registry, tags) := gateway.registry.sweepBindings now gateway.tokenTimeout
      ({ gateway with registry }, tags.map fun tag => .report (.bindingTimedOut tag))
  | .stop listenOnly =>
      ({ gateway with stopping := true },
        .stopListening :: (if listenOnly then [] else [.closeSessions]))

/-- What an input makes of a gateway.  After its end nothing does. -/
def step (gateway : Gateway) (input : GatewayInput C) : Gateway × List (GatewayEffect C) :=
  if gateway.isFinished then (gateway, []) else gateway.handle input

/-- What a sequence of inputs makes of a gateway. -/
def run (gateway : Gateway) : List (GatewayInput C) → Gateway × List (GatewayEffect C)
  | [] => (gateway, [])
  | input :: inputs =>
      let (gateway, effects) := gateway.step input
      let (gateway, later) := gateway.run inputs
      (gateway, effects ++ later)

end Gateway

end ResumableSession
