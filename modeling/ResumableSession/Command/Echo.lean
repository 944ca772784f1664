import ResumableSession.Channel.Driver
import ResumableSession.Command.Opening
import ResumableSession.Gateway.Dispatch
import ResumableSession.Text.Lossy

/-!
# The echo service and its client

The service sends every payload back.  The client sends some, awaits as many, and
then closes; it fails if the session ends before that.
-/

namespace ResumableSession.Command

/-! ## The service -/

/-- The service is ready. -/
def listening (address : SocketAddress) : Log.Event :=
  partEvent "gateway" ("Echo gateway listening on " ++ address.toText)

/-- The tag of a session in the log. -/
def tagText : Option String → String
  | none => "None"
  | some tag => "Some(" ++ Text.quoted tag ++ ")"

/-- What the service writes about an event of its gateway. -/
def gatewayLog : GatewayEvent → Log.Event
  | .sessionOpened sessionId tag =>
      partEvent "gateway"
        ("Session " ++ toString sessionId.toNat ++ " opened (tag " ++ tagText tag ++ ")")
  | .sessionClosed sessionId reason =>
      partEvent "gateway" ("Session " ++ toString sessionId.toNat ++ " closed: " ++ reason.name)
  | .bindingTimedOut tag =>
      { partEvent "gateway" ("Binding for " ++ tag ++ " timed out") with level := .warn }

/-- What the service does about an event of a session: a payload goes back, and a
channel that is of no more use is let go of. -/
def echo (codec : PacketCodec Bytes) (driver : ChannelDriver Bytes) :
    ChannelEvent Bytes → Option (ChannelPick Bytes)
  | .received payload =>
      match driver.checkSend codec payload with
      | .ok () => some (.command (.send payload))
      | .error _ => some .released
  | .closeStateChanged _ => none
  | .closed _ => some .released

/-- The user wants the service to end. -/
def interrupted : Log.Event :=
  { level := .info, message := "Received SIGINT, closing sessions" }

/-- The service has ended. -/
def shutDown : Log.Event := { level := .info, message := "Gateway shutdown complete" }

/-! ## The client -/

/-- A client that has sent its payloads. -/
structure EchoClient where
  /-- How many payloads have to come back. -/
  count : Nat
  /-- How many have come back. -/
  echoed : Nat := 0
  /-- How closing went, once it began. -/
  closing : Option (List CloseState) := none
deriving DecidableEq, Repr

/-- What a client does next. -/
inductive EchoNext where
  /-- It waits for the next event. -/
  | wait
  /-- It closes the channel and then waits. -/
  | close
  /-- It is done. -/
  | done
  | fail (failure : Failure)
deriving DecidableEq, Repr

namespace EchoClient

/-- The session was created. -/
def created (sessionId : UInt32) (address : SocketAddress) : Log.Event :=
  partEvent "client"
    ("Session " ++ toString sessionId.toNat ++ " created at " ++ address.toText)

/-- What is written about the estimate of the round trip. -/
def estimateLog : Option Duration → Log.Event
  | some estimate => partEvent "client" ("Smoothed RTT " ++ estimate.toDecimalText)
  | none => partEvent "client" "No RTT sample yet"

/-- Closes if everything has come back. -/
def closeIfComplete (client : EchoClient) (status : ChannelStatus) :
    EchoClient × List Log.Event × EchoNext :=
  if client.closing.isNone ∧ client.count ≤ client.echoed then
    ({ client with closing := some [] }, [estimateLog status.estimate], .close)
  else (client, [], .wait)

/-- Acts on an event of the channel.  `status` is what the channel shows at the time. -/
def onEvent (client : EchoClient) (status : ChannelStatus) :
    ChannelEvent Bytes → EchoClient × List Log.Event × EchoNext
  | .received payload =>
      match client.closing with
      | some _ => (client, [], .wait)
      | none =>
          let client := { client with echoed := client.echoed + 1 }
          let echo := partEvent "client"
            ("Echo " ++ toString client.echoed ++ "/" ++ toString client.count ++ ": " ++
              Text.lossy payload)
          let (client, events, next) := client.closeIfComplete status
          (client, echo :: events, next)
  | .closeStateChanged state =>
      match client.closing with
      | some states => ({ client with closing := some (states ++ [state]) }, [], .wait)
      | none => (client, [], .wait)
  | .closed reason =>
      match client.closing with
      | some states =>
          let names := ", ".intercalate (states.map CloseState.name)
          (client,
            [partEvent "client"
              ("Session closed (" ++ reason.name ++ "), states [" ++ names ++ "]")],
            .done)
      | none => (client, [], .fail (.closed reason client.echoed client.count))

end EchoClient

end ResumableSession.Command
