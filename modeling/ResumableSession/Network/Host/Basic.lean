import ResumableSession.Channel.Driver
import ResumableSession.Gateway.Dispatch
import ResumableSession.Line.Reception

/-!
# Hosts

A host runs a gateway and any number of channels, with their lines, over
connections that the world makes for it.  Everything that the world tells a host is
an input, and everything that it wants of the world goes into its outbox.
-/

namespace ResumableSession

/-- The identity of a connection. -/
structure ConnectionId where
  /-- The number that tells connections apart. -/
  number : Nat
deriving DecidableEq, Repr

/-- The identity of a channel. -/
structure ChannelId where
  /-- The number that tells channels apart. -/
  number : Nat
deriving DecidableEq, Repr

/-- What the world tells a host. -/
inductive HostInput (Address P : Type) where
  /-- An application wants a session with the gateway at `remote`. -/
  | connect (remote : Address) (settings : ClientSettings) (token : String)
  /-- The host's listener has accepted a connection. -/
  | accepted
  /-- A dialed connection is made. -/
  | connected (connection : ConnectionId)
  /-- A dialed connection cannot be made. -/
  | refused (connection : ConnectionId) (cause : TransportError)
  /-- Creating the session of a channel took too long. -/
  | connectExpired (channel : ChannelId)
  /-- Something comes over a connection. -/
  | arrived (connection : ConnectionId) (arrival : Arrival)
  /-- So many of the bytes to be written are written. -/
  | wrote (connection : ConnectionId) (count : Nat)
  /-- Bytes cannot be written. -/
  | unwritable (connection : ConnectionId) (cause : TransportError)
  /-- The first packet of a connection took too long. -/
  | greetingExpired (connection : ConnectionId)
  /-- A graceful close of a line took too long. -/
  | flushExpired (connection : ConnectionId)
  /-- A driver or the application of a channel has something to do. -/
  | pick (channel : ChannelId) (pick : ChannelPick P)
  /-- The gateway has something to do. -/
  | gateway (input : GatewayInput ConnectionId)

/-- What a host wants of the world, or tells its applications. -/
inductive HostEffect (Address P : Type) where
  | dial (connection : ConnectionId) (remote : Address)
  /-- To write these bytes, and to say when that is done. -/
  | write (connection : ConnectionId) (bytes : Bytes)
  /-- To say when a graceful close, which begins now, takes too long. -/
  | flushing (connection : ConnectionId)
  /-- To wait for the first packet of a connection, but not too long. -/
  | greeting (connection : ConnectionId)
  /-- To let go of a connection. -/
  | hangUp (connection : ConnectionId)
  | stopListening
  /-- A channel exists from now on, and wants to be ticked. -/
  | opened (channel : ChannelId)
  /-- A channel has told its application something. -/
  | event (channel : ChannelId) (event : ChannelEvent P)
  /-- The session of a channel was created, or was not. -/
  | answer (channel : ChannelId) (outcome : Except SessionError UInt32)
  /-- The gateway has told its application something. -/
  | report (event : GatewayEvent)

/-- A line over a connection. -/
structure HostLine (P : Type) where
  connection : ConnectionId
  /-- The channel that owns the line. -/
  channel : ChannelId
  /-- What the channel calls it. -/
  id : LineId
  /-- The line itself. -/
  task : LineTask P
  /-- What has come over the connection and was not read, oldest first. -/
  arrivals : List Arrival := []
  /-- Whether bytes of the line are being written. -/
  writing : Bool := false
  /-- Whether the world was told of a graceful close. -/
  flushing : Bool := false

/-- A channel of a host. -/
structure HostChannel (Address P : Type) where
  id : ChannelId
  /-- Where its lines are dialed, if it is a client's. -/
  remote : Option Address := none
  /-- The id under which the gateway knows it, if it is the gateway's. -/
  served : Option UInt32 := none
  driver : ChannelDriver P

/-- An accepted connection whose first packet has not come. -/
structure Greeting where
  connection : ConnectionId
  /-- What was read. -/
  inbox : Inbox := {}
  /-- Whether the gateway was told of the handshake. -/
  decided : Bool := false

/-- The state of a host. -/
structure Host (Address P : Type) where
  /-- How packets are encoded. -/
  codec : PacketCodec P
  /-- The settings of the sessions that the gateway creates. -/
  sessionSettings : SessionSettings := {}
  gateway : Gateway := {}
  /-- The reading of the clock. -/
  clock : UInt32 := 0
  /-- Accepted connections that have not become lines. -/
  greetings : List Greeting := []
  /-- The channels, newest first. -/
  channels : List (HostChannel Address P) := []
  /-- The lines, newest first. -/
  lines : List (HostLine P) := []
  /-- The number of the next connection. -/
  nextConnection : Nat := 0
  /-- The number of the next channel. -/
  nextChannel : Nat := 0
  /-- What the gateway has to act on, oldest first. -/
  gatewayInputs : List (GatewayInput ConnectionId) := []
  /-- What drivers have to act on, oldest first. -/
  picks : List (ChannelId × ChannelPick P) := []
  /-- What the host wants of the world, oldest first. -/
  outbox : List (HostEffect Address P) := []

namespace Host

variable {Address P : Type}

/-- Adds to the outbox. -/
def emit (host : Host Address P) (effect : HostEffect Address P) : Host Address P :=
  { host with outbox := host.outbox ++ [effect] }

/-- Leaves something for the gateway to act on. -/
def postGateway (host : Host Address P) (input : GatewayInput ConnectionId) : Host Address P :=
  { host with gatewayInputs := host.gatewayInputs ++ [input] }

/-- Leaves something for a driver to act on. -/
def post (host : Host Address P) (channel : ChannelId) (pick : ChannelPick P) : Host Address P :=
  { host with picks := host.picks ++ [(channel, pick)] }

/-- Leaves the report of a line to its driver. -/
def postEvent (host : Host Address P) (line : HostLine P) (event : LineEvent P) :
    Host Address P :=
  host.post line.channel (.lineEvent line.id event host.clock)

/-- Names a new connection. -/
def newConnection (host : Host Address P) : Host Address P × ConnectionId :=
  ({ host with nextConnection := host.nextConnection + 1 }, ⟨host.nextConnection⟩)

/-- Names a new channel. -/
def newChannel (host : Host Address P) : Host Address P × ChannelId :=
  ({ host with nextChannel := host.nextChannel + 1 }, ⟨host.nextChannel⟩)

/-- Changes the lines that `chosen` holds of. -/
def updateLines (host : Host Address P) (chosen : HostLine P → Bool)
    (change : HostLine P → HostLine P) : Host Address P :=
  { host with lines := host.lines.map fun line => if chosen line then change line else line }

/-- Changes the line over a connection. -/
def updateLine (host : Host Address P) (connection : ConnectionId)
    (change : HostLine P → HostLine P) : Host Address P :=
  host.updateLines (fun line => line.connection == connection) change

/-- The line over a connection. -/
def line? (host : Host Address P) (connection : ConnectionId) : Option (HostLine P) :=
  host.lines.find? fun line => line.connection == connection

/-- The channel of this id. -/
def channel? (host : Host Address P) (id : ChannelId) : Option (HostChannel Address P) :=
  host.channels.find? fun channel => channel.id == id

/-- The channel of a session of the gateway that has not ended. -/
def serving? (host : Host Address P) (sessionId : UInt32) : Option (HostChannel Address P) :=
  host.channels.find? fun channel =>
    channel.served == some sessionId && !channel.driver.isFinished

/-- Gives a channel its driver. -/
def setDriver (id : ChannelId) (driver : ChannelDriver P) (channel : HostChannel Address P) :
    HostChannel Address P :=
  if channel.id = id then { channel with driver } else channel

/-- Forgets the first packet of a connection. -/
def dropGreeting (host : Host Address P) (connection : ConnectionId) : Host Address P :=
  { host with greetings := host.greetings.filter (·.connection != connection) }

/-- Changes what is known of the first packet of a connection. -/
def updateGreeting (host : Host Address P) (connection : ConnectionId)
    (change : Greeting → Greeting) : Host Address P :=
  { host with
    greetings := host.greetings.map fun greeting =>
      if greeting.connection = connection then change greeting else greeting }

/-- Refuses a connection that has not become a line. -/
def refuse (host : Host Address P) (connection : ConnectionId) : Host Address P :=
  (host.dropGreeting connection).emit (.hangUp connection)

end Host

end ResumableSession
