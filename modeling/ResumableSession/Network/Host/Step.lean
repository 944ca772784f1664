import ResumableSession.Network.Host.Basic

/-!
# What a host does

What an input sets off is done in small steps, each of which may set off more.  When
there are none left the host is at rest, and its outbox holds what it wants of the
world, oldest first.
-/

namespace ResumableSession.Host

variable {Address P : Type}

/-! ## Lines -/

/-- Dials a line for a channel. -/
def dialLine (host : Host Address P) (channel : ChannelId) (remote : Address) (line : LineId)
    (handshake : Handshake) : Host Address P :=
  let (host, connection) := host.newConnection
  let dialed : HostLine P :=
    { connection, channel, id := line, task := .dialed host.codec handshake }
  { host with lines := dialed :: host.lines }.emit (.dial connection remote)

/-- Makes a line of a connection that has shaken hands. -/
def acceptLine (host : Host Address P) (channel : HostChannel Address P)
    (connection : ConnectionId) (handshake : Handshake) : Host Address P :=
  let inbox := ((host.greetings.find? (·.connection == connection)).map (·.inbox)).getD {}
  let (driver, id) := channel.driver.numberLine
  let accepted : HostLine P :=
    { connection, channel := channel.id, id, task := .accepted host.codec handshake inbox }
  { host.dropGreeting connection with
    channels := host.channels.map (setDriver channel.id driver)
    lines := accepted :: host.lines }.postEvent accepted (.accepted handshake)

/-- Shows what a move of a line does: its reports go to the driver. -/
def absorb (line : HostLine P) (host : Host Address P) : LineOutput P → Host Address P
  | .report event => host.postEvent line event
  | .wrote _ => host

/-- Makes a move of the line over a connection, if that is possible. -/
def moveLine (host : Host Address P) (connection : ConnectionId) (move : LineMove) :
    Host Address P :=
  match host.line? connection with
  | none => host
  | some line =>
      match line.task.step? move with
      | none => host
      | some (task, outputs) =>
          outputs.foldl (absorb line) (host.updateLine connection fun line => { line with task })

/-- The move that a line makes by itself: the reader goes first, then the end of a
half, then the owner's commands. -/
def nextMove? (line : HostLine P) : Option LineMove :=
  let reads : List LineMove := .decode :: (line.arrivals.take 1).map .arrive
  let moves := reads ++ [.conclude, .takeCommand, .finishFlush]
  moves.find? fun move => (line.task.step? move).isSome

/-- Makes the move that a line makes by itself. -/
def advanceLine (host : Host Address P) (line : HostLine P) (move : LineMove) : Host Address P :=
  let moved := host.moveLine line.connection move
  match move with
  | .arrive _ =>
      moved.updateLine line.connection fun line => { line with arrivals := line.arrivals.drop 1 }
  | _ => moved

/-! ## Channels -/

/-- Hands on what a session does to a line. -/
def applyAction (channel : ChannelId) (host : Host Address P) : LineAction P → Host Address P
  | .send id packet =>
      host.updateLines (fun line => line.channel == channel && line.id == id) fun line =>
        { line with task := line.task.command (.send packet) }
  | .close id graceful =>
      host.updateLines (fun line => line.channel == channel && line.id == id) fun line =>
        { line with task := line.task.command (.close graceful) }

/-- Does what a driver does to the world.  Nobody holds a channel whose session was
not created. -/
def applyEffect (channel : HostChannel Address P) (host : Host Address P) :
    ChannelEffect P → Host Address P
  | .publish _ => host
  | .deliver event => host.emit (.event channel.id event)
  | .answer (.ok sessionId) => host.emit (.answer channel.id (.ok sessionId))
  | .answer (.error cause) =>
      (host.emit (.answer channel.id (.error cause))).post channel.id .released
  | .dial line handshake =>
      match channel.remote with
      | some remote => host.dialLine channel.id remote line.id handshake
      | none => host

/-- A driver that has returned lets go of its lines, and the gateway is told. -/
def endChannel (host : Host Address P) (channel : HostChannel Address P)
    (reason : CloseReason) : Host Address P :=
  let released := host.updateLines (fun line => line.channel == channel.id) fun line =>
    { line with task := line.task.release }
  match channel.served with
  | some sessionId => released.postGateway (.sessionEnded sessionId reason)
  | none => released

/-- Lets the driver of a channel act on something. -/
def drive (host : Host Address P) (id : ChannelId) (pick : ChannelPick P) : Host Address P :=
  match host.channel? id with
  | none => host
  | some channel =>
      let (stepped, effects) := channel.driver.step pick
      let (driver, actions) := stepped.takeActions
      let replaced := { host with channels := host.channels.map (setDriver id driver) }
      let acted := actions.foldl (applyAction id) replaced
      let done := effects.foldl (applyEffect channel) acted
      match channel.driver.result, driver.result with
      | none, some reason => done.endChannel channel reason
      | _, _ => done

/-- Starts a channel. -/
def openChannel (host : Host Address P) (channel : HostChannel Address P) : Host Address P :=
  { host with channels := channel :: host.channels }.emit (.opened channel.id)

/-! ## The gateway -/

/-- Does what the gateway does to the world. -/
def applyGateway (host : Host Address P) : GatewayEffect ConnectionId → Host Address P
  | .report event => host.emit (.report event)
  | .startSession sessionId connection handshake =>
      let (host, id) := host.newChannel
      let channel : HostChannel Address P :=
        { id, served := some sessionId
          driver := ChannelDriver.responder sessionId host.sessionSettings }
      (host.openChannel channel).acceptLine channel connection handshake
  | .route sessionId connection handshake =>
      match host.serving? sessionId with
      | some channel => host.acceptLine channel connection handshake
      | none => host.refuse connection
  | .refuse connection => host.refuse connection
  | .stopListening => host.emit .stopListening
  | .closeSessions =>
      (host.channels.filter (·.served.isSome)).foldl
        (fun host channel => host.post channel.id .shutdown) host

/-- Lets the gateway act on something. -/
def dispatch (host : Host Address P) (input : GatewayInput ConnectionId) : Host Address P :=
  let (gateway, effects) := host.gateway.step input
  effects.foldl applyGateway { host with gateway }

/-- Reads the first packet of a connection, if it is there. -/
def greet (host : Host Address P) (greeting : Greeting) : Option (Host Address P) :=
  if greeting.decided then none
  else
    match host.codec.read greeting.inbox.bytes with
    | .ok none _ => none
    | .error _ _ => some (host.refuse greeting.connection)
    | .ok (some packet) rest =>
        match Handshake.ofPacket packet with
        | .error _ => some (host.refuse greeting.connection)
        | .ok handshake =>
            let read := host.updateGreeting greeting.connection fun greeting =>
              { greeting with inbox := { greeting.inbox with bytes := rest }, decided := true }
            some (read.postGateway (.handshake greeting.connection handshake))

/-! ## Coming to rest -/

/-- One small step of what is left to do, if anything is. -/
def settleOne? (host : Host Address P) : Option (Host Address P) :=
  match host.gatewayInputs, host.picks with
  | input :: inputs, _ => some ({ host with gatewayInputs := inputs }.dispatch input)
  | [], (channel, pick) :: picks => some ({ host with picks }.drive channel pick)
  | [], [] =>
      match host.greetings.findSome? host.greet with
      | some greeted => some greeted
      | none =>
          host.lines.findSome? fun line => (nextMove? line).map (host.advanceLine line)

/-- Does up to `steps` small steps, until there are none. -/
def settle : (steps : Nat) → Host Address P → Host Address P
  | 0, host => host
  | steps + 1, host =>
      match host.settleOne? with
      | some next => settle steps next
      | none => host

/-- Asks the world to write what a line offers, and to mind a graceful close. -/
def requestLine (host : Host Address P) (line : HostLine P) : Host Address P :=
  let written :=
    if line.task.offers && !line.writing then
      (host.updateLine line.connection fun line => { line with writing := true }).emit
        (.write line.connection line.task.pending)
    else host
  if line.task.stage = .flushing ∧ !line.flushing then
    (written.updateLine line.connection fun line => { line with flushing := true }).emit
      (.flushing line.connection)
  else written

/-- Forgets the channels that have ended and that no application holds. -/
def dropAbandoned (host : Host Address P) : Host Address P :=
  { host with
    channels := host.channels.filter fun channel =>
      channel.driver.held || !channel.driver.isFinished }

/-- Forgets the lines that are gone, and lets go of their connections. -/
def dropEnded (host : Host Address P) : Host Address P :=
  let ended := host.lines.filter (·.task.isEnded)
  ended.foldl (fun host line => host.emit (.hangUp line.connection))
    { host with lines := host.lines.filter (!·.task.isEnded) }

/-- Comes to rest, and asks the world for what the lines need. -/
def rest (steps : Nat) (host : Host Address P) : Host Address P :=
  let settled := host.settle steps
  (settled.lines.foldl requestLine settled).dropEnded.dropAbandoned

/-! ## Inputs -/

/-- What comes over a connection, to a line or as part of a first packet. -/
def onArrival (host : Host Address P) (connection : ConnectionId) (arrival : Arrival) :
    Host Address P :=
  if host.greetings.any (·.connection == connection) then
    match arrival with
    | .bytes (byte :: bytes) =>
        host.updateGreeting connection fun greeting =>
          { greeting with inbox := greeting.inbox.add (byte :: bytes) }
    | _ => host.refuse connection
  else
    host.updateLine connection fun line => { line with arrivals := line.arrivals ++ [arrival] }

/-- Gives up a session that was not created in time.  Nobody holds its channel. -/
def giveUp (host : Host Address P) (id : ChannelId) : Host Address P :=
  match host.channel? id with
  | none => host
  | some channel =>
      if channel.driver.awaited then
        let driver := { channel.driver with awaited := false }
        let answered :=
          { host with channels := host.channels.map (setDriver id driver) }.emit
            (.answer id (.error (.connectFailed .timedOut)))
        (answered.post id (.command .abort)).post id .released
      else host

/-- Takes an input.  What it sets off is left to do. -/
def take (host : Host Address P) : HostInput Address P → Host Address P
  | .connect remote settings token =>
      let (host, id) := host.newChannel
      let (driver, effects) := ChannelDriver.initiator settings token
      let channel : HostChannel Address P := { id, remote := some remote, driver }
      effects.foldl (applyEffect channel) (host.openChannel channel)
  | .accepted =>
      let (host, connection) := host.newConnection
      let greeting : Greeting := { connection }
      { host with greetings := host.greetings ++ [greeting] }.emit (.greeting connection)
  | .connected connection => host.moveLine connection .connect
  | .refused connection cause => host.moveLine connection (.refuse cause)
  | .connectExpired channel => host.giveUp channel
  | .arrived connection arrival => host.onArrival connection arrival
  | .wrote connection count =>
      (host.moveLine connection (.accept count)).updateLine connection fun line =>
        { line with writing := false }
  | .unwritable connection cause =>
      (host.moveLine connection (.reject cause)).updateLine connection fun line =>
        { line with writing := false }
  | .greetingExpired connection =>
      if host.greetings.any (·.connection == connection) then
        host.refuse connection
      else host
  | .flushExpired connection => host.moveLine connection .flushTimeout
  | .pick channel pick => host.post channel pick
  | .gateway input => host.postGateway input

end ResumableSession.Host
