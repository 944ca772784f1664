import ResumableSession.Command.Echo
import ResumableSession.Network.Host.Step
import Std.Async.Signal
import Std.Async.TCP
import Std.Async.Timer
import Std.Sync.Channel
import Std.Time

/-!
# The command line

Runs the echo service and its client over real connections.  All that is decided is
decided by the host and by the command; here their wishes are carried out, and what
comes of them is handed back one thing at a time.
-/

namespace ResumableSession.Command

open Std.Async

/-- What the outer world has to say. -/
inductive Notice where
  /-- Something for the host. -/
  | input (input : HostInput SocketAddress Bytes)
  /-- Somebody has connected. -/
  | accepted (socket : TCP.Socket.Client)
  /-- It is time for the gateway to look for old tokens. -/
  | sweep
  /-- It is time to tick a channel. -/
  | tick (channel : ChannelId)
  /-- A pause is over. -/
  | awake
  /-- The user has interrupted the command. -/
  | interrupted

/-- A host and what it is connected to. -/
structure Shell where
  /-- What the outer world has said and nobody has heard. -/
  mailbox : Std.CloseableChannel Notice
  host : IO.Ref (Host SocketAddress Bytes)
  /-- The open connections. -/
  sockets : IO.Ref (List (ConnectionId × TCP.Socket.Client))
  /-- When a channel was ticked last. -/
  ticked : IO.Ref (List (ChannelId × Duration))
  /-- What the host has told its applications, oldest first. -/
  told : IO.Ref (List (HostEffect SocketAddress Bytes))
  /-- What the outer world has told the applications, oldest first. -/
  noticed : IO.Ref (List Notice)
  /-- What the operator has chosen. -/
  config : Config

namespace Shell

/-- A shell around a host that has done nothing. -/
def create (config : Config) : IO Shell := do
  let host : Host SocketAddress Bytes :=
    { codec := { payloads := .raw }
      sessionSettings := config.session
      gateway := .ofSettings config.gateway }
  return {
    mailbox := ← Std.CloseableChannel.new
    host := ← IO.mkRef host
    sockets := ← IO.mkRef []
    ticked := ← IO.mkRef []
    told := ← IO.mkRef []
    noticed := ← IO.mkRef []
    config }

/-- The time on a clock that only moves forward. -/
def now : BaseIO Duration := return .ofNanos (← IO.monoNanosNow)

/-- Leaves a notice. -/
def post (shell : Shell) (notice : Notice) : BaseIO Unit :=
  discard (shell.mailbox.trySend notice)

/-- Leaves something for the host. -/
def postInput (shell : Shell) (input : HostInput SocketAddress Bytes) : BaseIO Unit :=
  shell.post (.input input)

/-- A time in whole milliseconds, rounded up. -/
def millisOf (time : Duration) : Std.Time.Millisecond.Offset :=
  .ofNat (min ((time.nanos + 1000000 - 1) / 1000000) 0x10000000000)

/-- Leaves a notice after some time. -/
def postAfter (shell : Shell) (time : Duration) (notice : Notice) : IO Unit := do
  let wait : Async Unit := do
    Std.Async.sleep (millisOf time)
    shell.post notice
  discard wait.toIO

/-- Leaves a notice again and again, beginning now, for as long as `wanted` says. -/
partial def postEvery (shell : Shell) (time : Duration) (notice : Notice)
    (wanted : BaseIO Bool) : Async Unit := do
  if ← wanted then
    shell.post notice
    Std.Async.sleep (millisOf time)
    shell.postEvery time notice wanted

/-- An address as the operating system takes it. -/
def netAddress : SocketAddress → Std.Net.SocketAddress
  | .v4 address portNumber => .v4 ⟨⟨address⟩, portNumber⟩
  | .v6 address _ portNumber => .v6 ⟨⟨address⟩, portNumber⟩

/-- An address as the operating system gives it. -/
def ofNetAddress : Std.Net.SocketAddress → SocketAddress
  | .v4 ⟨⟨address⟩, portNumber⟩ => .v4 address portNumber
  | .v6 ⟨⟨address⟩, portNumber⟩ => .v6 address 0 portNumber

/-- Hands over what comes over a connection. -/
partial def receive (shell : Shell) (connection : ConnectionId) (socket : TCP.Socket.Client) :
    Async Unit := do
  try
    match ← socket.recv? 8192 with
    | some bytes =>
        shell.postInput (.arrived connection (.bytes bytes.toList))
        shell.receive connection socket
    | none => shell.postInput (.arrived connection (.bytes []))
  catch _ => shell.postInput (.arrived connection (.failure .connectionReset))

/-- Takes a connection into use. -/
def adopt (shell : Shell) (connection : ConnectionId) (socket : TCP.Socket.Client) :
    IO Unit := do
  try socket.noDelay catch _ => pure ()
  shell.sockets.modify ((connection, socket) :: ·)
  discard (shell.receive connection socket).toIO

/-- Dials a connection. -/
def dial (shell : Shell) (connection : ConnectionId) (remote : SocketAddress) : IO Unit := do
  let attempt : Async Unit := do
    try
      let socket ← TCP.Socket.Client.mk
      socket.connect (netAddress remote)
      shell.adopt connection socket
      shell.postInput (.connected connection)
    catch _ => shell.postInput (.refused connection .connectionRefused)
  discard attempt.toIO

/-- Writes to a connection. -/
def write (shell : Shell) (connection : ConnectionId) (bytes : Bytes) : IO Unit := do
  match (← shell.sockets.get).lookup connection with
  | none => shell.postInput (.unwritable connection .brokenPipe)
  | some socket =>
      let attempt : Async Unit := do
        try
          socket.send ⟨bytes.toArray⟩
          shell.postInput (.wrote connection bytes.length)
        catch _ => shell.postInput (.unwritable connection .brokenPipe)
      discard attempt.toIO

/-- Lets go of a connection. -/
def hangUp (shell : Shell) (connection : ConnectionId) : IO Unit := do
  match (← shell.sockets.get).lookup connection with
  | none => pure ()
  | some socket =>
      shell.sockets.modify (·.filter (·.1 != connection))
      let attempt : Async Unit := do
        try socket.shutdown catch _ => pure ()
      discard attempt.toIO

/-- Carries out what the host wants, or leaves it for the application. -/
def perform (shell : Shell) : HostEffect SocketAddress Bytes → IO Unit
  | .dial connection remote => shell.dial connection remote
  | .write connection bytes => shell.write connection bytes
  | .flushing connection =>
      shell.postAfter LineTask.flushTimeout (.input (.flushExpired connection))
  | .greeting connection =>
      shell.postAfter shell.config.handshakeTimeout (.input (.greetingExpired connection))
  | .hangUp connection => shell.hangUp connection
  | .stopListening => pure ()
  | .opened channel => do
      let time ← now
      shell.ticked.modify ((channel, time) :: ·)
      let interval := ChannelDriver.tickInterval shell.config.session
      let lives : BaseIO Bool := return ((← shell.host.get).channel? channel).isSome
      discard (shell.postEvery interval (.tick channel) lives).toIO
  | effect => shell.told.modify (· ++ [effect])

/-- Gives the host an input, and carries out what it wants. -/
def give (shell : Shell) (input : HostInput SocketAddress Bytes) : IO Unit := do
  let host ← shell.host.get
  let clock := UInt32.ofNat (← IO.monoMsNow)
  let rested := ({ host with clock }.take input).rest 0x10000000000
  shell.host.set { rested with outbox := [] }
  for effect in rested.outbox do
    shell.perform effect

/-- Ticks a channel for the time that has passed since the last tick. -/
def tick (shell : Shell) (channel : ChannelId) : IO Unit := do
  let time ← now
  let last := ((← shell.ticked.get).lookup channel).getD time
  let others := (← shell.ticked.get).filter (·.1 != channel)
  if ((← shell.host.get).channel? channel).isSome then
    shell.ticked.set ((channel, time) :: others)
    shell.give (.pick channel (.tick (time - last) (UInt32.ofNat (← IO.monoMsNow))))
  else shell.ticked.set others

/-- Hears the next notice. -/
def hear (shell : Shell) : IO Unit := do
  match ← IO.wait (← shell.mailbox.recv) with
  | none => pure ()
  | some (.input input) => shell.give input
  | some (.accepted socket) =>
      let connection : ConnectionId := ⟨(← shell.host.get).nextConnection⟩
      shell.give .accepted
      shell.adopt connection socket
  | some .sweep => shell.give (.gateway (.sweep (← now)))
  | some (.tick channel) => shell.tick channel
  | some notice => shell.noticed.modify (· ++ [notice])

/-- Hears notices until `poll` finds what it looks for. -/
partial def await {α : Type} (shell : Shell) (poll : IO (Option α)) : IO α := do
  match ← poll with
  | some found => return found
  | none =>
      shell.hear
      shell.await poll

/-- Takes what the host has told its applications. -/
def takeTold (shell : Shell) : IO (List (HostEffect SocketAddress Bytes)) :=
  shell.told.modifyGet fun told => (told, [])

/-- Takes what the outer world has told the applications. -/
def takeNoticed (shell : Shell) : IO (List Notice) :=
  shell.noticed.modifyGet fun noticed => (noticed, [])

end Shell

/-- Writes an event into the log, if it is important enough. -/
def log (arguments : Arguments) (event : Log.Event) : IO Unit := do
  if arguments.logs event.level then
    let time ← Std.Time.PlainDateTime.now
    let moment : Log.Moment :=
      { year := time.date.year.toInt.toNat
        month := time.date.month.toNat
        day := time.date.day.toNat
        hour := time.time.hour.toNat
        minute := time.time.minute.toNat
        second := time.time.second.toNat
        milli := time.time.nanosecond.toNat / 1000000 }
    let output ← IO.getStdout
    output.putStr (Log.stamp moment ++ Log.line serviceName event)
    output.flush

/-- What a refusal to listen means. -/
def bindCause : IO.Error → TransportError
  | .unsupportedOperation .. => .addressNotAvailable
  | .permissionDenied .. => .permissionDenied
  | .invalidArgument .. => .invalidArgument
  | _ => .addressInUse

/-- Accepts connections for as long as there is a gateway. -/
partial def acceptAll (shell : Shell) (server : TCP.Socket.Server) : Async Unit := do
  shell.post (.accepted (← server.accept))
  acceptAll shell server

/-- Leaves a notice when the user interrupts the command. -/
def watchInterrupt (shell : Shell) : IO Unit := do
  let waiter ← Signal.Waiter.mk .sigint false
  let watch : Async Unit := do
    discard (await (← waiter.wait))
    shell.post .interrupted
  discard watch.toIO

/-- Does what an event of a session or the gateway asks of the service. -/
def onServiceEvent (arguments : Arguments) (shell : Shell) (running : Bool) :
    HostEffect SocketAddress Bytes → IO Unit
  | .report event => if running then log arguments (gatewayLog event) else pure ()
  | .event channel event => do
      let host ← shell.host.get
      match host.channel? channel with
      | none => pure ()
      | some served =>
          match echo host.codec served.driver event with
          | some pick => shell.postInput (.pick channel pick)
          | none => pure ()
  | _ => pure ()

/-- Runs the service until it is interrupted and its sessions have ended. -/
def serve (arguments : Arguments) (config : Config) : IO (Except Failure Unit) := do
  let server ← TCP.Socket.Server.mk
  let bound ← (do
    server.bind (Shell.netAddress config.listen)
    server.listen 1024).toBaseIO
  if let .error cause := bound then
    return .error (.bind config.listen (bindCause cause))
  let shell ← Shell.create config
  watchInterrupt shell
  discard (acceptAll shell server).toIO
  if let some interval := (← shell.host.get).gateway.sweepInterval? then
    discard (shell.postEvery interval .sweep (return true)).toIO
  log arguments (listening (Shell.ofNetAddress (← server.getSockName)))
  let running ← IO.mkRef true
  shell.await do
    for effect in ← shell.takeTold do
      onServiceEvent arguments shell (← running.get) effect
    for notice in ← shell.takeNoticed do
      if let .interrupted := notice then
        if ← running.get then
          running.set false
          log arguments interrupted
          shell.give (.gateway (.stop false))
    return if (← shell.host.get).gateway.isFinished then some () else none
  log arguments shutDown
  return .ok ()

/-- Sends the payloads of a client, with pauses between them. -/
def sendAll (arguments : Arguments) (shell : Shell) (channel : ChannelId) :
    (left : Nat) → IO (Except Failure Unit)
  | 0 => return .ok ()
  | left + 1 => do
      let payload := WireText.utf8 arguments.message
      let host ← shell.host.get
      let checked :=
        match host.channel? channel with
        | some opened => opened.driver.checkSend host.codec payload
        | none => .error .channelClosed
      match checked with
      | .error cause => return .error (.send cause)
      | .ok () =>
          shell.give (.pick channel (.command (.send payload)))
          if 0 < left && !arguments.interval.isZero then
            shell.postAfter arguments.interval .awake
            shell.await do
              return if (← shell.takeNoticed).isEmpty then none else some ()
          sendAll arguments shell channel left

/-- Follows a client from its last payload to its end. -/
partial def follow (arguments : Arguments) (shell : Shell) (channel : ChannelId)
    (client : EchoClient) (events : List (ChannelEvent Bytes)) : IO (Except Failure Unit) := do
  match events with
  | [] =>
      let told ← shell.await do
        let told ← shell.takeTold
        return if told.isEmpty then none else some told
      follow arguments shell channel client (told.filterMap fun effect =>
        match effect with
        | .event _ event => some event
        | _ => none)
  | event :: events =>
      let status := (((← shell.host.get).channel? channel).map (·.driver.status)).getD {}
      let (client, entries, next) := client.onEvent status event
      for entry in entries do
        log arguments entry
      match next with
      | .wait => follow arguments shell channel client events
      | .close =>
          shell.give (.pick channel (.command .close))
          follow arguments shell channel client events
      | .done => return .ok ()
      | .fail failure => return .error failure

/-- Runs the client. -/
def connect (arguments : Arguments) (config : Config) : IO (Except Failure Unit) := do
  let shell ← Shell.create config
  let channel : ChannelId := ⟨0⟩
  shell.give (.connect arguments.remote config.client arguments.token)
  shell.postAfter config.connectTimeout (.input (.connectExpired channel))
  let outcome ← shell.await do
    return (← shell.told.get).findSome? fun effect =>
      match effect with
      | .answer _ outcome => some outcome
      | _ => none
  match outcome with
  | .error cause => return .error (.connect arguments.remote cause)
  | .ok sessionId =>
      log arguments (EchoClient.created sessionId arguments.remote)
      match ← sendAll arguments shell channel arguments.count with
      | .error failure => return .error failure
      | .ok () =>
          let client : EchoClient := { count := arguments.count }
          let status := (((← shell.host.get).channel? channel).map (·.driver.status)).getD {}
          let (client, entries, next) := client.closeIfComplete status
          for entry in entries do
            log arguments entry
          if let .close := next then
            shell.give (.pick channel (.command .close))
          let told ← shell.takeTold
          follow arguments shell channel client (told.filterMap fun effect =>
            match effect with
            | .event _ event => some event
            | _ => none)

/-- Performs a call. -/
def perform (verb : Verb) (arguments : Arguments) : IO (Except Failure Unit) := do
  let file ← (IO.FS.readBinFile arguments.configPath).toBaseIO
  let environment ← ConfigOverride.all.filterMapM fun entry => do
    return (← IO.getEnv entry.name).map fun value => (entry.name, value)
  let opening := arguments.begin (file.toOption.map (·.toList)) fun name =>
    environment.lookup name
  for event in opening.events do
    log arguments event
  match opening.outcome with
  | .error failure => return .error failure
  | .ok config =>
      match verb with
      | .serve => serve arguments config
      | .connect => connect arguments config

end ResumableSession.Command

open ResumableSession.Command in
/-- Does what the arguments say.  The exit code is two for arguments that make no
sense, and one for a command that came to nothing. -/
def main (words : List String) : IO UInt32 := do
  match Call.ofArguments words with
  | .help =>
      IO.print usage
      return 0
  | .version =>
      IO.println versionLine
      return 0
  | .rejected =>
      IO.eprint usage
      return 2
  | .perform verb arguments =>
      match ← perform verb arguments with
      | .ok () => return 0
      | .error failure =>
          for line in failure.lines do
            IO.eprintln line
          return 1
