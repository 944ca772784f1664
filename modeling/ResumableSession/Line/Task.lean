import ResumableSession.Line.Reception
import ResumableSession.Time.Duration

/-!
# The task of a line

A line is worked by two halves that run side by side.  The reader decodes what
arrives and reports it; the writer takes commands from the owner, encodes
packets into a buffer and hands the buffer to the transport bit by bit.  The
half that ends first ends the line.  A dialed line first shakes hands, and while
it does the owner's packets are dropped.

Every single thing that can happen is a move.  Which moves are possible is all
that is fixed; their order is up to the transport, the owner and the scheduler.
-/

namespace ResumableSession

/-- Why a line ended. -/
inductive LineEnd where
  /-- Its owner closed it. -/
  | closedLocally
  /-- The peer ended the stream between two packets. -/
  | closedByPeer
  /-- The transport, the codec or the handshake failed. -/
  | failed (cause : SessionError)
  /-- A packet that was queued cannot be encoded. -/
  | unencodable (cause : CodecError)
deriving DecidableEq, Repr

/-- The wording of a reason. -/
def LineEnd.message : LineEnd → String
  | .closedLocally => "closed locally"
  | .closedByPeer => "closed by peer"
  | .failed cause => cause.message
  | .unencodable cause => s!"cannot encode packet: {cause.message}"

/-- What a line reports to its owner. -/
inductive LineEvent (P : Type) where
  /-- The line was accepted with this handshake. -/
  | accepted (handshake : Handshake)
  /-- The server created a session for the line. -/
  | created (sessionId : UInt32)
  /-- The server bound the line to its session. -/
  | rebound (serverAck : UInt32)
  /-- A packet came after the handshake. -/
  | received (packet : Packet P)
  /-- The line is gone. -/
  | closed (reason : LineEnd)
deriving DecidableEq, Repr

/-- What the owner of a line asks of it. -/
inductive LineCommand (P : Type) where
  | send (packet : Packet P)
  /-- To close; gracefully means to write first what is queued. -/
  | close (graceful : Bool)
deriving DecidableEq, Repr

/-- The stages of a line. -/
inductive LineStage where
  /-- The connection is being made. -/
  | dialing
  /-- The handshake is being written. -/
  | requesting
  /-- The answer to the handshake is awaited. -/
  | awaiting
  /-- Packets go both ways. -/
  | running
  /-- The writer writes what is queued, and then stops. -/
  | flushing
  /-- The writer has stopped; the reader is told to stop. -/
  | stopping (reason : LineEnd)
  /-- The line is gone, and its end was reported. -/
  | ended
deriving DecidableEq, Repr

/-- The state of a line.  Its owner is taken to go on listening: a line whose reports have no
receiver any more ends by itself as closed locally, and no move stands for that. -/
structure LineTask (P : Type) where
  /-- How packets are encoded. -/
  codec : PacketCodec P
  /-- What the line is for. -/
  handshake : Handshake
  /-- How far it has come. -/
  stage : LineStage
  /-- The commands that were given and not taken, oldest first. -/
  commands : List (LineCommand P) := []
  /-- Whether the owner has let go of the line, so that no more commands can come. -/
  released : Bool := false
  /-- What the reader has read and not decoded. -/
  inbox : Inbox := {}
  /-- Why the reader has ended, if it has. -/
  readerEnd : Option LineEnd := none
  /-- What the writer has encoded and the transport has not accepted. -/
  pending : Bytes := []

/-- A thing that can happen to a line. -/
inductive LineMove where
  /-- The connection is made. -/
  | connect
  /-- The connection cannot be made. -/
  | refuse (cause : TransportError)
  /-- The line takes the owner's next command. -/
  | takeCommand
  /-- The reader looks at what it has read. -/
  | decode
  /-- The reader reads. -/
  | arrive (arrival : Arrival)
  /-- The transport accepts so many bytes. -/
  | accept (count : Nat)
  /-- The transport fails to accept any. -/
  | reject (cause : TransportError)
  /-- All that was queued is written. -/
  | finishFlush
  /-- Writing what was queued takes too long. -/
  | flushTimeout
  /-- The end of a half becomes the end of the line. -/
  | conclude
deriving DecidableEq, Repr

/-- What a move shows to the world. -/
inductive LineOutput (P : Type) where
  /-- An event for the owner. -/
  | report (event : LineEvent P)
  /-- Bytes that the transport has accepted. -/
  | wrote (bytes : Bytes)
deriving DecidableEq, Repr

namespace LineTask

variable {P : Type}

/-- How long a graceful close may take. -/
def flushTimeout : Duration := .ofSeconds 1

/-- An accepted line, after its handshake; what was read beyond it is in `inbox`. -/
def accepted (codec : PacketCodec P) (handshake : Handshake) (inbox : Inbox) : LineTask P where
  codec
  handshake
  stage := .running
  inbox

/-- A line that is to be dialed. -/
def dialed (codec : PacketCodec P) (handshake : Handshake) : LineTask P where
  codec
  handshake
  stage := .dialing

/-- The owner gives a command. -/
def command (task : LineTask P) (command : LineCommand P) : LineTask P :=
  { task with commands := task.commands ++ [command] }

/-- The owner lets go of the line. -/
def release (task : LineTask P) : LineTask P := { task with released := true }

/-- Whether the line is gone. -/
def isEnded (task : LineTask P) : Bool := task.stage == .ended

/-- Whether the line is still shaking hands. -/
def isShaking (task : LineTask P) : Bool :=
  task.stage == .dialing || task.stage == .requesting || task.stage == .awaiting

/-- Whether the reader works on packets that follow the handshake. -/
def isReading (task : LineTask P) : Bool :=
  !task.isShaking && !task.isEnded && task.readerEnd.isNone

/-- The line is gone, for this reason. -/
def finish (task : LineTask P) (reason : LineEnd) : LineTask P × List (LineOutput P) :=
  ({ task with stage := .ended }, [.report (.closed reason)])

/-- The writer stops, for this reason. -/
def stop (task : LineTask P) (reason : LineEnd) : LineTask P × List (LineOutput P) :=
  ({ task with stage := .stopping reason }, [])

/-- The connection was made: the handshake goes into the writer's buffer. -/
def onConnected (task : LineTask P) : LineTask P × List (LineOutput P) :=
  match task.codec.encode task.handshake.toPacket with
  | .ok request => ({ task with stage := .requesting, pending := request }, [])
  | .error cause => task.finish (.failed (.codec cause))

/-- A packet answers the handshake. -/
def onAnswer (task : LineTask P) (packet : Packet P) : LineTask P × List (LineOutput P) :=
  match task.handshake, packet with
  | .create _, .createResponse sessionId =>
      ({ task with stage := .running }, [.report (.created sessionId)])
  | .rebind .., .rebindResponse serverAck =>
      ({ task with stage := .running }, [.report (.rebound serverAck)])
  | _, packet => task.finish (.failed (.handshakeRejected (.unexpected packet.kind)))

/-- Takes a command while shaking hands: there is nothing to send a packet on. -/
def takeEarly (task : LineTask P) : Option (LineTask P × List (LineOutput P)) :=
  match task.commands with
  | .send _ :: later => some ({ task with commands := later }, [])
  | .close _ :: _ => some (task.finish .closedLocally)
  | [] => if task.released then some (task.finish .closedLocally) else none

/-- Takes a command once packets can be sent. -/
def takeRunning (task : LineTask P) : Option (LineTask P × List (LineOutput P)) :=
  match task.commands with
  | .send packet :: later =>
      let task := { task with commands := later }
      match task.codec.write packet task.pending with
      | .ok () pending => some ({ task with pending }, [])
      | .error cause _ => some (task.stop (.unencodable cause))
  | .close true :: later => some ({ task with commands := later, stage := .flushing }, [])
  | .close false :: later => some (stop { task with commands := later } .closedLocally)
  | [] => if task.released then some (task.stop .closedLocally) else none

/-- Takes a command, if the line is in a stage that does. -/
def takeCommand (task : LineTask P) : Option (LineTask P × List (LineOutput P)) :=
  if task.isShaking then task.takeEarly
  else if task.stage = .running then task.takeRunning
  else none

/-- The reader looks at what it has read.  There is no such move while that is
not a whole packet. -/
def decode (task : LineTask P) : Option (LineTask P × List (LineOutput P)) :=
  match task.codec.read task.inbox.bytes with
  | .ok none _ => none
  | .ok (some packet) rest =>
      let task := { task with inbox := { task.inbox with bytes := rest } }
      if task.stage = .awaiting then some (task.onAnswer packet)
      else if task.isReading then some (task, [.report (.received packet)])
      else none
  | .error cause rest =>
      let task := { task with inbox := { task.inbox with bytes := rest } }
      if task.stage = .awaiting then some (task.finish (.failed (.codec cause)))
      else if task.isReading then some ({ task with readerEnd := some (.failed (.codec cause)) }, [])
      else none

/-- What the end of the stream means, between packets or inside one. -/
def streamEnd (task : LineTask P) : LineEnd :=
  if task.inbox.bytes.isEmpty then
    if task.stage = .awaiting then .failed (.handshakeRejected .closedDuringHandshake)
    else .closedByPeer
  else .failed (.transport .truncated)

/-- The reader cannot go on. -/
def endReading (task : LineTask P) (reason : LineEnd) : LineTask P × List (LineOutput P) :=
  if task.stage = .awaiting then task.finish reason
  else ({ task with readerEnd := some reason }, [])

/-- Whether the reader has to read on: what it has read is no whole packet. -/
def needsBytes (task : LineTask P) : Bool :=
  (task.stage == .awaiting || task.isReading) &&
    match task.codec.read task.inbox.bytes with
    | .ok none _ => true
    | _ => false

/-- The reader reads. -/
def arrive (task : LineTask P) (arrival : Arrival) : Option (LineTask P × List (LineOutput P)) :=
  if task.needsBytes then
    match arrival with
    | .failure cause => some (task.endReading (.failed (.transport cause)))
    | .bytes [] => some (task.endReading task.streamEnd)
    | .bytes bytes => some ({ task with inbox := task.inbox.makeRoom.add bytes }, [])
  else none

/-- Whether the writer offers bytes to the transport.  Commands come first. -/
def offers (task : LineTask P) : Bool :=
  !task.pending.isEmpty &&
    match task.stage with
    | .requesting | .flushing => true
    | .running => task.commands.isEmpty && !task.released
    | _ => false

/-- The transport does not take what the writer offers.  A graceful close makes
no more of it. -/
def onRejected (task : LineTask P) (cause : TransportError) :
    LineTask P × List (LineOutput P) :=
  match task.stage with
  | .requesting => task.finish (.failed (.transport cause))
  | .flushing => task.stop .closedLocally
  | _ => task.stop (.failed (.transport cause))

/-- The transport accepts bytes.  It must not accept none. -/
def onAccepted (task : LineTask P) (count : Nat) :
    Option (LineTask P × List (LineOutput P)) :=
  if task.offers then
    if count = 0 then some (task.onRejected .writeZero)
    else
      let written := task.pending.take count
      if written.length = count then
        let left := task.pending.drop count
        let stage :=
          if task.stage = .requesting ∧ left.isEmpty then .awaiting else task.stage
        some ({ task with pending := left, stage }, [.wrote written])
      else none
  else none

/-- The end of a half becomes the end of the line: the writer's if it has
stopped, and else the reader's. -/
def conclude (task : LineTask P) : Option (LineTask P × List (LineOutput P)) :=
  match task.stage, task.readerEnd with
  | .stopping reason, _ => some (task.finish reason)
  | .running, some reason | .flushing, some reason => some (task.finish reason)
  | _, _ => none

/-- What a move makes of a line, and what it shows; `none` if the move is not
possible. -/
def step? (task : LineTask P) : LineMove → Option (LineTask P × List (LineOutput P))
  | .connect => if task.stage = .dialing then some task.onConnected else none
  | .refuse cause =>
      if task.stage = .dialing then some (task.finish (.failed (.transport cause))) else none
  | .takeCommand => task.takeCommand
  | .decode => task.decode
  | .arrive arrival => task.arrive arrival
  | .accept count => task.onAccepted count
  | .reject cause => if task.offers then some (task.onRejected cause) else none
  | .finishFlush =>
      if task.stage = .flushing ∧ task.pending.isEmpty then some (task.stop .closedLocally)
      else none
  | .flushTimeout => if task.stage = .flushing then some (task.stop .closedLocally) else none
  | .conclude => task.conclude

end LineTask

end ResumableSession
