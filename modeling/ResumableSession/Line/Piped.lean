import ResumableSession.Line.Task

/-!
# A line over a pipe

An accepted line whose transport is a pair of pipes of limited capacity, with
the peer at the other ends.  Time is virtual: it stands still until nothing can
move any more, and every operation of the peer or the owner takes a millisecond
on top.  The order of moves is fixed: the reader goes first, then the owner's
commands, then the writer.
-/

namespace ResumableSession

/-- A one-way stream of bytes. -/
structure Pipe where
  /-- What was written and not read. -/
  bytes : Bytes := []
  /-- How many bytes fit. -/
  capacity : Nat := 64 * 1024
  /-- Whether no more will be written. -/
  sealed : Bool := false

namespace Pipe

/-- How many more bytes fit. -/
def space (pipe : Pipe) : Nat := pipe.capacity - pipe.bytes.length

/-- Adds bytes that fit. -/
def put (pipe : Pipe) (bytes : Bytes) : Pipe := { pipe with bytes := pipe.bytes ++ bytes }

end Pipe

/-- A line and the pipes that it works on. -/
structure PipedLine (P : Type) where
  task : LineTask P
  /-- From the peer to the line. -/
  inward : Pipe
  /-- From the line to the peer. -/
  outward : Pipe
  /-- Whether the peer still holds its ends. -/
  peerPresent : Bool := true
  /-- The virtual time in milliseconds. -/
  now : Nat := 0
  /-- When a graceful close gives up. -/
  flushDeadline : Option Nat := none
  /-- What the line has reported, oldest first. -/
  events : List (LineEvent P) := []

/-- What comes of writing into a pipe. -/
inductive WriteResult where
  /-- Everything was written. -/
  | ok
  /-- The other end is gone. -/
  | brokenPipe
  /-- The pipe is full. -/
  | blocked
deriving DecidableEq, Repr

namespace PipedLine

variable {P : Type}

/-- Shows the effect of a move: reports are kept, bytes go into the pipe. -/
def absorb (piped : PipedLine P) : LineOutput P → PipedLine P
  | .report event => { piped with events := piped.events ++ [event] }
  | .wrote bytes => { piped with outward := piped.outward.put bytes }

/-- Makes a move.  A graceful close that begins gets its deadline, and a line
that ends lets go of its pipes. -/
def move? (piped : PipedLine P) (move : LineMove) : Option (PipedLine P) :=
  (piped.task.step? move).map fun (task, outputs) =>
    let moved := outputs.foldl absorb { piped with task }
    let deadline :=
      if task.stage = .flushing then
        some (piped.flushDeadline.getD (piped.now + LineTask.flushTimeout.nanos / 1000000))
      else none
    { moved with
      flushDeadline := deadline
      outward := { moved.outward with sealed := moved.outward.sealed || task.isEnded } }

/-- The reader's next move. -/
def readerMove? (piped : PipedLine P) : Option (PipedLine P) :=
  match piped.move? .decode with
  | some moved => some moved
  | none =>
      let room := piped.task.inbox.makeRoom.room
      if piped.inward.bytes.isEmpty then
        if piped.inward.sealed then piped.move? (.arrive (.bytes [])) else none
      else
        { piped with
          inward := { piped.inward with bytes := piped.inward.bytes.drop room }
        }.move? (.arrive (.bytes (piped.inward.bytes.take room)))

/-- The writer's next move. -/
def writerMove? (piped : PipedLine P) : Option (PipedLine P) :=
  match piped.move? .finishFlush with
  | some moved => some moved
  | none =>
      if piped.peerPresent then
        let offered := piped.task.pending.take piped.outward.space
        if offered.isEmpty then none else piped.move? (.accept offered.length)
      else piped.move? (.reject .brokenPipe)

/-- Gives up a graceful close whose time has come. -/
def timerMove? (piped : PipedLine P) : Option (PipedLine P) :=
  match piped.flushDeadline with
  | some deadline => if deadline ≤ piped.now then piped.move? .flushTimeout else none
  | none => none

/-- The next move of any kind. -/
def nextMove? (piped : PipedLine P) : Option (PipedLine P) :=
  piped.readerMove? <|> piped.move? .conclude <|> piped.move? .takeCommand <|>
    piped.writerMove? <|> piped.timerMove?

/-- Makes up to `moves` moves, until there are none. -/
def settleWithin : (moves : Nat) → PipedLine P → PipedLine P
  | 0, piped => piped
  | moves + 1, piped =>
      match piped.nextMove? with
      | some moved => settleWithin moves moved
      | none => piped

/-- A bound on the moves before the line comes to rest: every command is taken
once, every byte is read and decoded at most once, and the writer fills the pipe
once. -/
def moveBound (piped : PipedLine P) : Nat :=
  piped.task.commands.length + 2 * piped.inward.bytes.length +
    piped.task.inbox.bytes.length + 16

/-- Lets everything happen that can. -/
def settle (piped : PipedLine P) : PipedLine P := settleWithin piped.moveBound piped

/-- An accepted line with empty pipes. -/
def start (codec : PacketCodec P) (handshake : Handshake) (buffered : Bytes) (capacity : Nat) :
    PipedLine P :=
  { task := .accepted codec handshake { bytes := buffered }
    inward := { capacity }
    outward := { capacity }
    events := [.accepted handshake] }

/-- The owner gives a command.  It is lost once the line is gone. -/
def command (piped : PipedLine P) (command : LineCommand P) : PipedLine P :=
  if piped.task.isEnded || piped.task.released then piped
  else { piped with task := piped.task.command command }

/-- The owner lets go of the line. -/
def release (piped : PipedLine P) : PipedLine P := { piped with task := piped.task.release }

/-- The peer writes, as much at a time as the pipe holds, for as many rounds as
there are bytes. -/
def writeRounds : (rounds : Nat) → PipedLine P → Bytes → PipedLine P × WriteResult
  | 0, piped, _ => (piped, .blocked)
  | rounds + 1, piped, bytes =>
      if bytes.isEmpty then (piped, .ok)
      else if piped.task.isEnded || piped.inward.sealed then (piped, .brokenPipe)
      else
        let space := piped.inward.space
        let filled := { piped with inward := piped.inward.put (bytes.take space) }
        let left := bytes.drop space
        if left.isEmpty then (filled, .ok)
        else if space = 0 then (filled, .blocked)
        else writeRounds rounds filled.settle left

/-- The peer writes all of `bytes`, or as many as it can. -/
def write (piped : PipedLine P) (bytes : Bytes) : PipedLine P × WriteResult :=
  writeRounds (bytes.length + 1) piped bytes

/-- The peer reads what there is, for as long as more comes and `limit` allows.
The flag says whether it has come to the end of the stream. -/
def readRounds : (rounds : Nat) → PipedLine P → (limit : Option Nat) → PipedLine P × Bytes × Bool
  | 0, piped, _ => (piped, [], false)
  | rounds + 1, piped, limit =>
      if limit = some 0 then (piped, [], false)
      else
        let available := piped.outward.bytes
        if available.isEmpty then
          if piped.outward.sealed then (piped, [], true)
          else (piped, [], false)
        else
          let wanted := limit.getD available.length
          let got := available.take wanted
          let drained := { piped with outward := { piped.outward with bytes := available.drop wanted } }
          let (after, more, atEnd) :=
            readRounds rounds drained.settle (limit.map (· - got.length))
          (after, got ++ more, atEnd)

/-- The peer reads everything it can get, up to `limit` bytes. -/
def read (piped : PipedLine P) (limit : Option Nat) : PipedLine P × Bytes × Bool :=
  let settled := piped.settle
  readRounds (settled.task.pending.length + settled.outward.bytes.length + 2) settled limit

/-- The peer writes no more. -/
def shutdown (piped : PipedLine P) : PipedLine P :=
  { piped with inward := { piped.inward with sealed := true } }

/-- The peer lets go of both pipes. -/
def hangup (piped : PipedLine P) : PipedLine P :=
  { piped with peerPresent := false, inward := { piped.inward with sealed := true } }

/-- Lets `millis` pass and everything happen that can, and takes the events.
Collecting them takes a millisecond. -/
def collect (piped : PipedLine P) (millis : Nat) : PipedLine P × List (LineEvent P) :=
  let settled := { piped.settle with now := piped.now + millis }.settle
  ({ settled with events := [], now := settled.now + 1 }, settled.events)

end PipedLine

end ResumableSession
