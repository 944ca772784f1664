import ResumableSession.Line.Task
import ResumableSession.Session.Core

/-!
# Channels and their drivers

A channel is what an application sees of a session; its driver owns the session.
The driver picks one thing at a time from what has happened, lets the session
step, and takes all outputs of the step before it picks the next.  When the
session has ended the driver returns the reason, and nothing follows.
-/

namespace ResumableSession

/-- What an application is told by a channel. -/
inductive ChannelEvent (P : Type) where
  /-- The peer's next payload. -/
  | received (payload : P)
  /-- Closing has moved on. -/
  | closeStateChanged (state : CloseState)
  /-- The session has ended; nothing follows. -/
  | closed (reason : CloseReason)
deriving DecidableEq, Repr

/-- What an application can look at in a channel. -/
structure ChannelStatus where
  /-- The id of the session; zero until it is created. -/
  sessionId : UInt32 := 0
  /-- Whether the session was created. -/
  connected : Bool := false
  /-- How far closing has come. -/
  closeState : CloseState := .active
  /-- The estimate of the round trip, once there is one. -/
  estimate : Option Duration := none
  /-- Why the session has ended, once it has. -/
  closed : Option CloseReason := none
deriving DecidableEq, Repr

/-- What an application asks of a session. -/
inductive ChannelCommand (P : Type) where
  | send (payload : P)
  /-- To close with the close handshake. -/
  | close
  /-- To end without it. -/
  | abort
deriving DecidableEq, Repr

/-- What a driver can pick next. -/
inductive ChannelPick (P : Type) where
  /-- So much time has passed since the last tick. -/
  | tick (time : Duration) (clock : UInt32)
  /-- A line reports something. -/
  | lineEvent (line : LineId) (event : LineEvent P) (clock : UInt32)
  /-- The application asks for something. -/
  | command (command : ChannelCommand P)
  /-- The application has let go of the channel. -/
  | released
  /-- The gateway wants its sessions closed. -/
  | shutdown
deriving DecidableEq, Repr

/-- What a driver does to the world around it. -/
inductive ChannelEffect (P : Type) where
  /-- The status that the application sees from now on. -/
  | publish (status : ChannelStatus)
  /-- An event for the application. -/
  | deliver (event : ChannelEvent P)
  /-- The answer to the one who asked for the session: its id, or why there is none. -/
  | answer (outcome : Except SessionError UInt32)
  /-- Dials a line with this handshake. -/
  | dial (line : Line) (handshake : Handshake)

/-- A driver and the session it owns. -/
structure ChannelDriver (P : Type) where
  session : Session P
  /-- Whether lines can be dialed: only a connecting side knows where to. -/
  dials : Bool := false
  /-- The number of the next line. -/
  nextLine : Nat := 0
  /-- The status that was published last. -/
  status : ChannelStatus := {}
  /-- Whether somebody still waits for the session to be created. -/
  awaited : Bool := false
  /-- Whether the application still holds the channel. -/
  held : Bool := true
  /-- Whether a request to shut down would still be heeded. -/
  watchesShutdown : Bool := false
  /-- What the driver has returned, once it has. -/
  result : Option CloseReason := none

namespace ChannelDriver

variable {P : Type}

/-- The line that creates the session of a connecting side. -/
def creatingLine : Line := ⟨⟨0⟩, 0⟩

/-- The driver of a connecting side, and the line that it dials first. -/
def initiator (settings : ClientSettings) (token : String) :
    ChannelDriver P × List (ChannelEffect P) :=
  ({ session := Session.initiator settings.session settings.rebind creatingLine
     dials := true
     nextLine := 1
     awaited := true }, [.dial creatingLine (.create token)])

/-- The driver of an accepting side. -/
def responder (sessionId : UInt32) (settings : SessionSettings) : ChannelDriver P where
  session := Session.responder sessionId settings
  status := { sessionId }
  watchesShutdown := true

/-- The time between two ticks; at least a millisecond. -/
def tickInterval (settings : SessionSettings) : Duration :=
  settings.tickInterval.max (.ofMillis 1)

/-- Whether the driver has returned. -/
def isFinished (driver : ChannelDriver P) : Bool := driver.result.isSome

/-- Numbers a line that was accepted for the session. -/
def numberLine (driver : ChannelDriver P) : ChannelDriver P × LineId :=
  ({ driver with nextLine := driver.nextLine + 1 }, ⟨driver.nextLine⟩)

/-- Publishes a status. -/
def publish (driver : ChannelDriver P) (status : ChannelStatus) :
    ChannelDriver P × List (ChannelEffect P) :=
  ({ driver with status }, [.publish status])

/-- Answers the one who waits for the session, if somebody does. -/
def answer (driver : ChannelDriver P) (outcome : Except SessionError UInt32) :
    ChannelDriver P × List (ChannelEffect P) :=
  if driver.awaited then ({ driver with awaited := false }, [.answer outcome]) else (driver, [])

/-- Acts on an output of the session. -/
def handle (driver : ChannelDriver P) : Output P → ChannelDriver P × List (ChannelEffect P)
  | .connected sessionId =>
      let (driver, published) :=
        driver.publish { driver.status with sessionId, connected := true }
      let (driver, answered) := driver.answer (.ok sessionId)
      (driver, published ++ answered)
  | .delivered payload => (driver, [.deliver (.received payload)])
  | .closeStateChanged closeState =>
      let (driver, published) := driver.publish { driver.status with closeState }
      (driver, published ++ [.deliver (.closeStateChanged closeState)])
  | .rttUpdated estimate => driver.publish { driver.status with estimate := some estimate }
  | .openRebindLine sessionId lineIndex clientAck =>
      if driver.dials then
        let line : Line := ⟨⟨driver.nextLine⟩, lineIndex⟩
        ({ driver with
            session := driver.session.bindPending line
            nextLine := driver.nextLine + 1 },
          [.dial line (.rebind sessionId lineIndex clientAck)])
      else (driver, [])
  | .closed reason =>
      let (driver, published) := driver.publish { driver.status with closed := some reason }
      let (driver, answered) := driver.answer (.error (.connectFailed (.ended reason)))
      ({ driver with result := some reason },
        published ++ answered ++ [.deliver (.closed reason)])

/-- Acts on outputs in order, up to the end of the session. -/
def handleAll (driver : ChannelDriver P) :
    List (Output P) → ChannelDriver P × List (ChannelEffect P)
  | [] => (driver, [])
  | output :: outputs =>
      let (driver, effects) := driver.handle output
      if driver.isFinished then (driver, effects)
      else
        let (driver, later) := driver.handleAll outputs
        (driver, effects ++ later)

/-- Takes all outputs of the session and acts on them. -/
def drain (driver : ChannelDriver P) : ChannelDriver P × List (ChannelEffect P) :=
  handleAll { driver with session := { driver.session with outputs := [] } }
    driver.session.outputs

/-- What a report of a line means to the session. -/
def onLineEvent (session : Session P) (line : LineId) (clock : UInt32) :
    LineEvent P → Session P
  | .accepted (.create _) => session.attachCreated ⟨line, 0⟩
  | .accepted (.rebind _ lineIndex clientAck) => session.attachRebind ⟨line, lineIndex⟩ clientAck
  | .created sessionId => session.onLineCreated line sessionId
  | .rebound serverAck => session.onLineRebound line serverAck
  | .received packet => session.onPacket line packet clock
  | .closed (.unencodable _) => (session.onLineClosed line).closeImmediately .unencodable
  | .closed _ => session.onLineClosed line

/-- What a command means to the session. -/
def onCommand (session : Session P) : ChannelCommand P → Session P
  | .send payload => session.step (.send payload)
  | .close => session.close
  | .abort => session.closeImmediately .aborted

/-- Lets the session act on a pick. -/
def pick (driver : ChannelDriver P) : ChannelPick P → ChannelDriver P
  | .tick time clock => { driver with session := driver.session.update time clock }
  | .lineEvent line event clock =>
      { driver with session := onLineEvent driver.session line clock event }
  | .command command =>
      if driver.held then { driver with session := onCommand driver.session command } else driver
  | .released =>
      if driver.held then { driver with session := driver.session.close, held := false }
      else driver
  | .shutdown =>
      if driver.watchesShutdown then
        { driver with session := driver.session.close, watchesShutdown := false }
      else driver

/-- After the end all that counts is whether the application holds the channel. -/
def afterEnd (driver : ChannelDriver P) : ChannelPick P → ChannelDriver P
  | .released => { driver with held := false }
  | _ => driver

/-- Picks one thing and takes all outputs that come of it. -/
def step (driver : ChannelDriver P) (next : ChannelPick P) :
    ChannelDriver P × List (ChannelEffect P) :=
  if driver.isFinished then (driver.afterEnd next, []) else (driver.pick next).drain

/-- Picks things in order. -/
def run (driver : ChannelDriver P) : List (ChannelPick P) → ChannelDriver P × List (ChannelEffect P)
  | [] => (driver, [])
  | next :: picks =>
      let (driver, effects) := driver.step next
      let (driver, later) := driver.run picks
      (driver, effects ++ later)

/-- Takes away what the session has done to its lines. -/
def takeActions (driver : ChannelDriver P) : ChannelDriver P × List (LineAction P) :=
  ({ driver with session := { driver.session with actions := [] } }, driver.session.actions)

/-- Whether a payload may be sent: not after the end, and not if it cannot be encoded. -/
def checkSend (driver : ChannelDriver P) (codec : PacketCodec P) (payload : P) :
    Except SessionError Unit :=
  if driver.status.closed.isSome then .error .channelClosed
  else
    match codec.checkPayload payload with
    | .ok () => .ok ()
    | .error cause => .error (.codec cause)

end ChannelDriver

end ResumableSession
