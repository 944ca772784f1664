import ResumableSession.Session.Delivery
import ResumableSession.Session.Keepalive
import ResumableSession.Session.Liveness

/-!
# Sessions

The state of one end of a session: the bound and the pending line, reliable
delivery, closing and the timers.  An operation changes the state and nothing
else: what it wants from its lines is in `actions`, what its owner must act on
is in `outputs`, both oldest first, until the owner takes them away.  Time
passes only by `update`, and the clock is an argument.

The connecting side opens lines and rebinds them after a loss; the accepting
side waits for the peer to come back.
-/

namespace ResumableSession

/-- The identity of one line; no two lines share it. -/
structure LineId where
  /-- The number that tells lines apart. -/
  number : Nat
deriving DecidableEq, Repr

/-- What a session knows of a line: who it is, and the index its handshake carries. -/
structure Line where
  id : LineId
  /-- The connecting side's count of lines; zero for the creating line. -/
  index : UInt32
deriving DecidableEq, Repr

/-- The two ends of a session. -/
inductive Role where
  /-- Connects, creates the session and rebinds lost lines. -/
  | initiator
  /-- Accepts lines and waits for rebinds. -/
  | responder
deriving DecidableEq, Repr

/-- The stages in the life of a session. -/
inductive Phase where
  /-- Waiting for the create handshake. -/
  | connecting
  /-- The session exists; lines come and go. -/
  | connected
  | closed
deriving DecidableEq, Repr

/-- What the owner of a session must act on. -/
inductive Output (P : Type) where
  /-- The session exists, under this id. -/
  | connected (sessionId : UInt32)
  /-- The peer's next payload. -/
  | delivered (payload : P)
  /-- Closing has moved on. -/
  | closeStateChanged (state : CloseState)
  /-- A probe came back; this is the new estimate. -/
  | rttUpdated (estimate : Duration)
  /-- A line with this handshake is wanted, for `bindPending`. -/
  | openRebindLine (sessionId lineIndex clientAck : UInt32)
  /-- The session has ended; nothing follows. -/
  | closed (reason : CloseReason)
deriving DecidableEq, Repr

/-- What a session does to a line. -/
inductive LineAction (P : Type) where
  /-- Queues a packet on a line. -/
  | send (line : LineId) (packet : Packet P)
  /-- Starts to close a line; a graceful close sends what is queued first. -/
  | close (line : LineId) (graceful : Bool)
deriving DecidableEq, Repr

/-- The state of one end of a session. -/
structure Session (P : Type) where
  /-- Which end this is. -/
  role : Role
  /-- The stage of life. -/
  phase : Phase := .connecting
  /-- The id of the session; zero until it is created. -/
  sessionId : UInt32 := 0
  /-- The bound line. -/
  current : Option Line := none
  /-- The line that is still shaking hands. -/
  pending : Option Line := none
  /-- The index of the line opened or attached last. -/
  lastLineIndex : UInt32 := 0
  /-- Reliable delivery. -/
  delivery : Delivery P := {}
  closing : CloseMachine := {}
  liveness : Liveness
  keepalive : Keepalive := {}
  /-- What the owner has to act on, oldest first. -/
  outputs : List (Output P) := []
  /-- What was done to lines, oldest first. -/
  actions : List (LineAction P) := []
deriving DecidableEq, Repr

namespace Session

variable {P : Type}

/-- The connecting side, whose creating line is on its way. -/
def initiator (settings : SessionSettings) (limits : RebindLimits) (creating : Line) :
    Session P where
  role := .initiator
  liveness := { settings, rebindLimits := some limits }
  lastLineIndex := creating.index
  pending := some creating

/-- The accepting side of the session with this id. -/
def responder (sessionId : UInt32) (settings : SessionSettings) : Session P where
  role := .responder
  sessionId
  liveness := { settings }

/-- Queues an output. -/
def emit (session : Session P) (output : Output P) : Session P :=
  { session with outputs := session.outputs ++ [output] }

/-- Does something to a line. -/
def act (session : Session P) (action : LineAction P) : Session P :=
  { session with actions := session.actions ++ [action] }

/-- Sends a packet on the bound line; without one it is lost. -/
def sendOnCurrent (session : Session P) (packet : Packet P) : Session P :=
  match session.current with
  | some line => session.act (.send line.id packet)
  | none => session

/-- Closes a line at once, if there is one. -/
def discard (session : Session P) (line : Option Line) : Session P :=
  match line with
  | some line => session.act (.close line.id false)
  | none => session

/-- Ends the session: the bound line is closed, gracefully only at a graceful
end, and the pending line at once. -/
def terminate (session : Session P) (reason : CloseReason) : Session P :=
  let closedCurrent :=
    match session.current with
    | some line => session.act (.close line.id (reason == CloseReason.graceful))
    | none => session
  let closedLines := closedCurrent.discard session.pending
  { closedLines with
    phase := .closed
    current := none
    pending := none
    liveness := session.liveness.stopAll
    keepalive := session.keepalive.clear
  }.emit (.closed reason)

/-- Hands the bound line what it has not been handed yet. -/
def flush (session : Session P) : Session P :=
  if session.current.isNone then session
  else
    match session.delivery.flush with
    | .ok (delivery, packets) =>
        packets.foldl (fun session packet => session.sendOnCurrent (.reliable packet))
          { session with delivery }
    | .error _ => session.terminate .bookkeeping

/-- Sends a reliable packet, now or once a line is bound, and gives its id. -/
def pushReliable (session : Session P) (body : ReliableBody P) : Session P × UInt32 :=
  let (delivery, id) := session.delivery.push body
  (flush { session with delivery }, id)

/-- Sends an ack on its own, if a line is bound. -/
def sendAck (session : Session P) : Session P :=
  if session.current.isNone then session
  else
    let ack := session.delivery.lastRecvId
    let sent := session.sendOnCurrent (.ack ack)
    { sent with delivery := session.delivery.markAckSent ack }

/-- Sends a probe with the clock's reading, if a line is bound. -/
def sendPing (session : Session P) (clock : UInt32) : Session P :=
  if session.current.isNone then session
  else
    { session with keepalive := session.keepalive.recordPing clock }.sendOnCurrent
      (.pingRequest clock)

/-- Takes one action of the close machine.  After the end there is nothing to do. -/
def applyAction (session : Session P) (action : CloseAction) : Session P :=
  if session.phase = .closed then session
  else
    match action with
    | .sendFin =>
        let (session, id) := session.pushReliable .fin
        { session with closing := session.closing.recordFin id }
    | .sendFinAck =>
        let (session, id) := session.pushReliable .finAck
        { session with closing := session.closing.recordFinAck id }
    | .sendAck => session.sendAck
    | .enter state =>
        let session := session.emit (.closeStateChanged state)
        match state with
        | .timeWait => { session with liveness := session.liveness.timeWaitEntered }
        | .closed => session.terminate .graceful
        | _ => session

/-- Moves the close machine and takes its actions in order. -/
def applyClose (session : Session P) (decision : CloseMachine × List CloseAction) :
    Session P :=
  decision.2.foldl applyAction { session with closing := decision.1 }

/-- The peer has everything up to `ack`.  The close machine is told if that was news. -/
def removeAcked (session : Session P) (ack : UInt32) : Session P :=
  let (delivery, removed) := session.delivery.removeAcked ack
  let session := { session with delivery }
  if removed = 0 then session else session.applyClose (session.closing.onAcked ack)

/-- Brings the bound line up to date, whose peer has everything up to `ack`. -/
def resync (session : Session P) (ack : UInt32) : Session P :=
  let session := session.removeAcked ack
  if session.phase = .closed then session
  else flush { session with delivery := session.delivery.rewindLine ack }

/-- Binds a line in place of the bound one, if any. -/
def bindCurrent (session : Session P) (line : Line) : Session P :=
  { session.discard session.current with
    current := some line
    keepalive := session.keepalive.clear
    liveness := session.liveness.lineBound }

/-- The session has lost its line. -/
def lineLost (session : Session P) : Session P :=
  { session with
    current := none
    keepalive := session.keepalive.clear
    liveness := session.liveness.lineLost }

/-- Closes the bound line, if any, and does without it. -/
def dropLine (session : Session P) : Session P :=
  if session.current.isNone then session
  else (session.discard session.current).lineLost

/-- Starts an attempt to rebind: the pending line is given up, and one with the
next index is asked for. -/
def startRebind (session : Session P) : Session P :=
  let index := session.lastLineIndex + 1
  { session.discard session.pending with
    pending := none
    lastLineIndex := index
  }.emit (.openRebindLine session.sessionId index session.delivery.lastRecvId)

/-! ## The application -/

/-- Queues a payload for the peer.  After the local Fin it is dropped. -/
def send (session : Session P) (payload : P) : Except SessionError (Session P) :=
  if session.phase = .closed then .error .channelClosed
  else if session.closing.finSent then .ok session
  else .ok (session.pushReliable (.data payload)).1

/-- Starts the close handshake; before the session exists it just ends. -/
def close (session : Session P) : Session P :=
  match session.phase with
  | .closed => session
  | .connecting => session.terminate .aborted
  | .connected => session.applyClose session.closing.localClose

/-- Ends the session without the close handshake. -/
def closeImmediately (session : Session P) (reason : CloseReason) : Session P :=
  if session.phase = .closed then session else session.terminate reason

/-- Acts on something that a tick found due. -/
def onDue (clock : UInt32) (session : Session P) (event : LivenessEvent) : Session P :=
  if session.phase = .closed then session
  else
    match event with
    | .offlineExpired => session.terminate .offlineTimeout
    | .rebindDue => session.startRebind
    | .sendPing => session.sendPing clock
    | .aliveWaitExpired => session.dropLine
    | .timeWaitExpired => session.applyClose session.closing.timeWaitExpired

/-- Lets `time` pass, acts on what is due, and tells the peer what was received
if it does not know. -/
def update (session : Session P) (time : Duration) (clock : UInt32) : Session P :=
  if session.phase = .closed then session
  else
    let (liveness, due) := session.liveness.tick time
    let session := due.foldl (onDue clock) { session with liveness }
    if session.phase ≠ .closed ∧ session.delivery.ackPending then session.sendAck else session

/-! ## Lines -/

/-- Takes a freshly dialed line as the pending one. -/
def bindPending (session : Session P) (line : Line) : Session P :=
  if session.phase = .closed then session.discard (some line)
  else { session.discard session.pending with pending := some line }

/-- The creating line was answered. -/
def onLineCreated (session : Session P) (line : LineId) (sessionId : UInt32) : Session P :=
  match session.pending with
  | none => session
  | some pending =>
      if pending.id ≠ line then session
      else if session.phase ≠ .connecting then
        { session with pending := none }.discard (some pending)
      else
        let bound := { session with pending := none, sessionId }.bindCurrent pending
        flush ({ bound with phase := .connected }.emit (.connected sessionId))

/-- A rebinding line was answered; the server has everything up to `serverAck`. -/
def onLineRebound (session : Session P) (line : LineId) (serverAck : UInt32) : Session P :=
  match session.pending with
  | none => session
  | some pending =>
      if pending.id ≠ line then session
      else
        let session := { session with pending := none }
        if session.phase ≠ .connected then session.discard (some pending)
        else
          match session.delivery.checkResync serverAck with
          | .error _ => (session.discard (some pending)).terminate .resyncRejected
          | .ok () => (session.bindCurrent pending).resync serverAck

/-- The line that creates the session was accepted. -/
def attachCreated (session : Session P) (line : Line) : Session P :=
  if session.phase ≠ .connecting then session.discard (some line)
  else
    let answered := session.act (.send line.id (.createResponse session.sessionId))
    let bound := { answered with lastLineIndex := line.index }.bindCurrent line
    flush ({ bound with phase := .connected }.emit (.connected session.sessionId))

/-- A line that rebinds the session was accepted; the client has everything up
to `clientAck`.  A line with a lower index than the last one is out of date. -/
def attachRebind (session : Session P) (line : Line) (clientAck : UInt32) : Session P :=
  if session.phase ≠ .connected then session.discard (some line)
  else if line.index < session.lastLineIndex then session.discard (some line)
  else
    match session.delivery.checkResync clientAck with
    | .error _ => (session.discard (some line)).terminate .resyncRejected
    | .ok () =>
        let answered := session.act (.send line.id (.rebindResponse session.delivery.lastRecvId))
        let bound := { answered with lastLineIndex := line.index }.bindCurrent line
        bound.resync clientAck

/-- A line is gone. -/
def onLineClosed (session : Session P) (line : LineId) : Session P :=
  if session.pending.map (·.id) = some line then
    let session := { session with pending := none }
    match session.phase with
    | .connecting => session.terminate .connectFailed
    | .connected => { session with liveness := session.liveness.rebindFailed }
    | .closed => session
  else if session.current.map (·.id) = some line then
    if session.phase = .closed then { session with current := none } else session.lineLost
  else session

/-- A reliable packet came on the bound line. -/
def onReliable (session : Session P) (packet : ReliablePacket P) : Session P :=
  match session.delivery.accept packet.id with
  | .error _ => session.dropLine
  | .ok (_, .duplicate) => session
  | .ok (delivery, .accepted) =>
      let session := { session with delivery }.removeAcked packet.ack
      if session.phase = .closed then session
      else
        match packet.body with
        | .data payload => session.emit (.delivered payload)
        | .fin =>
            match session.closing.onFin with
            | .ok decision => session.applyClose decision
            | .error _ => session.terminate .protocolViolation
        | .finAck =>
            match session.closing.onFinAck with
            | .ok decision => session.applyClose decision
            | .error _ => session.terminate .protocolViolation

/-- A packet came on a line.  Only the bound line counts. -/
def onPacket (session : Session P) (line : LineId) (packet : Packet P) (clock : UInt32) :
    Session P :=
  if session.phase = .closed ∨ session.current.map (·.id) ≠ some line then session
  else
    match packet with
    | .reliable packet => session.onReliable packet
    | .ack ack => session.removeAcked ack
    | .pingRequest ticks => session.sendOnCurrent (.pingResponse ticks)
    | .pingResponse ticks =>
        if session.liveness.awaitingPong then
          match session.keepalive.processPong ticks clock with
          | (_, none) => session
          | (keepalive, some estimate) =>
              { session with
                keepalive
                liveness := session.liveness.aliveConfirmed
              }.emit (.rttUpdated estimate)
        else session
    | _ => session.dropLine

end Session

/-- Everything that can happen to a session. -/
inductive Input (P : Type) where
  /-- The application sends a payload. -/
  | send (payload : P)
  /-- The application closes. -/
  | close
  /-- The session is ended without a handshake. -/
  | closeImmediately (reason : CloseReason)
  /-- Time passes. -/
  | update (time : Duration) (clock : UInt32)
  /-- A line was dialed for the session. -/
  | bindPending (line : Line)
  /-- A creating line was answered. -/
  | lineCreated (line : LineId) (sessionId : UInt32)
  /-- A rebinding line was answered. -/
  | lineRebound (line : LineId) (serverAck : UInt32)
  /-- A creating line was accepted. -/
  | attachCreated (line : Line)
  /-- A rebinding line was accepted. -/
  | attachRebind (line : Line) (clientAck : UInt32)
  /-- A line is gone. -/
  | lineClosed (line : LineId)
  /-- A packet came on a line. -/
  | packet (line : LineId) (packet : Packet P) (clock : UInt32)
deriving DecidableEq, Repr

namespace Session

variable {P : Type}

/-- What an input makes of a session.  A refused payload changes nothing. -/
def step (session : Session P) : Input P → Session P
  | .send payload => (session.send payload).toOption.getD session
  | .close => session.close
  | .closeImmediately reason => session.closeImmediately reason
  | .update time clock => session.update time clock
  | .bindPending line => session.bindPending line
  | .lineCreated line sessionId => session.onLineCreated line sessionId
  | .lineRebound line serverAck => session.onLineRebound line serverAck
  | .attachCreated line => session.attachCreated line
  | .attachRebind line clientAck => session.attachRebind line clientAck
  | .lineClosed line => session.onLineClosed line
  | .packet line packet clock => session.onPacket line packet clock

/-- What a sequence of inputs makes of a session. -/
def run (session : Session P) (inputs : List (Input P)) : Session P :=
  inputs.foldl step session

end Session

end ResumableSession
