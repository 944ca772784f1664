/-!
# Closing a session

Both directions of a session are closed by a Fin and its FinAck.  The machine
only decides: each input gives the actions to take, in order, and whoever takes
them tells it the ids that its Fin and FinAck were sent with.
-/

namespace ResumableSession

/-- How far a session has come in closing. -/
inductive CloseState where
  /-- Open in both directions. -/
  | active
  /-- The local Fin was sent and is not answered. -/
  | finWait1
  /-- The local Fin was answered and the peer's has not come. -/
  | finWait2
  /-- Both sides sent a Fin at the same time. -/
  | closing
  /-- Both directions are closed; lingering for the last ack. -/
  | timeWait
  /-- The peer's Fin came first and the local one is not sent yet. -/
  | closeWait
  /-- The local Fin was sent after the peer's and is not answered. -/
  | lastAck
  | closed
deriving DecidableEq, Repr

/-- The name of a state in texts. -/
def CloseState.name : CloseState → String
  | .active => "None"
  | .finWait1 => "FinWait1"
  | .finWait2 => "FinWait2"
  | .closing => "Closing"
  | .timeWait => "TimeWait"
  | .closeWait => "CloseWait"
  | .lastAck => "LastAck"
  | .closed => "Closed"

/-- What the session has to do next. -/
inductive CloseAction where
  /-- Send a Fin and record its id. -/
  | sendFin
  /-- Send a FinAck and record its id. -/
  | sendFinAck
  /-- Send an ack on its own. -/
  | sendAck
  /-- The machine is in this state now. -/
  | enter (state : CloseState)
deriving DecidableEq, Repr

/-- A Fin or a FinAck that the state has no place for. -/
inductive UnexpectedClose where
  | fin (state : CloseState)
  | finAck (state : CloseState)
deriving DecidableEq, Repr

/-- The wording of the fault. -/
def UnexpectedClose.message : UnexpectedClose → String
  | .fin state => s!"fin in state {state.name}"
  | .finAck state => s!"fin-ack in state {state.name}"

/-- The state of closing, with the ids that acks are compared with. -/
structure CloseMachine where
  /-- How far closing has come. -/
  state : CloseState := .active
  /-- The id of the local Fin, once sent. -/
  finId : Option UInt32 := none
  /-- The id of the local FinAck, once sent. -/
  finAckId : Option UInt32 := none
  /-- Whether the peer has acknowledged the local FinAck. -/
  peerFinAcked : Bool := false
deriving DecidableEq, Repr

namespace CloseMachine

/-- Whether the local Fin was sent, after which no data may follow. -/
def finSent (machine : CloseMachine) : Bool := machine.finId.isSome

/-- The local Fin was sent with this id. -/
def recordFin (machine : CloseMachine) (id : UInt32) : CloseMachine :=
  { machine with finId := some id }

/-- The local FinAck was sent with this id. -/
def recordFinAck (machine : CloseMachine) (id : UInt32) : CloseMachine :=
  { machine with finAckId := some id }

/-- The local side wants to close.  Wanting it again changes nothing. -/
def localClose (machine : CloseMachine) : CloseMachine × List CloseAction :=
  match machine.state with
  | .active => ({ machine with state := .finWait1 }, [.sendFin, .enter .finWait1])
  | .closeWait => ({ machine with state := .lastAck }, [.sendFin, .enter .lastAck])
  | _ => (machine, [])

/-- A FinAck is owed unless one was sent before. -/
def owedFinAck (machine : CloseMachine) : List CloseAction :=
  if machine.finAckId.isNone then [.sendFinAck] else []

/-- The peer's Fin came. -/
def onFin (machine : CloseMachine) :
    Except UnexpectedClose (CloseMachine × List CloseAction) :=
  match machine.state with
  | .active =>
      .ok ({ machine with state := .lastAck },
        machine.owedFinAck ++ [.enter .closeWait, .sendFin, .enter .lastAck])
  | .finWait1 =>
      .ok ({ machine with state := .closing }, machine.owedFinAck ++ [.enter .closing])
  | .finWait2 =>
      .ok ({ machine with state := .timeWait }, machine.owedFinAck ++ [.enter .timeWait])
  | state => .error (.fin state)

/-- The peer's FinAck came. -/
def onFinAck (machine : CloseMachine) :
    Except UnexpectedClose (CloseMachine × List CloseAction) :=
  match machine.state with
  | .finWait1 => .ok ({ machine with state := .finWait2 }, [.enter .finWait2])
  | .closing =>
      let next := if machine.peerFinAcked then .closed else .timeWait
      .ok ({ machine with state := next }, [.enter next])
  | .lastAck => .ok ({ machine with state := .closed }, [.sendAck, .enter .closed])
  | state => .error (.finAck state)

/-- The peer has received everything up to `ack`. -/
def onAcked (machine : CloseMachine) (ack : UInt32) : CloseMachine × List CloseAction :=
  let crossed := machine.finAckId.any fun id => decide (id ≤ ack)
  if crossed && !machine.peerFinAcked then
    if machine.state = .timeWait then
      ({ machine with peerFinAcked := true, state := .closed }, [.enter .closed])
    else ({ machine with peerFinAcked := true }, [])
  else (machine, [])

/-- The session has lingered long enough. -/
def timeWaitExpired (machine : CloseMachine) : CloseMachine × List CloseAction :=
  if machine.state = .timeWait then ({ machine with state := .closed }, [.enter .closed])
  else (machine, [])

end CloseMachine

end ResumableSession
