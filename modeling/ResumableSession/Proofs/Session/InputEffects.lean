import ResumableSession.Proofs.Session.Resync

/-!
# What an input may do to a session

A turn is seen from outside: which bodies were pushed, which bodies of the peer
were taken in, and how the close machine moved along.  Every input makes a turn;
the checks that it passes on its way, and the reasons that a session may end
for, are stated here for all inputs at once.
-/

namespace ResumableSession

variable {P : Type}

/-- The payload of a Data packet's body. -/
def ReliableBody.payload? : ReliableBody P → Option P
  | .data payload => some payload
  | _ => none

/-- The highest ack that an input reports. -/
def Input.ack : Input P → Nat
  | .lineRebound _ serverAck => serverAck.toNat
  | .attachRebind _ clientAck => clientAck.toNat
  | .packet _ (.ack latest) _ => latest.toNat
  | .packet _ (.reliable body) _ => body.ack.toNat
  | _ => 0

namespace Session

/-- The payloads that a session takes from the application: none after the
local Fin or the end. -/
def accepts (session : Session P) : Input P → List P
  | .send payload =>
      if session.phase = .closed ∨ session.closing.finSent then [] else [payload]
  | _ => []

/-- How many ids an input makes a session give out. -/
def assignedBy (session : Session P) (input : Input P) : Nat :=
  ((session.step input).delivery.lastSendId - session.delivery.lastSendId).toNat

/-- A reliable packet passes every check: its id is old or the next one, its ack
does not end the session before its body counts, and closing has a place for it. -/
def Welcomes (session : Session P) (packet : ReliablePacket P) : Prop :=
  ∃ delivery receipt,
    session.delivery.accept packet.id = .ok (delivery, receipt) ∧
    (receipt = .accepted →
      ({ session with delivery }.removeAcked packet.ack).phase ≠ .closed ∧
      (packet.body = .fin →
        ∃ decision,
          ({ session with delivery }.removeAcked packet.ack).closing.onFin = .ok decision) ∧
      (packet.body = .finAck →
        ∃ decision,
          ({ session with delivery }.removeAcked packet.ack).closing.onFinAck = .ok decision))

/-- Every check that a session makes of an input of its peer, where it gets to
make it, is passed. -/
def Trusts (session : Session P) : Input P → Prop
  | .lineRebound line serverAck =>
      session.phase = .connected → session.pending.map (·.id) = some line →
        session.delivery.checkResync serverAck = .ok ()
  | .attachRebind line clientAck =>
      session.phase = .connected → ¬line.index < session.lastLineIndex →
        session.delivery.checkResync clientAck = .ok ()
  | .packet line packet _ =>
      session.phase ≠ .closed → session.current.map (·.id) = some line →
        packet.isOrdinary ∧ ∀ reliable, packet = .reliable reliable → session.Welcomes reliable
  | _ => True

/-- What a reason to end says about the input that led to it. -/
def Justified (before : Session P) (input : Input P) (after : Session P)
    (reason : CloseReason) : Prop :=
  input = .closeImmediately reason ∨
    match reason with
    | .graceful => after.closing.state = .closed
    | .protocolViolation | .resyncRejected => ¬before.Trusts input
    | .bookkeeping => False
    | _ => True

/-- What a session makes of the peer's next body, and what it pushes in turn. -/
inductive Hears (before after : Session P) :
    ReliableBody P → List (ReliableBody P) → Prop where
  | payload {payload : P}
      (same : CloseMachine.Recorded [] before.closing after.closing)
      (delivered : deliveredIn after.outputs = deliveredIn before.outputs ++ [payload]) :
      Hears before after (.data payload) []
  | fin {noted machine : CloseMachine} {actions : List CloseAction}
      (same : CloseMachine.Recorded [] before.closing noted)
      (decided : noted.onFin = .ok (machine, actions))
      (recorded : CloseMachine.Recorded actions machine after.closing)
      (delivered : deliveredIn after.outputs = deliveredIn before.outputs) :
      Hears before after .fin (CloseAction.bodies actions)
  | finAck {noted machine : CloseMachine} {actions : List CloseAction}
      (same : CloseMachine.Recorded [] before.closing noted)
      (decided : noted.onFinAck = .ok (machine, actions))
      (recorded : CloseMachine.Recorded [] machine after.closing)
      (isOver : machine.state = .closed → after.phase = .closed)
      (delivered : deliveredIn after.outputs = deliveredIn before.outputs) :
      Hears before after .finAck []
  | lingered {body : ReliableBody P}
      (ended : CloseMachine.Lingered before.closing after.closing)
      (isOver : after.phase = .closed)
      (delivered : deliveredIn after.outputs = deliveredIn before.outputs) :
      Hears before after body []
  | violated {body : ReliableBody P} {noted : CloseMachine}
      (same : CloseMachine.Recorded [] before.closing noted)
      (unexpected : body = .fin ∧ (∃ cause, noted.onFin = .error cause) ∨
        body = .finAck ∧ ∃ cause, noted.onFinAck = .error cause)
      (unchanged : after.closing = noted)
      (isOver : after.phase = .closed)
      (delivered : deliveredIn after.outputs = deliveredIn before.outputs) :
      Hears before after body []

/-- A turn of a session: the bodies that it pushed and the ones that it took in. -/
inductive Turn (before after : Session P) :
    List (ReliableBody P) → List (ReliableBody P) → Prop where
  | quiet (deaf : Deaf before after)
      (same : CloseMachine.Recorded [] before.closing after.closing) :
      Turn before after [] []
  | expired (deaf : Deaf before after)
      (ended : CloseMachine.Lingered before.closing after.closing)
      (isOver : after.phase = .closed) :
      Turn before after [] []
  | sent {payload : P} (deaf : Deaf before after) (running : before.phase ≠ .closed)
      (unfinished : before.closing.finSent = false) (same : after.closing = before.closing) :
      Turn before after [.data payload] []
  | closes (deaf : Deaf before after) (connected : before.phase = .connected)
      (recorded : CloseMachine.Recorded before.closing.localClose.2
        before.closing.localClose.1 after.closing) :
      Turn before after (CloseAction.bodies before.closing.localClose.2) []
  | hears {body : ReliableBody P} {fresh : List (ReliableBody P)}
      (bound : before.current.isSome)
      (next : after.delivery.lastRecvId.toNat = before.delivery.lastRecvId.toNat + 1)
      (hears : Hears before after body fresh) :
      Turn before after fresh [body]

/-- The packet that an input brings carries this body under the next id. -/
def Brings (session : Session P) (input : Input P) (body : ReliableBody P) : Prop :=
  ∃ line packet clock, input = .packet line (.reliable packet) clock ∧ packet.body = body ∧
    packet.id.toNat = session.delivery.lastRecvId.toNat + 1

/-- An input moves a session on: what it pushes and takes in, and that it ends
for no other reason than the input gives. -/
structure Moves (input : Input P) (pushed fresh taken : List (ReliableBody P))
    (before after : Session P) : Prop where
  advances : ∃ reasons, Advances input.ack reasons pushed (pushed ++ fresh) before after ∧
    ∀ reason ∈ reasons, Justified before input after reason
  turn : Turn before after fresh taken
  brought : ∀ body ∈ taken, before.Brings input body
  payloads : fresh.filterMap ReliableBody.payload? = before.accepts input

end Session

end ResumableSession
