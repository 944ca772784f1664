import ResumableSession.Channel.Driver
import ResumableSession.Proofs.Session.Bookkeeping
import Mathlib.Logic.Function.Basic

/-!
# Two ends and the lines between them

An initiator and a responder, each run the way its driver runs it, and every line
that was ever dialed.  What an end has sent on a line is read off its actions,
which nobody takes away here; a lane counts how much of it has come through.
Lines lose, delay and end as they like: packets of one lane come in the order in
which they were sent, and all that is promised is that nothing else comes.

An end acts on one thing at a time.  A line that the initiator asks for is dialed
before anything else happens to it, under a name that no line had before.
-/

namespace ResumableSession

/-- The other end. -/
def Role.other : Role → Role
  | .initiator => .responder
  | .responder => .initiator

@[simp] theorem Role.other_other (side : Role) : side.other.other = side := by
  cases side <;> rfl

theorem Role.other_ne (side : Role) : side.other ≠ side := by
  cases side <;> simp [Role.other]

/-- One direction of a line: how many packets have come through, and, once the line
was cut, how many ever will. -/
structure Lane where
  arrived : Nat := 0
  severed : Option Nat := none

namespace Lane

/-- Whether another packet may come through. -/
def passes (lane : Lane) : Bool := lane.severed.all fun count => decide (lane.arrived < count)

/-- One more packet has come through. -/
def receive (lane : Lane) : Lane := { lane with arrived := lane.arrived + 1 }

/-- The lane is cut behind its first `count` packets, or where it was cut before. -/
def sever (lane : Lane) (count : Nat) : Lane :=
  { lane with severed := some ((lane.severed.getD count).min count) }

end Lane

/-- A line that was dialed, with the lane that leads to each end. -/
structure Connection where
  handshake : Handshake
  toInitiator : Lane := {}
  toResponder : Lane := {}

namespace Connection

variable {P : Type}

/-- The lane that leads to an end. -/
def lane (connection : Connection) : Role → Lane
  | .initiator => connection.toInitiator
  | .responder => connection.toResponder

/-- Something happens to the lane that leads to an end. -/
def onLane (connection : Connection) (side : Role) (change : Lane → Lane) : Connection :=
  match side with
  | .initiator => { connection with toInitiator := change connection.toInitiator }
  | .responder => { connection with toResponder := change connection.toResponder }

/-- What the task of a line reports when a packet comes: the first packet is the
handshake or its answer. -/
def report (connection : Connection) (side : Role) (packet : Packet P) : LineEvent P :=
  if (connection.lane side).arrived ≠ 0 then .received packet
  else
    match side with
    | .responder =>
        match Handshake.ofPacket packet with
        | .ok handshake => .accepted handshake
        | .error cause => .closed (.failed cause)
    | .initiator =>
        match connection.handshake, packet with
        | .create _, .createResponse sessionId => .created sessionId
        | .rebind .., .rebindResponse serverAck => .rebound serverAck
        | _, packet => .closed (.failed (.handshakeRejected (.unexpected packet.kind)))

end Connection

/-- What a report of a line is to a session. -/
def Input.ofReport {P : Type} (line : LineId) (clock : UInt32) : LineEvent P → Input P
  | .accepted (.create _) => .attachCreated ⟨line, 0⟩
  | .accepted (.rebind _ lineIndex clientAck) => .attachRebind ⟨line, lineIndex⟩ clientAck
  | .created sessionId => .lineCreated line sessionId
  | .rebound serverAck => .lineRebound line serverAck
  | .received content => .packet line content clock
  | .closed _ => .lineClosed line

/-- Whether an input is something that a line reports. -/
def Input.isReport {P : Type} : Input P → Bool
  | .lineCreated .. | .lineRebound .. | .attachCreated _ | .attachRebind .. | .lineClosed _
  | .packet .. => true
  | _ => false

theorem Input.isReport_ofReport {P : Type} (line : LineId) (clock : UInt32)
    (event : LineEvent P) : (Input.ofReport line clock event).isReport := by
  cases event with
  | accepted handshake => cases handshake <;> rfl
  | _ => rfl

/-- One end of the exchange: its session, with all that it ever put out and did to its
lines, the payloads that it took from its application, and how many ids it gave out. -/
structure Party (P : Type) where
  session : Session P
  accepted : List P := []
  assigned : Nat := 0

/-- Both ends, and the lines that were dialed, oldest first; the name of a line is its
place in the list. -/
structure Exchange (P : Type) where
  party : Role → Party P
  lines : List Connection

namespace Exchange

variable {P : Type}

/-- The session of an end. -/
def session (exchange : Exchange P) (side : Role) : Session P := (exchange.party side).session

/-- An initiator that dials its creating line, and the responder that waits for it. -/
def start (settings : SessionSettings) (limits : RebindLimits) (token : String)
    (sessionId : UInt32) (settings' : SessionSettings) : Exchange P where
  party
    | .initiator => { session := .initiator settings limits ChannelDriver.creatingLine }
    | .responder => { session := .responder sessionId settings' }
  lines := [{ handshake := .create token }]

/-- What can happen: an application sends, closes or ends its session by force, time
passes for an end, the next packet of a line comes to an end, an end is told that a
line is gone, or the lane to an end is cut behind its first `count` packets. -/
inductive Event (P : Type) where
  | send (side : Role) (payload : P)
  | close (side : Role)
  | abort (side : Role) (reason : CloseReason)
  | tick (side : Role) (time : Duration) (clock : UInt32)
  | arrive (side : Role) (line : Nat) (clock : UInt32)
  | lost (side : Role) (line : Nat)
  | sever (side : Role) (line count : Nat)

/-- The packets that were sent on a line towards an end. -/
def sentTo (exchange : Exchange P) (side : Role) (line : Nat) (connection : Connection) :
    List (Packet P) :=
  match side with
  | .initiator => packetsOn ⟨line⟩ (exchange.session .responder).actions
  | .responder =>
      connection.handshake.toPacket :: packetsOn ⟨line⟩ (exchange.session .initiator).actions

/-- The packet of a line that comes next to an end, if one is left to come. -/
def next? (exchange : Exchange P) (side : Role) (line : Nat) :
    Option (Connection × Packet P) :=
  exchange.lines[line]?.bind fun connection =>
    if (connection.lane side).passes then
      (exchange.sentTo side line connection)[(connection.lane side).arrived]?.map
        (connection, ·)
    else none

/-- What the next packet of a line is to the session at an end. -/
def arrival? (exchange : Exchange P) (side : Role) (line : Nat) (clock : UInt32) :
    Option (Input P) :=
  (exchange.next? side line).map fun (connection, packet) =>
    .ofReport ⟨line⟩ clock (connection.report side packet)

/-- Something happens to the lane of a line that leads to an end. -/
def onLane (exchange : Exchange P) (side : Role) (line : Nat) (change : Lane → Lane) :
    Exchange P :=
  { exchange with lines := exchange.lines.modify line (·.onLane side change) }

/-- An end is given an input. -/
def give (exchange : Exchange P) (side : Role) (input : Input P) : Exchange P :=
  { exchange with
    party := Function.update exchange.party side
      { session := (exchange.session side).step input
        accepted := (exchange.party side).accepted ++ (exchange.session side).accepts input
        assigned := (exchange.party side).assigned + (exchange.session side).assignedBy input } }

/-- The initiator dials a line, under a new name. -/
def dial (exchange : Exchange P) (handshake : Handshake) : Exchange P :=
  let dialed := exchange.give .initiator
    (.bindPending ⟨⟨exchange.lines.length⟩, handshake.lineIndex⟩)
  { dialed with lines := exchange.lines ++ [{ handshake }] }

/-- An end is given an input; lines that the initiator asks for are dialed at once. -/
def feed (exchange : Exchange P) (side : Role) (input : Input P) : Exchange P :=
  let given := exchange.give side input
  match side with
  | .responder => given
  | .initiator =>
      (dialedIn ((given.session .initiator).outputs.drop
        (exchange.session .initiator).outputs.length)).foldl dial given

/-- What an event makes of the exchange; nothing can come of a lane that is empty
or cut. -/
def step? (exchange : Exchange P) : Event P → Option (Exchange P)
  | .send side payload => some (exchange.feed side (.send payload))
  | .close side => some (exchange.feed side .close)
  | .abort side reason => some (exchange.feed side (.closeImmediately reason))
  | .tick side time clock => some (exchange.feed side (.update time clock))
  | .arrive side line clock =>
      (exchange.arrival? side line clock).map
        ((exchange.onLane side line Lane.receive).feed side)
  | .lost side line => some (exchange.feed side (.lineClosed ⟨line⟩))
  | .sever side line count => some (exchange.onLane side line (·.sever count))

/-- The exchanges that events may lead to. -/
inductive Reachable (start : Exchange P) : Exchange P → Prop where
  | start : Reachable start start
  | step {exchange exchange' : Exchange P} {event : Event P}
      (reachable : Reachable start exchange)
      (stepped : exchange.step? event = some exchange') : Reachable start exchange'

/-- What a run of events makes of the exchange. -/
def run? (exchange : Exchange P) (events : List (Event P)) : Option (Exchange P) :=
  events.foldlM step? exchange

theorem Reachable.run {start exchange exchange' : Exchange P} (events : List (Event P)) :
    Reachable start exchange → exchange.run? events = some exchange' →
      Reachable start exchange' := by
  induction events generalizing exchange with
  | nil =>
      intro reachable ran
      simp only [run?, List.foldlM_nil, Option.pure_def, Option.some.injEq] at ran
      exact ran ▸ reachable
  | cons event events induction =>
      intro reachable ran
      simp only [run?, List.foldlM_cons, Option.bind_eq_bind, Option.bind_eq_some_iff] at ran
      obtain ⟨next, stepped, rest⟩ := ran
      exact induction (reachable.step stepped) rest

/-- Neither end has given out as many ids as there are. -/
def IdsFit (exchange : Exchange P) : Prop :=
  ∀ side, (exchange.party side).assigned < UInt32.size

end Exchange

/-- A session is given what the driver gives it for the report of a line. -/
theorem Session.step_ofReport {P : Type} (session : Session P) (line : LineId)
    (clock : UInt32) (event : LineEvent P)
    (encodable : ∀ cause, event ≠ .closed (.unencodable cause)) :
    session.step (.ofReport line clock event) =
      ChannelDriver.onLineEvent session line clock event := by
  cases event with
  | accepted handshake => cases handshake <;> rfl
  | closed reason =>
      cases reason with
      | unencodable cause => exact (encodable cause rfl).elim
      | _ => rfl
  | _ => rfl

/-- The first packet that comes back is reported the way the task of a dialed
line reports it. -/
theorem Connection.report_answer {P : Type} (connection : Connection) (task : LineTask P)
    (dialed : task.handshake = connection.handshake)
    (first : connection.toInitiator.arrived = 0) (packet : Packet P) :
    (task.onAnswer packet).2 = [.report (connection.report .initiator packet)] := by
  unfold report LineTask.onAnswer
  rw [if_neg (by simpa [lane] using first), dialed]
  cases connection.handshake <;> cases packet <;> rfl

end ResumableSession
