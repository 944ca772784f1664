import ResumableSession.Line.Handshake
import ResumableSession.Proofs.Session.SendBuffer
import ResumableSession.Session.Core

/-!
# What the parts of a session's step do

Each part of a step is written as one change of the session's fields.  The
lemmas here are equations; what they mean for sending, closing and lines is
proved from them.
-/

namespace ResumableSession

variable {P : Type}

/-- The packets that were sent on a line, oldest first. -/
def packetsOn (line : LineId) (actions : List (LineAction P)) : List (Packet P) :=
  actions.filterMap fun
    | .send target packet => if target = line then some packet else none
    | .close .. => none

/-- The payloads that were delivered, oldest first. -/
def deliveredIn (outputs : List (Output P)) : List P :=
  outputs.filterMap fun
    | .delivered payload => some payload
    | _ => none

/-- The lines that were asked for, by their handshakes, oldest first. -/
def dialedIn (outputs : List (Output P)) : List Handshake :=
  outputs.filterMap fun
    | .openRebindLine sessionId lineIndex clientAck => some (.rebind sessionId lineIndex clientAck)
    | _ => none

@[simp] theorem packetsOn_append (line : LineId) (earlier later : List (LineAction P)) :
    packetsOn line (earlier ++ later) = packetsOn line earlier ++ packetsOn line later :=
  List.filterMap_append

@[simp] theorem packetsOn_nil (line : LineId) :
    packetsOn line ([] : List (LineAction P)) = [] := rfl

@[simp] theorem packetsOn_close (line target : LineId) (graceful : Bool)
    (actions : List (LineAction P)) :
    packetsOn line (.close target graceful :: actions) = packetsOn line actions := rfl

theorem packetsOn_send (line target : LineId) (packet : Packet P)
    (actions : List (LineAction P)) :
    packetsOn line (.send target packet :: actions) =
      (if target = line then [packet] else []) ++ packetsOn line actions := by
  unfold packetsOn
  by_cases same : target = line <;> simp [same]

@[simp] theorem packetsOn_map_send (line target : LineId) (packets : List (Packet P)) :
    packetsOn line (packets.map (.send target)) = if target = line then packets else [] := by
  induction packets with
  | nil => simp
  | cons packet packets induction =>
      rw [List.map_cons, packetsOn_send, induction]
      by_cases same : target = line <;> simp [same]

@[simp] theorem packetsOn_closes (line : LineId) (lines : List Line) (graceful : Bool) :
    packetsOn (P := P) line (lines.map fun closed => .close closed.id graceful) = [] := by
  induction lines with
  | nil => rfl
  | cons head tail induction => simpa using induction

@[simp] theorem deliveredIn_append (earlier later : List (Output P)) :
    deliveredIn (earlier ++ later) = deliveredIn earlier ++ deliveredIn later :=
  List.filterMap_append

@[simp] theorem dialedIn_append (earlier later : List (Output P)) :
    dialedIn (earlier ++ later) = dialedIn earlier ++ dialedIn later :=
  List.filterMap_append

namespace Session

variable (session : Session P)

theorem discard_eq (line : Option Line) :
    session.discard line =
      { session with
        actions := session.actions ++ line.toList.map fun closed => .close closed.id false } := by
  cases line <;> simp [discard, act]

theorem sendOnCurrent_eq (packet : Packet P) :
    session.sendOnCurrent packet =
      { session with
        actions := session.actions ++
          session.current.toList.map fun line => .send line.id packet } := by
  rcases session with ⟨_, _, _, current, _, _, _, _, _, _, _, _⟩
  cases current <;> simp [sendOnCurrent, act]

theorem terminate_eq (reason : CloseReason) :
    session.terminate reason =
      { session with
        phase := .closed
        current := none
        pending := none
        liveness := session.liveness.stopAll
        keepalive := session.keepalive.clear
        outputs := session.outputs ++ [.closed reason]
        actions := session.actions ++
          (session.current.toList.map fun closed =>
            .close closed.id (reason == CloseReason.graceful)) ++
          session.pending.toList.map fun closed => .close closed.id false } := by
  rcases session with ⟨_, _, _, current, _, _, _, _, _, _, _, _⟩
  cases current <;> simp [terminate, discard_eq, act, emit]

theorem foldl_sendOnCurrent (packets : List (ReliablePacket P)) :
    ∀ session : Session P,
      packets.foldl (fun session packet => session.sendOnCurrent (.reliable packet)) session =
        { session with
          actions := session.actions ++
            session.current.toList.flatMap fun line =>
              (packets.map Packet.reliable).map (.send line.id) } := by
  induction packets with
  | nil =>
      rintro ⟨_, _, _, current, _, _, _, _, _, _, _, _⟩
      cases current <;> simp
  | cons packet packets induction =>
      intro session
      rw [List.foldl_cons, induction, sendOnCurrent_eq]
      cases session.current <;> simp

theorem flush_eq (inOrder : session.delivery.InOrder) :
    session.flush =
      { session with
        delivery := if session.current.isSome then session.delivery.handed else session.delivery
        actions := session.actions ++
          session.current.toList.flatMap fun line =>
            (session.delivery.unhanded.map Packet.reliable).map (.send line.id) } := by
  unfold flush
  rw [inOrder.flush_eq]
  rcases session with ⟨_, _, _, current, _, _, _, _, _, _, _, _⟩
  cases current with
  | none => simp
  | some line => simp [foldl_sendOnCurrent]

theorem sendAck_eq :
    session.sendAck =
      { session with
        delivery :=
          if session.current.isSome then
            session.delivery.markAckSent session.delivery.lastRecvId
          else session.delivery
        actions := session.actions ++
          session.current.toList.map fun line =>
            .send line.id (.ack session.delivery.lastRecvId) } := by
  rcases session with ⟨_, _, _, current, _, _, _, _, _, _, _, _⟩
  cases current <;> simp [sendAck, sendOnCurrent_eq]

theorem sendPing_eq (clock : UInt32) :
    session.sendPing clock =
      { session with
        keepalive :=
          if session.current.isSome then session.keepalive.recordPing clock
          else session.keepalive
        actions := session.actions ++
          session.current.toList.map fun line => .send line.id (.pingRequest clock) } := by
  rcases session with ⟨_, _, _, current, _, _, _, _, _, _, _, _⟩
  cases current <;> simp [sendPing, sendOnCurrent_eq]

theorem bindCurrent_eq (line : Line) :
    session.bindCurrent line =
      { session with
        current := some line
        keepalive := session.keepalive.clear
        liveness := session.liveness.lineBound
        actions := session.actions ++
          session.current.toList.map fun closed => .close closed.id false } := by
  simp [bindCurrent, discard_eq]

theorem dropLine_eq :
    session.dropLine =
      if session.current.isNone then session
      else
        { session with
          current := none
          keepalive := session.keepalive.clear
          liveness := session.liveness.lineLost
          actions := session.actions ++
            session.current.toList.map fun closed => .close closed.id false } := by
  simp [dropLine, lineLost, discard_eq]

theorem startRebind_eq :
    session.startRebind =
      { session with
        pending := none
        lastLineIndex := session.lastLineIndex + 1
        outputs := session.outputs ++
          [.openRebindLine session.sessionId (session.lastLineIndex + 1)
            session.delivery.lastRecvId]
        actions := session.actions ++
          session.pending.toList.map fun closed => .close closed.id false } := by
  simp [startRebind, discard_eq, emit]

end Session

end ResumableSession
