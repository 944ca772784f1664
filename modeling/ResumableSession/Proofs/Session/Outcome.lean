import ResumableSession.Proofs.Session.InputEffects

/-!
# What an input comes to

An input changes nothing, or it is one of a few changes, made under conditions that are
named here.  What is to hold across every step is proved by cases of these changes,
and no proof has to take the operations apart again.
-/

namespace ResumableSession

variable {P : Type}

/-- The line that an input hands to the session. -/
def Input.offered? : Input P → Option Line
  | .bindPending line | .attachCreated line | .attachRebind line _ => some line
  | _ => none

namespace Session

/-- What the body of the next packet comes to, once its ack was taken. -/
inductive BodyOutcome (session : Session P) : ReliableBody P → Session P → Prop where
  | delivered {payload : P} :
      BodyOutcome session (.data payload) (session.emit (.delivered payload))
  | fin {machine : CloseMachine} {actions : List CloseAction}
      (decided : session.closing.onFin = .ok (machine, actions)) :
      BodyOutcome session .fin (session.applyClose (machine, actions))
  | finAck {machine : CloseMachine} {actions : List CloseAction}
      (decided : session.closing.onFinAck = .ok (machine, actions)) :
      BodyOutcome session .finAck (session.applyClose (machine, actions))
  | unexpectedFin {cause : UnexpectedClose} (refused : session.closing.onFin = .error cause) :
      BodyOutcome session .fin (session.terminate .protocolViolation)
  | unexpectedFinAck {cause : UnexpectedClose}
      (refused : session.closing.onFinAck = .error cause) :
      BodyOutcome session .finAck (session.terminate .protocolViolation)

/-- What a packet on the bound line comes to. -/
inductive PacketOutcome (session : Session P) : Packet P → Session P → Prop where
  | gap {packet : ReliablePacket P} {cause : SessionError}
      (refused : session.delivery.accept packet.id = .error cause) :
      PacketOutcome session (.reliable packet) session.dropLine
  | misplaced {packet : Packet P} (strange : packet.isOrdinary = false) :
      PacketOutcome session packet session.dropLine
  | duplicate {packet : ReliablePacket P} {delivery : Delivery P}
      (known : session.delivery.accept packet.id = .ok (delivery, .duplicate)) :
      PacketOutcome session (.reliable packet) session
  | ended {packet : ReliablePacket P} {delivery : Delivery P}
      (accepted : session.delivery.accept packet.id = .ok (delivery, .accepted))
      (isOver : (removeAcked { session with delivery } packet.ack).phase = .closed) :
      PacketOutcome session (.reliable packet) (removeAcked { session with delivery } packet.ack)
  | taken {packet : ReliablePacket P} {delivery : Delivery P} {after : Session P}
      (accepted : session.delivery.accept packet.id = .ok (delivery, .accepted))
      (open_ : (removeAcked { session with delivery } packet.ack).phase ≠ .closed)
      (body : BodyOutcome (removeAcked { session with delivery } packet.ack) packet.body after) :
      PacketOutcome session (.reliable packet) after
  | acked {ack : UInt32} : PacketOutcome session (.ack ack) (session.removeAcked ack)
  | echoed {ticks : UInt32} :
      PacketOutcome session (.pingRequest ticks) (session.sendOnCurrent (.pingResponse ticks))
  | measured {ticks : UInt32} {keepalive : Keepalive} {estimate : Duration} :
      PacketOutcome session (.pingResponse ticks)
        (emit
          { session with keepalive, liveness := session.liveness.aliveConfirmed }
          (.rttUpdated estimate))
  | unmeasured {ticks : UInt32} : PacketOutcome session (.pingResponse ticks) session

/-- What an input comes to. -/
inductive Outcome (session : Session P) : Input P → Session P → Prop where
  | unchanged {input : Input P} (unoffered : input.offered? = none)
      (silent : session.accepts input = []) : Outcome session input session
  | pushed {payload : P} (running : session.phase ≠ .closed)
      (unsent : session.closing.finSent = false) :
      Outcome session (.send payload) (session.pushReliable (.data payload)).1
  | aborted (connecting : session.phase = .connecting) :
      Outcome session .close (session.terminate .aborted)
  | closes (connected : session.phase = .connected) :
      Outcome session .close (session.applyClose session.closing.localClose)
  | ended {reason : CloseReason} (running : session.phase ≠ .closed) :
      Outcome session (.closeImmediately reason) (session.terminate reason)
  | elapsed {time : Duration} {clock : UInt32} (running : session.phase ≠ .closed) :
      Outcome session (.update time clock) (session.update time clock)
  | dialed {line : Line} (running : session.phase ≠ .closed) :
      Outcome session (.bindPending line)
        { session.discard session.pending with pending := some line }
  | turnedAway {input : Input P} {line : Line} (offered : input.offered? = some line) :
      Outcome session input (session.discard (some line))
  | givenUp {input : Input P} {line : Line} (unoffered : input.offered? = none)
      (silent : session.accepts input = []) (shaking : session.pending = some line) :
      Outcome session input (discard { session with pending := none } (some line))
  | created {line : Line} {sessionId : UInt32} (shaking : session.pending = some line)
      (connecting : session.phase = .connecting) :
      Outcome session (.lineCreated line.id sessionId)
        (flush (emit
          { bindCurrent { session with pending := none, sessionId } line with phase := .connected }
          (.connected sessionId)))
  | accepted {line : Line} (connecting : session.phase = .connecting) :
      Outcome session (.attachCreated line)
        (flush (emit
          { bindCurrent
              { session.act (.send line.id (.createResponse session.sessionId)) with
                lastLineIndex := line.index }
              line with
            phase := .connected }
          (.connected session.sessionId)))
  | rebound {line : Line} {serverAck : UInt32} (shaking : session.pending = some line)
      (connected : session.phase = .connected)
      (checked : session.delivery.checkResync serverAck = .ok ()) :
      Outcome session (.lineRebound line.id serverAck)
        (resync (bindCurrent { session with pending := none } line) serverAck)
  | resumed {line : Line} {clientAck : UInt32} (connected : session.phase = .connected)
      (current : ¬line.index < session.lastLineIndex)
      (checked : session.delivery.checkResync clientAck = .ok ()) :
      Outcome session (.attachRebind line clientAck)
        (resync
          (bindCurrent
            { session.act (.send line.id (.rebindResponse session.delivery.lastRecvId)) with
              lastLineIndex := line.index }
            line)
          clientAck)
  | unresumable {line : Line} {serverAck : UInt32} {cause : SessionError}
      (shaking : session.pending = some line) (connected : session.phase = .connected)
      (refused : session.delivery.checkResync serverAck = .error cause) :
      Outcome session (.lineRebound line.id serverAck)
        (terminate (discard { session with pending := none } (some line)) .resyncRejected)
  | rejected {line : Line} {clientAck : UInt32} {cause : SessionError}
      (connected : session.phase = .connected)
      (current : ¬line.index < session.lastLineIndex)
      (refused : session.delivery.checkResync clientAck = .error cause) :
      Outcome session (.attachRebind line clientAck)
        (terminate (session.discard (some line)) .resyncRejected)
  | unreachable {line : LineId} (shaking : session.pending.map (·.id) = some line)
      (connecting : session.phase = .connecting) :
      Outcome session (.lineClosed line) (terminate { session with pending := none } .connectFailed)
  | failed {line : LineId} (shaking : session.pending.map (·.id) = some line)
      (connected : session.phase = .connected) :
      Outcome session (.lineClosed line)
        { session with pending := none, liveness := session.liveness.rebindFailed }
  | lost {line : LineId} (bound : session.current.map (·.id) = some line)
      (running : session.phase ≠ .closed) : Outcome session (.lineClosed line) session.lineLost
  | lostPending {line : LineId} (shaking : session.pending.map (·.id) = some line)
      (isOver : session.phase = .closed) :
      Outcome session (.lineClosed line) { session with pending := none }
  | lostCurrent {line : LineId} (bound : session.current.map (·.id) = some line)
      (isOver : session.phase = .closed) :
      Outcome session (.lineClosed line) { session with current := none }
  | heard {line : LineId} {packet : Packet P} {clock : UInt32} {after : Session P}
      (running : session.phase ≠ .closed) (bound : session.current.map (·.id) = some line)
      (arrives : PacketOutcome session packet after) :
      Outcome session (.packet line packet clock) after

theorem silent_of_offered {session : Session P} {input : Input P} {line : Line}
    (offered : input.offered? = some line) : session.accepts input = [] := by
  cases input <;> first | rfl | cases offered

section

variable (session : Session P)

private theorem outcome_send (payload : P) :
    Outcome session (.send payload) ((session.send payload).toOption.getD session) := by
  unfold send
  split
  · next isOver => exact .unchanged rfl (by simp [accepts, isOver])
  · next running =>
      split
      · next sent => exact .unchanged rfl (by simp [accepts, sent])
      · next unsent => exact .pushed running (by simpa using unsent)

private theorem outcome_close : Outcome session .close session.close := by
  unfold close
  split
  · exact .unchanged rfl rfl
  · next connecting => exact .aborted connecting
  · next connected => exact .closes connected

private theorem outcome_closeImmediately (reason : CloseReason) :
    Outcome session (.closeImmediately reason) (session.closeImmediately reason) := by
  unfold closeImmediately
  split
  · exact .unchanged rfl rfl
  · next running => exact .ended running

private theorem outcome_update (time : Duration) (clock : UInt32) :
    Outcome session (.update time clock) (session.update time clock) := by
  by_cases isOver : session.phase = .closed
  · have idle : session.update time clock = session := if_pos isOver
    rw [idle]
    exact .unchanged rfl rfl
  · exact .elapsed isOver

private theorem outcome_bindPending (line : Line) :
    Outcome session (.bindPending line) (session.bindPending line) := by
  unfold bindPending
  split
  · exact .turnedAway rfl
  · next running => exact .dialed running

private theorem outcome_lineCreated (line : LineId) (sessionId : UInt32) :
    Outcome session (.lineCreated line sessionId) (session.onLineCreated line sessionId) := by
  unfold onLineCreated
  split
  · exact .unchanged rfl rfl
  · next pending shaking =>
      split
      · exact .unchanged rfl rfl
      · next ours =>
          obtain rfl : pending.id = line := Classical.not_not.mp ours
          split
          · exact .givenUp rfl rfl shaking
          · next connecting => exact .created shaking (Classical.not_not.mp connecting)

private theorem outcome_lineRebound (line : LineId) (serverAck : UInt32) :
    Outcome session (.lineRebound line serverAck) (session.onLineRebound line serverAck) := by
  unfold onLineRebound
  split
  · exact .unchanged rfl rfl
  · next pending shaking =>
      split
      · exact .unchanged rfl rfl
      · next ours =>
          obtain rfl : pending.id = line := Classical.not_not.mp ours
          simp only
          split
          · exact .givenUp rfl rfl shaking
          · next connected =>
              have isConnected : session.phase = .connected := Classical.not_not.mp connected
              split
              · next cause refused => exact .unresumable shaking isConnected refused
              · next checked => exact .rebound shaking isConnected checked

private theorem outcome_attachCreated (line : Line) :
    Outcome session (.attachCreated line) (session.attachCreated line) := by
  unfold attachCreated
  split
  · exact .turnedAway rfl
  · next connecting => exact .accepted (Classical.not_not.mp connecting)

private theorem outcome_attachRebind (line : Line) (clientAck : UInt32) :
    Outcome session (.attachRebind line clientAck) (session.attachRebind line clientAck) := by
  unfold attachRebind
  split
  · exact .turnedAway rfl
  · next connected =>
      have isConnected : session.phase = .connected := Classical.not_not.mp connected
      split
      · exact .turnedAway rfl
      · next current =>
          split
          · next cause refused => exact .rejected isConnected current refused
          · next checked => exact .resumed isConnected current checked

private theorem outcome_lineClosed (line : LineId) :
    Outcome session (.lineClosed line) (session.onLineClosed line) := by
  unfold onLineClosed
  split
  · next shaking =>
      simp only
      split
      · next connecting => exact .unreachable shaking connecting
      · next connected => exact .failed shaking connected
      · next isOver => exact .lostPending shaking isOver
  · split
    · next bound =>
        split
        · next isOver => exact .lostCurrent bound isOver
        · next running => exact .lost bound running
    · exact .unchanged rfl rfl

theorem outcome_onReliable (packet : ReliablePacket P) :
    PacketOutcome session (.reliable packet) (session.onReliable packet) := by
  unfold onReliable
  split
  · next cause refused => exact .gap refused
  · next delivery known => exact .duplicate known
  · next delivery accepted =>
      simp only
      split
      · next isOver => exact .ended accepted isOver
      · next open_ =>
          apply PacketOutcome.taken accepted open_
          cases packet.body with
          | data payload => exact .delivered
          | fin =>
              simp only
              split
              · next decided => exact .fin decided
              · next refused => exact .unexpectedFin refused
          | finAck =>
              simp only
              split
              · next decided => exact .finAck decided
              · next refused => exact .unexpectedFinAck refused

private theorem outcome_packet (line : LineId) (packet : Packet P) (clock : UInt32) :
    Outcome session (.packet line packet clock) (session.onPacket line packet clock) := by
  unfold onPacket
  split
  · exact .unchanged rfl rfl
  · next elsewhere =>
      rw [not_or, Classical.not_not] at elsewhere
      apply Outcome.heard elsewhere.1 elsewhere.2
      cases packet with
      | reliable packet => exact session.outcome_onReliable packet
      | ack latest => exact .acked
      | pingRequest ticks => exact .echoed
      | pingResponse ticks =>
          simp only
          split
          · split
            · exact .unmeasured
            · exact .measured
          · exact .unmeasured
      | _ => exact .misplaced rfl

/-- Every input comes to one of these. -/
theorem outcome_step (input : Input P) : Outcome session input (session.step input) := by
  cases input with
  | send payload => exact session.outcome_send payload
  | close => exact session.outcome_close
  | closeImmediately reason => exact session.outcome_closeImmediately reason
  | update time clock => exact session.outcome_update time clock
  | bindPending line => exact session.outcome_bindPending line
  | lineCreated line sessionId => exact session.outcome_lineCreated line sessionId
  | lineRebound line serverAck => exact session.outcome_lineRebound line serverAck
  | attachCreated line => exact session.outcome_attachCreated line
  | attachRebind line clientAck => exact session.outcome_attachRebind line clientAck
  | lineClosed line => exact session.outcome_lineClosed line
  | packet line packet clock => exact session.outcome_packet line packet clock

end

end Session

end ResumableSession
