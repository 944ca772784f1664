import ResumableSession.Proofs.Session.Frames

/-!
# Taking outputs away changes nothing

A session never looks at what it has put out.  An owner that takes the outputs away
after each step sees the session go on as if it had left them where they were.
-/

namespace ResumableSession

namespace Session

variable {P : Type} (told : List (Output P)) (session : Session P)

/-- The session with outputs that were taken away before put back in front. -/
def restore : Session P := { session with outputs := told ++ session.outputs }

@[simp] theorem restore_phase : (session.restore told).phase = session.phase := rfl

@[simp] theorem restore_current : (session.restore told).current = session.current := rfl

@[simp] theorem restore_pending : (session.restore told).pending = session.pending := rfl

@[simp] theorem restore_lastLineIndex :
    (session.restore told).lastLineIndex = session.lastLineIndex := rfl

@[simp] theorem restore_delivery : (session.restore told).delivery = session.delivery := rfl

@[simp] theorem restore_closing : (session.restore told).closing = session.closing := rfl

@[simp] theorem restore_liveness : (session.restore told).liveness = session.liveness := rfl

@[simp] theorem restore_keepalive : (session.restore told).keepalive = session.keepalive := rfl

theorem restore_restore (earlier : List (Output P)) :
    (session.restore told).restore earlier = session.restore (earlier ++ told) := by
  simp only [restore, List.append_assoc]

/-! ## The parts of a step -/

private theorem emit_restore (output : Output P) :
    (session.restore told).emit output = (session.emit output).restore told := by
  simp only [emit, restore, List.append_assoc]

private theorem sendOnCurrent_restore (packet : Packet P) :
    (session.restore told).sendOnCurrent packet = (session.sendOnCurrent packet).restore told := by
  rw [sendOnCurrent_eq, sendOnCurrent_eq]
  rfl

private theorem discard_restore (line : Option Line) :
    (session.restore told).discard line = (session.discard line).restore told := by
  rw [discard_eq, discard_eq]
  rfl

private theorem terminate_restore (reason : CloseReason) :
    (session.restore told).terminate reason = (session.terminate reason).restore told := by
  rw [terminate_eq, terminate_eq]
  simp only [restore, List.append_assoc]

private theorem flush_restore : (session.restore told).flush = session.flush.restore told := by
  unfold flush
  rw [restore_current, restore_delivery]
  by_cases unbound : session.current.isNone
  · rw [if_pos unbound, if_pos unbound]
  rw [if_neg unbound, if_neg unbound]
  cases session.delivery.flush with
  | error cause => exact terminate_restore told session _
  | ok handed =>
      dsimp only
      rw [foldl_sendOnCurrent, foldl_sendOnCurrent]
      rfl

private theorem pushReliable_restore (body : ReliableBody P) :
    (session.restore told).pushReliable body =
      ((session.pushReliable body).1.restore told, (session.pushReliable body).2) :=
  Prod.ext (flush_restore told { session with delivery := (session.delivery.push body).1 }) rfl

private theorem sendAck_restore :
    (session.restore told).sendAck = session.sendAck.restore told := by
  rw [sendAck_eq, sendAck_eq]
  rfl

private theorem sendPing_restore (clock : UInt32) :
    (session.restore told).sendPing clock = (session.sendPing clock).restore told := by
  rw [sendPing_eq, sendPing_eq]
  rfl

private theorem bindCurrent_restore (line : Line) :
    (session.restore told).bindCurrent line = (session.bindCurrent line).restore told := by
  rw [bindCurrent_eq, bindCurrent_eq]
  rfl

private theorem dropLine_restore :
    (session.restore told).dropLine = session.dropLine.restore told := by
  rw [dropLine_eq, dropLine_eq, restore_current]
  split <;> rfl

private theorem startRebind_restore :
    (session.restore told).startRebind = session.startRebind.restore told := by
  rw [startRebind_eq, startRebind_eq]
  simp only [restore, List.append_assoc]

private theorem applyAction_restore (action : CloseAction) :
    (session.restore told).applyAction action = (session.applyAction action).restore told := by
  unfold applyAction
  rw [restore_phase]
  by_cases isOver : session.phase = .closed
  · rw [if_pos isOver, if_pos isOver]
  rw [if_neg isOver, if_neg isOver]
  cases action with
  | sendFin | sendFinAck =>
      dsimp only
      rw [pushReliable_restore]
      rfl
  | sendAck => exact sendAck_restore told session
  | enter state =>
      dsimp only
      rw [emit_restore]
      cases state with
      | closed => exact terminate_restore told _ _
      | _ => rfl

private theorem foldl_applyAction_restore (actions : List CloseAction) :
    actions.foldl applyAction (session.restore told) =
      (actions.foldl applyAction session).restore told := by
  induction actions generalizing session with
  | nil => rfl
  | cons action actions induction =>
      rw [List.foldl_cons, List.foldl_cons, applyAction_restore, induction]

private theorem applyClose_restore (decision : CloseMachine × List CloseAction) :
    (session.restore told).applyClose decision = (session.applyClose decision).restore told :=
  foldl_applyAction_restore told { session with closing := decision.1 } decision.2

private theorem removeAcked_restore (ack : UInt32) :
    (session.restore told).removeAcked ack = (session.removeAcked ack).restore told := by
  unfold removeAcked
  rw [restore_delivery]
  dsimp only
  split
  · rfl
  · exact applyClose_restore told { session with delivery := (session.delivery.removeAcked ack).1 } _

private theorem resync_restore (ack : UInt32) :
    (session.restore told).resync ack = (session.resync ack).restore told := by
  unfold resync
  dsimp only
  rw [removeAcked_restore, restore_phase]
  split
  · rfl
  · exact flush_restore told
      { session.removeAcked ack with
        delivery := (session.removeAcked ack).delivery.rewindLine ack }

/-! ## What can happen to a session -/

private theorem send_restore (payload : P) :
    (session.restore told).send payload = (session.send payload).map (·.restore told) := by
  unfold send
  rw [restore_phase, restore_closing, pushReliable_restore]
  split
  · rfl
  · split <;> rfl

private theorem close_restore : (session.restore told).close = session.close.restore told := by
  unfold close
  rw [restore_phase, restore_closing, terminate_restore, applyClose_restore]
  split <;> rfl

private theorem closeImmediately_restore (reason : CloseReason) :
    (session.restore told).closeImmediately reason =
      (session.closeImmediately reason).restore told := by
  unfold closeImmediately
  rw [restore_phase, terminate_restore]
  split <;> rfl

private theorem onDue_restore (clock : UInt32) (event : LivenessEvent) :
    onDue clock (session.restore told) event = (onDue clock session event).restore told := by
  unfold onDue
  rw [restore_phase]
  by_cases isOver : session.phase = .closed
  · rw [if_pos isOver, if_pos isOver]
  rw [if_neg isOver, if_neg isOver]
  cases event with
  | offlineExpired => exact terminate_restore told session _
  | rebindDue => exact startRebind_restore told session
  | sendPing => exact sendPing_restore told session clock
  | aliveWaitExpired => exact dropLine_restore told session
  | timeWaitExpired => exact applyClose_restore told session _

private theorem foldl_onDue_restore (clock : UInt32) (due : List LivenessEvent) :
    due.foldl (onDue clock) (session.restore told) = (due.foldl (onDue clock) session).restore told := by
  induction due generalizing session with
  | nil => rfl
  | cons event due induction => rw [List.foldl_cons, List.foldl_cons, onDue_restore, induction]

private theorem acknowledge_restore :
    (if (session.restore told).phase ≠ .closed ∧ (session.restore told).delivery.ackPending then
      (session.restore told).sendAck else session.restore told) =
    (if session.phase ≠ .closed ∧ session.delivery.ackPending then session.sendAck
      else session).restore told := by
  rw [restore_phase, restore_delivery, sendAck_restore]
  split <;> rfl

private theorem update_restore (time : Duration) (clock : UInt32) :
    (session.restore told).update time clock = (session.update time clock).restore told := by
  unfold update
  by_cases isOver : session.phase = .closed
  · rw [if_pos isOver, if_pos (show (session.restore told).phase = .closed from isOver)]
  rw [if_neg isOver, if_neg (show (session.restore told).phase ≠ .closed from isOver)]
  have ticked := foldl_onDue_restore told
    { session with liveness := (session.liveness.tick time).1 } clock (session.liveness.tick time).2
  exact (congrArg
    (fun session : Session P =>
      if session.phase ≠ .closed ∧ session.delivery.ackPending then session.sendAck else session)
    ticked).trans (acknowledge_restore told _)

private theorem bindPending_restore (line : Line) :
    (session.restore told).bindPending line = (session.bindPending line).restore told := by
  unfold bindPending
  rw [restore_phase, restore_pending, discard_restore, discard_restore]
  split <;> rfl

private theorem create_restore (line : Line) (sessionId : UInt32) :
    flush (emit { (session.restore told).bindCurrent line with phase := .connected }
        (.connected sessionId)) =
      (flush (emit { session.bindCurrent line with phase := .connected }
        (.connected sessionId))).restore told := by
  have bound := congrArg (fun session : Session P => { session with phase := .connected })
    (bindCurrent_restore told session line)
  have emitted := emit_restore told { session.bindCurrent line with phase := .connected }
    (.connected sessionId)
  calc flush (emit { (session.restore told).bindCurrent line with phase := .connected } _)
      = flush (emit (restore told { session.bindCurrent line with phase := .connected }) _) :=
        congrArg (fun session : Session P => flush (session.emit _)) bound
    _ = flush (restore told (emit { session.bindCurrent line with phase := .connected } _)) :=
        congrArg flush emitted
    _ = _ := flush_restore told _

private theorem onLineCreated_restore (line : LineId) (sessionId : UInt32) :
    (session.restore told).onLineCreated line sessionId =
      (session.onLineCreated line sessionId).restore told := by
  unfold onLineCreated
  rw [restore_pending]
  cases session.pending with
  | none => rfl
  | some pending =>
      dsimp only
      rw [restore_phase]
      split
      · rfl
      split
      · exact discard_restore told { session with pending := none } _
      · exact create_restore told { session with pending := none, sessionId } pending sessionId

private theorem onLineRebound_restore (line : LineId) (serverAck : UInt32) :
    (session.restore told).onLineRebound line serverAck =
      (session.onLineRebound line serverAck).restore told := by
  unfold onLineRebound
  rw [restore_pending]
  cases session.pending with
  | none => rfl
  | some pending =>
      dsimp only
      rw [restore_phase, restore_delivery]
      split
      · rfl
      split
      · exact discard_restore told { session with pending := none } _
      split
      · have given := discard_restore told { session with pending := none } (some pending)
        exact (congrArg (terminate · _) given).trans (terminate_restore told _ _)
      · have bound := bindCurrent_restore told { session with pending := none } pending
        exact (congrArg (resync · _) bound).trans (resync_restore told _ _)

private theorem attachCreated_restore (line : Line) :
    (session.restore told).attachCreated line = (session.attachCreated line).restore told := by
  unfold attachCreated
  rw [restore_phase]
  split
  · exact discard_restore told session _
  · exact create_restore told
      { session.act (.send line.id (.createResponse session.sessionId)) with
        lastLineIndex := line.index }
      line session.sessionId

private theorem attachRebind_restore (line : Line) (clientAck : UInt32) :
    (session.restore told).attachRebind line clientAck =
      (session.attachRebind line clientAck).restore told := by
  unfold attachRebind
  rw [restore_phase, restore_delivery, restore_lastLineIndex]
  split
  · exact discard_restore told session _
  split
  · exact discard_restore told session _
  split
  · exact (congrArg (terminate · _) (discard_restore told session (some line))).trans
      (terminate_restore told _ _)
  · have bound := bindCurrent_restore told
      { session.act (.send line.id (.rebindResponse session.delivery.lastRecvId)) with
        lastLineIndex := line.index }
      line
    exact (congrArg (resync · _) bound).trans (resync_restore told _ _)

private theorem onLineClosed_restore (line : LineId) :
    (session.restore told).onLineClosed line = (session.onLineClosed line).restore told := by
  unfold onLineClosed
  rw [restore_pending, restore_current, restore_phase]
  split
  · dsimp only
    split
    · exact terminate_restore told { session with pending := none } _
    · rfl
    · rfl
  · split
    · split <;> rfl
    · rfl

private theorem onReliable_restore (packet : ReliablePacket P) :
    (session.restore told).onReliable packet = (session.onReliable packet).restore told := by
  unfold onReliable
  rw [restore_delivery]
  split
  · exact dropLine_restore told session
  · rfl
  · next delivery accepted =>
      have acked : removeAcked { session.restore told with delivery } packet.ack =
          (removeAcked { session with delivery } packet.ack).restore told :=
        removeAcked_restore told { session with delivery } packet.ack
      dsimp only at acked ⊢
      rw [acked, restore_phase, restore_closing]
      split
      · rfl
      cases packet.body with
      | data payload => exact emit_restore told _ _
      | fin =>
          dsimp only
          split
          · exact applyClose_restore told _ _
          · exact terminate_restore told _ _
      | finAck =>
          dsimp only
          split
          · exact applyClose_restore told _ _
          · exact terminate_restore told _ _

private theorem onPacket_restore (line : LineId) (packet : Packet P) (clock : UInt32) :
    (session.restore told).onPacket line packet clock =
      (session.onPacket line packet clock).restore told := by
  unfold onPacket
  rw [restore_phase, restore_current]
  split
  · rfl
  cases packet with
  | reliable packet => exact onReliable_restore told session packet
  | ack ack => exact removeAcked_restore told session ack
  | pingRequest ticks => exact sendOnCurrent_restore told session _
  | pingResponse ticks =>
      dsimp only
      rw [restore_liveness, restore_keepalive]
      split
      · split
        · rfl
        · next keepalive estimate _ =>
            exact emit_restore told
              { session with keepalive, liveness := session.liveness.aliveConfirmed } _
      · rfl
  | _ => exact dropLine_restore told session

private theorem step_restore (input : Input P) :
    (session.restore told).step input = (session.step input).restore told := by
  cases input with
  | send payload =>
      simp only [step]
      rw [send_restore]
      cases session.send payload <;> rfl
  | close => exact close_restore told session
  | closeImmediately reason => exact closeImmediately_restore told session reason
  | update time clock => exact update_restore told session time clock
  | bindPending line => exact bindPending_restore told session line
  | lineCreated line sessionId => exact onLineCreated_restore told session line sessionId
  | lineRebound line serverAck => exact onLineRebound_restore told session line serverAck
  | attachCreated line => exact attachCreated_restore told session line
  | attachRebind line clientAck => exact attachRebind_restore told session line clientAck
  | lineClosed line => exact onLineClosed_restore told session line
  | packet line packet clock => exact onPacket_restore told session line packet clock

theorem run_append (earlier later : List (Input P)) :
    session.run (earlier ++ later) = (session.run earlier).run later :=
  List.foldl_append

theorem run_restore (inputs : List (Input P)) :
    (session.restore told).run inputs = (session.run inputs).restore told := by
  induction inputs generalizing session with
  | nil => rfl
  | cons input inputs induction =>
      rw [run, List.foldl_cons, step_restore]
      exact induction (session.step input)

end Session

end ResumableSession
