import ResumableSession.Proofs.Session.Outcome
import ResumableSession.Proofs.Session.Ticking

/-!
# What a packet on the bound line does

An ack is taken first.  Then a reliable packet with the next id counts as
received, and its body goes to the application or to the close machine.
-/

namespace ResumableSession

namespace CloseMachine

variable {P : Type}

theorem onFin_cases {machine next : CloseMachine} {actions : List CloseAction}
    (decided : machine.onFin = .ok (next, actions)) :
    .enter .closed ∉ actions ∧ (CloseAction.bodies (P := P) actions).length ≤ 2 ∧
      (CloseAction.bodies (P := P) actions).filterMap ReliableBody.payload? = [] := by
  unfold onFin at decided
  split at decided <;> simp only [Except.ok.injEq, Prod.mk.injEq, reduceCtorEq] at decided
  all_goals
    obtain ⟨rfl, rfl⟩ := decided
    unfold owedFinAck
    split <;> simp [CloseAction.body?, ReliableBody.payload?]

theorem onFinAck_cases {machine next : CloseMachine} {actions : List CloseAction}
    (decided : machine.onFinAck = .ok (next, actions)) :
    next.state ≠ .closed ∧ actions = [.enter next.state] ∨
      next.state = .closed ∧
        (actions = [.enter .closed] ∨ actions = [.sendAck, .enter .closed]) := by
  unfold onFinAck at decided
  split at decided <;> simp only [Except.ok.injEq, Prod.mk.injEq, reduceCtorEq] at decided
  · obtain ⟨rfl, rfl⟩ := decided
    exact .inl ⟨by simp, rfl⟩
  · obtain ⟨rfl, rfl⟩ := decided
    cases machine.peerFinAcked
    · exact .inl ⟨by simp, rfl⟩
    · exact .inr ⟨rfl, .inl rfl⟩
  · obtain ⟨rfl, rfl⟩ := decided
    exact .inr ⟨rfl, .inr rfl⟩

end CloseMachine

namespace Delivery

variable {P : Type}

theorem accept_accepted {delivery after : Delivery P} {id : UInt32}
    (accepted : delivery.accept id = .ok (after, .accepted)) :
    after = { delivery with lastRecvId := id } ∧
      id.toNat = delivery.lastRecvId.toNat + 1 := by
  unfold accept at accepted
  split at accepted
  · simp at accepted
  · next fresh =>
      simp only at accepted
      split at accepted
      · simp at accepted
      · next expected =>
          simp only [Except.ok.injEq, Prod.mk.injEq, and_true] at accepted
          have next : id = delivery.lastRecvId + 1 := Classical.not_not.mp expected
          have beyond : delivery.lastRecvId.toNat < id.toNat := by
            rw [UInt32.le_iff_toNat_le] at fresh
            omega
          have wraps : id.toNat = (delivery.lastRecvId.toNat + 1) % UInt32.size := by
            rw [next, UInt32.toNat_add]
            rfl
          have small := delivery.lastRecvId.toNat_lt_size
          refine ⟨accepted.symm, ?_⟩
          by_cases last : delivery.lastRecvId.toNat + 1 = UInt32.size
          · rw [last, Nat.mod_self] at wraps
            omega
          · rw [wraps, Nat.mod_eq_of_lt (by omega)]

end Delivery

namespace Session

variable {P : Type} {heard : Nat} {reasons : List CloseReason}
  {pushed : List (ReliableBody P)} {session : Session P}

theorem isSome_of_id {line : Option Line} {id : LineId} (same : line.map (·.id) = some id) :
    line.isSome := by
  cases line with
  | none => simp at same
  | some _ => rfl

private theorem elapses_removeAcked (books : Books pushed session) {ack : UInt32}
    (heardIt : ack.toNat ≤ heard) (bound : session.current.isSome) :
    Elapses heard pushed pushed session (session.removeAcked ack) := by
  have retired : Elapses heard pushed pushed session
      { session with delivery := (session.delivery.removeAcked ack).1 } :=
    { toDeaf := ⟨rfl, rfl, id⟩
      advances := ⟨[], advances_retire books heardIt bound, by simp⟩
      closing := .inl (CloseMachine.recorded_refl _) }
  have running : session.phase ≠ .closed := by simp [books.connected bound]
  refine retired.trans ?_
  rcases removeAcked_cases running ack with
    ⟨closing, recorded, noted⟩ | ⟨closing, lingered, ends⟩
  · rw [noted]
    exact
      { toDeaf := ⟨rfl, rfl, id⟩
        advances := ⟨[], advances_closing retired.books
          (fun timeWait => .inl (recorded.state ▸ timeWait)), by simp⟩
        closing := .inl recorded }
  · rw [ends]
    exact
      { toDeaf := deaf_endGracefully _ _
        advances := ⟨[.graceful], advances_endGracefully retired.books lingered.state, by
          simp [endGracefully_eq, lingered.state]⟩
        closing := .inr ⟨by simp [endGracefully_eq, terminate_eq], by
          simpa only [endGracefully_eq] using lingered⟩ }

private theorem advances_receive (books : Books pushed session) {id : UInt32}
    (next : id.toNat = session.delivery.lastRecvId.toNat + 1) :
    Advances heard reasons pushed pushed session
      { session with delivery := { session.delivery with lastRecvId := id } } :=
  { (Frame.refl session : Frame reasons session session) with
    books :=
      { keeps :=
          { inOrder :=
              { buffered_le := books.keeps.inOrder.buffered_le
                ids := books.keeps.inOrder.ids
                acked_le_line := books.keeps.inOrder.acked_le_line
                line_le_last := books.keeps.inOrder.line_le_last }
            counted := books.keeps.counted
            bodies := books.keeps.bodies }
        inStep := books.inStep
        lingering := books.lingering
        untouched := books.untouched
        connected := books.connected }
    grows := List.prefix_refl _
    received := by
      simp only [next]
      omega
    acked := Nat.le_refl _
    acked_le := Nat.le_max_left _ _
    unheard := fun _ => rfl
    sends := ⟨[], pushed.length, .nil _, fun line => by simp, fun _ => rfl⟩ }

/-- A packet of a kind that has no place on a bound line drops it, like a gap. -/
theorem moves_dropLine {input : Input P} (books : Books pushed session)
    (silent : session.accepts input = []) :
    Moves input pushed [] [] session session.dropLine := by
  refine moves_quiet (advances_dropLine books) (deaf_dropLine _) ?_ silent
  rw [dropLine_eq]
  split <;> rfl

/-- The next id was received and its ack noted; the body is still to be taken in. -/
structure Told (heard : Nat) (pushed : List (ReliableBody P)) (before after : Session P) : Prop
    extends Advances heard [] pushed pushed before after where
  next : after.delivery.lastRecvId.toNat = before.delivery.lastRecvId.toNat + 1
  stays : after.current = before.current
  open_ : after.phase = .connected
  delivered : deliveredIn after.outputs = deliveredIn before.outputs
  noted : CloseMachine.Recorded [] before.closing after.closing

/-- Unless the ack of the next packet ends the session, its body is taken in. -/
theorem told_removeAcked (books : Books pushed session) (bound : session.current.isSome)
    {packet : ReliablePacket P}
    (next : packet.id.toNat = session.delivery.lastRecvId.toNat + 1) {informed : Session P}
    (acked : informed =
      removeAcked { session with delivery := { session.delivery with lastRecvId := packet.id } }
        packet.ack) :
    Told packet.ack.toNat pushed session informed ∨
      informed.phase = .closed ∧ CloseMachine.Lingered session.closing informed.closing ∧
        informed.delivery.lastRecvId.toNat = session.delivery.lastRecvId.toNat + 1 ∧
        deliveredIn informed.outputs = deliveredIn session.outputs ∧
        Advances packet.ack.toNat [.graceful] pushed pushed session informed := by
  have connected : session.phase = .connected := books.connected bound
  have received : Advances packet.ack.toNat [] pushed pushed session
      { session with delivery := { session.delivery with lastRecvId := packet.id } } :=
    advances_receive books next
  have retired : Advances packet.ack.toNat [] pushed pushed
      { session with delivery := { session.delivery with lastRecvId := packet.id } }
      { session with
        delivery :=
          (({ session.delivery with lastRecvId := packet.id } : Delivery P).removeAcked
            packet.ack).1 } :=
    advances_retire received.books (Nat.le_refl _) bound
  have running :
      ({ session with delivery := { session.delivery with lastRecvId := packet.id } } :
        Session P).phase ≠ .closed := by
    simp [connected]
  rcases removeAcked_cases running packet.ack with
    ⟨closing, recorded, noted⟩ | ⟨closing, lingered, ends⟩
  · rw [acked, noted]
    exact .inl
      { toAdvances := received.trans (retired.trans (advances_closing retired.books
          (fun timeWait => .inl (recorded.state ▸ timeWait))))
        next
        stays := rfl
        open_ := connected
        delivered := rfl
        noted := recorded }
  · rw [acked, ends]
    have ended : Advances packet.ack.toNat [.graceful] pushed pushed
        { session with
          delivery :=
            (({ session.delivery with lastRecvId := packet.id } : Delivery P).removeAcked
              packet.ack).1 }
        (endGracefully
          { session with
            delivery :=
              (({ session.delivery with lastRecvId := packet.id } : Delivery P).removeAcked
                packet.ack).1 }
          closing) :=
      advances_endGracefully retired.books lingered.state
    refine .inr ⟨by simp [endGracefully_eq, terminate_eq], ?_, ?_, ?_,
      ((received.trans retired).mono (List.nil_subset _) (Nat.le_refl _)).trans ended⟩
    · simpa only [endGracefully_eq] using lingered
    · simpa only [endGracefully_eq, terminate_eq, Delivery.removeAcked] using next
    · exact (deaf_endGracefully _ _).delivered

section

variable {informed : Session P} {input : Input P}

theorem Told.lastSendId (told : Told heard pushed session informed)
    (books : Books pushed session) :
    informed.delivery.lastSendId = session.delivery.lastSendId := by
  apply UInt32.toNat_inj.mp
  rw [told.books.keeps.counted, books.keeps.counted]

private theorem moves_payload (told : Told input.ack pushed session informed)
    (bound : session.current.isSome) (silent : session.accepts input = []) {payload : P}
    (brought : session.Brings input (.data payload)) :
    Moves input pushed [] [.data payload] session (informed.emit (.delivered payload)) where
  advances := by
    refine ⟨[], ?_, by simp⟩
    rw [List.append_nil]
    exact told.toAdvances.trans (advances_emit told.books (by simp) rfl)
  turn := by
    refine .hears bound told.next (.payload told.noted ?_)
    simp only [emit, deliveredIn_append, told.delivered]
    rfl
  brought := by simpa using brought
  payloads := silent.symm

/-- A Fin or FinAck without a place ends the session. -/
theorem moves_violated (told : Told input.ack pushed session informed)
    (bound : session.current.isSome) (silent : session.accepts input = [])
    {body : ReliableBody P}
    (unexpected : body = .fin ∧ (∃ cause, informed.closing.onFin = .error cause) ∨
      body = .finAck ∧ ∃ cause, informed.closing.onFinAck = .error cause)
    (brought : session.Brings input body) (distrusted : ¬session.Trusts input) :
    Moves input pushed [] [body] session (informed.terminate .protocolViolation) where
  advances := by
    refine ⟨[.protocolViolation], ?_, ?_⟩
    · rw [List.append_nil]
      exact (told.toAdvances.mono (List.nil_subset _) (Nat.le_refl _)).trans
        (advances_terminate told.books (by simp))
    · intro reason member
      rw [List.mem_singleton.mp member]
      exact .inr distrusted
  turn := by
    have deaf := deaf_terminate informed .protocolViolation
    refine .hears bound ?_ (.violated told.noted unexpected ?_ ?_ ?_)
    · rw [deaf.recvId]
      exact told.next
    · rw [terminate_eq]
    · rw [terminate_eq]
    · exact deaf.delivered.trans told.delivered
  brought := by simpa using brought
  payloads := silent.symm

private theorem moves_fin (books : Books pushed session)
    (told : Told input.ack pushed session informed)
    (bound : session.current.isSome) (silent : session.accepts input = [])
    {machine : CloseMachine} {actions : List CloseAction}
    (brought : session.Brings input .fin)
    (decided : informed.closing.onFin = .ok (machine, actions))
    (room : pushed.length + ((informed.applyClose (machine, actions)).delivery.lastSendId -
      session.delivery.lastSendId).toNat < UInt32.size) :
    Moves input pushed (CloseAction.bodies actions) [.fin] session
      (informed.applyClose (machine, actions)) := by
  obtain ⟨quiet, few, silentActions⟩ := CloseMachine.onFin_cases (P := P) decided
  rw [← told.lastSendId books] at room
  have takes : Takes input.ack machine actions pushed informed
      (informed.applyClose (machine, actions)) :=
    takes_applyClose_of_room told.books told.open_ quiet
      (fun _ => by rw [told.stays]; exact bound)
      (by simp only [UInt32.size]; omega) room
  exact
    { advances := ⟨[], told.toAdvances.trans takes.toAdvances, by simp⟩
      turn := by
        refine .hears bound ?_ (.fin told.noted decided takes.recorded ?_)
        · rw [takes.recvId]
          exact told.next
        · exact takes.delivered.trans told.delivered
      brought := by simpa using brought
      payloads := silentActions.trans silent.symm }

private theorem moves_finAck (books : Books pushed session)
    (told : Told input.ack pushed session informed)
    (bound : session.current.isSome) (silent : session.accepts input = [])
    {machine : CloseMachine} {actions : List CloseAction}
    (brought : session.Brings input .finAck)
    (decided : informed.closing.onFinAck = .ok (machine, actions)) :
    Moves input pushed [] [.finAck] session (informed.applyClose (machine, actions)) := by
  rcases CloseMachine.onFinAck_cases decided with ⟨running, rfl⟩ | ⟨ended, ends⟩
  · have takes : Takes input.ack machine [.enter machine.state] pushed informed
        (informed.applyClose (machine, [.enter machine.state])) := by
      refine takes_applyClose told.books told.open_ (by simpa using Ne.symm running) ?_ ?_
      · have small := session.delivery.lastSendId.toNat_lt_size
        rw [books.keeps.counted] at small
        simpa [CloseAction.body?] using small
      · intro _
        rw [told.stays]
        exact bound
    have advances := told.toAdvances.trans takes.toAdvances
    exact
      { advances := ⟨[], by simpa [CloseAction.body?] using advances, by simp⟩
        turn := by
          refine .hears bound ?_ (.finAck told.noted decided ?_ ?_ ?_)
          · rw [takes.recvId]
            exact told.next
          · exact
              { state := takes.recorded.state
                fin := by simp [takes.recorded.fin]
                finAck := by simp [takes.recorded.finAck] }
          · intro isOver
            exact absurd isOver running
          · exact takes.delivered.trans told.delivered
        brought := by simpa using brought
        payloads := silent.symm }
  · have running : informed.phase ≠ .closed := by simp [told.open_]
    obtain ⟨last, finished, deaf, advances⟩ : ∃ last,
        informed.applyClose (machine, actions) = endGracefully last machine ∧
        Deaf informed last ∧ Advances input.ack [] pushed pushed informed last := by
      rcases ends with rfl | rfl
      · exact ⟨informed, applyClose_enter_closed running machine, .refl _, .refl told.books⟩
      · exact ⟨informed.sendAck, applyClose_sendAck_enter_closed running machine,
          deaf_sendAck _, advances_sendAck told.books⟩
    rw [finished]
    have silenced := deaf.trans (deaf_endGracefully last machine)
    exact
      { advances := by
          refine ⟨[.graceful], ?_, ?_⟩
          · rw [List.append_nil]
            exact ((told.toAdvances.trans advances).mono (List.nil_subset _)
              (Nat.le_refl _)).trans (advances_endGracefully advances.books ended)
          · intro reason member
            rw [List.mem_singleton.mp member]
            exact .inr (by simpa [endGracefully_eq] using ended)
        turn := by
          refine .hears bound ?_ (.finAck told.noted decided ?_ ?_ ?_)
          · rw [silenced.recvId]
            exact told.next
          · simp only [endGracefully_eq]
            exact CloseMachine.recorded_refl machine
          · intro _
            simp [endGracefully_eq, terminate_eq]
          · exact silenced.delivered.trans told.delivered
        brought := by simpa using brought
        payloads := silent.symm }

/-- Whatever its body comes to, the next packet is taken in. -/
theorem BodyOutcome.moves {body : ReliableBody P} {after : Session P}
    (outcome : BodyOutcome informed body after) (books : Books pushed session)
    (told : Told input.ack pushed session informed) (bound : session.current.isSome)
    (silent : session.accepts input = []) (brought : session.Brings input body)
    (distrusted : body = .fin ∧ (∃ cause, informed.closing.onFin = .error cause) ∨
      body = .finAck ∧ (∃ cause, informed.closing.onFinAck = .error cause) →
      ¬session.Trusts input)
    (room : pushed.length + (after.delivery.lastSendId - session.delivery.lastSendId).toNat <
      UInt32.size) :
    ∃ fresh, Moves input pushed fresh [body] session after := by
  cases outcome with
  | delivered => exact ⟨[], moves_payload told bound silent brought⟩
  | fin decided => exact ⟨_, moves_fin books told bound silent brought decided room⟩
  | finAck decided => exact ⟨[], moves_finAck books told bound silent brought decided⟩
  | unexpectedFin refused =>
      exact ⟨[], moves_violated told bound silent (.inl ⟨rfl, _, refused⟩) brought
        (distrusted (.inl ⟨rfl, _, refused⟩))⟩
  | unexpectedFinAck refused =>
      exact ⟨[], moves_violated told bound silent (.inr ⟨rfl, _, refused⟩) brought
        (distrusted (.inr ⟨rfl, _, refused⟩))⟩

end

private theorem moves_pong {input : Input P} (books : Books pushed session)
    (silent : session.accepts input = []) (keepalive : Keepalive) (estimate : Duration) :
    Moves input pushed [] [] session
      (emit
        { session with keepalive, liveness := session.liveness.aliveConfirmed }
        (.rttUpdated estimate)) := by
  have limits : session.liveness.aliveConfirmed.rebindLimits = session.liveness.rebindLimits := by
    unfold Liveness.aliveConfirmed
    split <;> rfl
  have resting : session.liveness.rebind = .stopped ∧ session.liveness.cooltime = .stopped →
      session.liveness.aliveConfirmed.rebind = .stopped ∧
        session.liveness.aliveConfirmed.cooltime = .stopped := by
    unfold Liveness.aliveConfirmed
    split <;> exact id
  have measured : Advances input.ack [] pushed pushed session { session with keepalive } :=
    advances_keepalive books
  have confirmed : Advances input.ack [] pushed pushed { session with keepalive }
      { session with keepalive, liveness := session.liveness.aliveConfirmed } :=
    advances_liveness measured.books limits resting
  refine moves_quiet
    (measured.trans (confirmed.trans (advances_emit confirmed.books (by simp) rfl)))
    ⟨rfl, ?_, id⟩ rfl silent
  simp only [emit, deliveredIn_append]
  exact List.append_nil _

private theorem distrusts (clock : UInt32) {line : LineId} {packet : ReliablePacket P}
    {delivery : Delivery P} (running : session.phase ≠ .closed)
    (ours : session.current.map (·.id) = some line)
    (accepted : session.delivery.accept packet.id = .ok (delivery, .accepted))
    (unexpected : packet.body = .fin ∧ (∃ cause,
        (removeAcked { session with delivery } packet.ack).closing.onFin = .error cause) ∨
      packet.body = .finAck ∧ ∃ cause,
        (removeAcked { session with delivery } packet.ack).closing.onFinAck = .error cause) :
    ¬session.Trusts (.packet line (.reliable packet) clock) := by
  intro trusts
  obtain ⟨_, _, accepted', checks⟩ := (trusts running ours).2 packet rfl
  simp only [accepted, Except.ok.injEq, Prod.mk.injEq] at accepted'
  obtain ⟨rfl, rfl⟩ := accepted'
  obtain ⟨_, fin, finAck⟩ := checks rfl
  rcases unexpected with ⟨isFin, cause, refused⟩ | ⟨isFinAck, cause, refused⟩
  · obtain ⟨decision, decided⟩ := fin isFin
    simp [decided] at refused
  · obtain ⟨decision, decided⟩ := finAck isFinAck
    simp [decided] at refused

theorem PacketOutcome.moves {packet : Packet P} {after : Session P}
    (outcome : PacketOutcome session packet after) (books : Books pushed session) {line : LineId}
    {clock : UInt32} (running : session.phase ≠ .closed)
    (ours : session.current.map (·.id) = some line)
    (room : pushed.length + (after.delivery.lastSendId - session.delivery.lastSendId).toNat <
      UInt32.size) :
    ∃ fresh taken, Moves (.packet line packet clock) pushed fresh taken session after := by
  have bound : session.current.isSome := isSome_of_id ours
  cases outcome with
  | gap refused => exact ⟨[], [], moves_dropLine books rfl⟩
  | misplaced strange => exact ⟨[], [], moves_dropLine books rfl⟩
  | duplicate known => exact ⟨[], [], moves_still books rfl⟩
  | @ended packet delivery accepted isOver =>
      obtain ⟨rfl, next⟩ := Delivery.accept_accepted accepted
      rcases told_removeAcked books bound next rfl with
        told | ⟨_, lingered, received, delivered, ended⟩
      · simp [told.open_] at isOver
      · exact ⟨[], [packet.body],
          { advances := by
              refine ⟨[.graceful], ?_, ?_⟩
              · rw [List.append_nil]
                exact ended
              · intro reason member
                rw [List.mem_singleton.mp member]
                exact .inr lingered.state
            turn := .hears bound received (.lingered lingered isOver delivered)
            brought := by
              intro body member
              exact ⟨line, packet, clock, rfl, (List.mem_singleton.mp member).symm, next⟩
            payloads := rfl }⟩
  | @taken packet delivery after accepted open_ body =>
      have distrusted := distrusts clock running ours accepted
      obtain ⟨rfl, next⟩ := Delivery.accept_accepted accepted
      have told : Told (Input.packet line (.reliable packet) clock).ack pushed session _ :=
        (told_removeAcked books bound next rfl).resolve_right fun ended => open_ ended.1
      have brought : session.Brings (.packet line (.reliable packet) clock) packet.body :=
        ⟨line, packet, clock, rfl, rfl, next⟩
      obtain ⟨fresh, moves⟩ := body.moves books told bound rfl brought distrusted room
      exact ⟨fresh, [packet.body], moves⟩
  | acked =>
      exact ⟨[], [], moves_elapses (elapses_removeAcked books (Nat.le_refl _) bound) rfl⟩
  | echoed =>
      refine ⟨[], [], moves_quiet (advances_sendOnCurrent books rfl trivial rfl) ?_ ?_ rfl⟩
      · rw [sendOnCurrent_eq]
        exact ⟨rfl, rfl, id⟩
      · rw [sendOnCurrent_eq]
  | measured => exact ⟨[], [], moves_pong books rfl _ _⟩
  | unmeasured => exact ⟨[], [], moves_still books rfl⟩

end Session

end ResumableSession
