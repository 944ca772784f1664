import ResumableSession.Proofs.Session.Outcome
import ResumableSession.Proofs.Session.Reception

/-!
# Stamps and ids of what goes out

A reliable packet is stamped with the last received id when it goes out, and what
was given an id stays in the buffer until an ack comes.  An input takes in a packet
and an ack, if any, before it sends anything: after that the session only issues.
-/

namespace ResumableSession

namespace Session

variable {P : Type}

/-- Nothing is received or acknowledged in between; packets that go out carry the
last received id, and whatever is given an id is buffered. -/
structure Issues (before after : Session P) : Prop where
  recvId : after.delivery.lastRecvId = before.delivery.lastRecvId
  stamped : ∃ actions, after.actions = before.actions ++ actions ∧
    ∀ line packet, .send line (.reliable packet) ∈ actions →
      packet.ack = before.delivery.lastRecvId
  buffered : ∃ fresh,
    after.delivery.buffer.length = before.delivery.buffer.length + fresh ∧
      after.delivery.lastSendId = before.delivery.lastSendId + UInt32.ofNat fresh

namespace Issues

variable {first second third : Session P}

theorem still (delivery : second.delivery = first.delivery) {actions : List (LineAction P)}
    (extended : second.actions = first.actions ++ actions)
    (unreliable : ∀ line packet, .send line (.reliable packet) ∉ actions) :
    Issues first second where
  recvId := by rw [delivery]
  stamped := ⟨actions, extended, fun line packet member => absurd member (unreliable line packet)⟩
  buffered := ⟨0, by rw [delivery]; rfl, by rw [delivery]; simp⟩

theorem refl (session : Session P) : Issues session session :=
  still rfl (List.append_nil _).symm (by simp)

theorem trans (earlier : Issues first second) (later : Issues second third) :
    Issues first third where
  recvId := later.recvId.trans earlier.recvId
  stamped := by
    obtain ⟨actions, extended, stamped⟩ := earlier.stamped
    obtain ⟨actions', extended', stamped'⟩ := later.stamped
    refine ⟨actions ++ actions', ?_, ?_⟩
    · rw [extended', extended, List.append_assoc]
    · intro line packet member
      rcases List.mem_append.mp member with old | new
      · exact stamped line packet old
      · rw [← earlier.recvId]
        exact stamped' line packet new
  buffered := by
    obtain ⟨fresh, length, lastId⟩ := earlier.buffered
    obtain ⟨fresh', length', lastId'⟩ := later.buffered
    refine ⟨fresh + fresh', ?_, ?_⟩
    · rw [length', length, Nat.add_assoc]
    · rw [lastId', lastId, UInt32.ofNat_add, UInt32.add_assoc]

end Issues

section

variable (session : Session P)

private theorem issues_discard (line : Option Line) : Issues session (session.discard line) := by
  rw [discard_eq]
  exact .still rfl rfl (by simp)

private theorem issues_terminate (reason : CloseReason) :
    Issues session (session.terminate reason) := by
  rw [terminate_eq]
  exact .still rfl (List.append_assoc _ _ _) (by simp)

private theorem issues_dropLine : Issues session session.dropLine := by
  rw [dropLine_eq]
  split
  · exact .refl session
  · exact .still rfl rfl (by simp)

private theorem issues_startRebind : Issues session session.startRebind := by
  rw [startRebind_eq]
  exact .still rfl rfl (by simp)

private theorem issues_sendPing (clock : UInt32) : Issues session (session.sendPing clock) := by
  rw [sendPing_eq]
  exact .still rfl rfl (by simp)

private theorem issues_sendAck : Issues session session.sendAck := by
  rw [sendAck_eq]
  constructor
  · simp only
    split <;> rfl
  · exact ⟨_, rfl, by simp⟩
  · refine ⟨0, ?_, ?_⟩ <;> simp only <;> split <;> simp [Delivery.markAckSent]

/-- Whatever the counters say, packets that a flush hands over are stamped. -/
theorem issues_flush : Issues session session.flush := by
  unfold flush
  split
  · exact .refl session
  · split
    · next delivery packets flushed =>
        rw [foldl_sendOnCurrent]
        unfold Delivery.flush at flushed
        split at flushed
        · simp at flushed
        · simp only [Except.ok.injEq, Prod.mk.injEq] at flushed
          obtain ⟨rfl, rfl⟩ := flushed
          refine ⟨rfl, ⟨_, rfl, ?_⟩, ⟨0, ?_, by simp⟩⟩
          · intro line packet member
            simp only [List.mem_flatMap, List.mem_map, LineAction.send.injEq] at member
            obtain ⟨_, _, _, ⟨_, ⟨_, _, rfl⟩, rfl⟩, _, same⟩ := member
            cases same
            rfl
          · simp only [List.length_append, List.length_take, List.length_map, List.length_drop]
            omega
    · exact issues_terminate session .bookkeeping

private theorem issues_pushReliable (body : ReliableBody P) :
    Issues session (session.pushReliable body).1 := by
  have pushed : Issues session { session with delivery := (session.delivery.push body).1 } := by
    refine ⟨rfl, ⟨[], (List.append_nil _).symm, by simp⟩, ⟨1, ?_, rfl⟩⟩
    simp [Delivery.push]
  exact pushed.trans (issues_flush _)

private theorem issues_applyAction (action : CloseAction) :
    Issues session (session.applyAction action) := by
  unfold applyAction
  split
  · exact .refl session
  · cases action with
    | sendFin =>
        have pushed := issues_pushReliable session .fin
        exact ⟨pushed.recvId, pushed.stamped, pushed.buffered⟩
    | sendFinAck =>
        have pushed := issues_pushReliable session .finAck
        exact ⟨pushed.recvId, pushed.stamped, pushed.buffered⟩
    | sendAck => exact issues_sendAck session
    | enter state =>
        have entered : Issues session (session.emit (.closeStateChanged state)) :=
          .still rfl (List.append_nil _).symm (by simp)
        cases state with
        | closed => exact entered.trans (issues_terminate _ .graceful)
        | timeWait => exact ⟨entered.recvId, entered.stamped, entered.buffered⟩
        | _ => exact entered

private theorem issues_foldl_applyAction (actions : List CloseAction) :
    ∀ session : Session P, Issues session (actions.foldl applyAction session) := by
  induction actions with
  | nil => exact .refl
  | cons action actions induction =>
      intro session
      exact (issues_applyAction session action).trans (induction _)

private theorem issues_applyClose (decision : CloseMachine × List CloseAction) :
    Issues session (session.applyClose decision) := by
  have applied := issues_foldl_applyAction decision.2 { session with closing := decision.1 }
  exact ⟨applied.recvId, applied.stamped, applied.buffered⟩

private theorem issues_onDue (clock : UInt32) (event : LivenessEvent) :
    Issues session (onDue clock session event) := by
  unfold onDue
  split
  · exact .refl session
  · cases event with
    | offlineExpired => exact issues_terminate session .offlineTimeout
    | rebindDue => exact issues_startRebind session
    | sendPing => exact issues_sendPing session clock
    | aliveWaitExpired => exact issues_dropLine session
    | timeWaitExpired => exact issues_applyClose session _

private theorem issues_foldl_onDue (clock : UInt32) (due : List LivenessEvent) :
    ∀ session : Session P, Issues session (due.foldl (onDue clock) session) := by
  induction due with
  | nil => exact .refl
  | cons event due induction =>
      intro session
      exact (issues_onDue session clock event).trans (induction _)

private theorem issues_update (time : Duration) (clock : UInt32) :
    Issues session (session.update time clock) := by
  unfold update
  split
  · exact .refl session
  · have acted := issues_foldl_onDue clock (session.liveness.tick time).2
      { session with liveness := (session.liveness.tick time).1 }
    have moved : Issues session _ := ⟨acted.recvId, acted.stamped, acted.buffered⟩
    simp only
    split
    · exact moved.trans (issues_sendAck _)
    · exact moved

private theorem issues_removeAcked (ack : UInt32) :
    Issues { session with delivery := (session.delivery.removeAcked ack).1 }
      (session.removeAcked ack) := by
  unfold removeAcked
  simp only
  split
  · exact .refl _
  · exact issues_applyClose _ _

private theorem issues_resync (ack : UInt32) :
    Issues { session with delivery := (session.delivery.removeAcked ack).1 }
      (session.resync ack) := by
  have noted := issues_removeAcked session ack
  unfold resync
  simp only
  split
  · exact noted
  · have rewound : Issues (session.removeAcked ack)
        { session.removeAcked ack with
          delivery := (session.removeAcked ack).delivery.rewindLine ack } :=
      ⟨rfl, ⟨[], (List.append_nil _).symm, by simp⟩, ⟨0, rfl, by simp [Delivery.rewindLine]⟩⟩
    exact noted.trans (rewound.trans (issues_flush _))

end

/-- What an input does to its session: packets that go out carry the id that is the
last received one from then on, and what it gives an id is buffered. -/
structure Serves (before after : Session P) : Prop where
  stamped : ∃ actions, after.actions = before.actions ++ actions ∧
    ∀ line packet, .send line (.reliable packet) ∈ actions →
      packet.ack = after.delivery.lastRecvId
  buffered : ∃ fresh ≤ after.delivery.buffer.length,
    after.delivery.lastSendId = before.delivery.lastSendId + UInt32.ofNat fresh

section

variable {before middle after session : Session P}

theorem Issues.behind (issues : Issues middle after)
    (lastSendId : middle.delivery.lastSendId = before.delivery.lastSendId)
    {actions : List (LineAction P)} (extended : middle.actions = before.actions ++ actions)
    (unreliable : ∀ line packet, .send line (.reliable packet) ∉ actions) :
    Serves before after where
  stamped := by
    obtain ⟨later, extended', stamped⟩ := issues.stamped
    refine ⟨actions ++ later, ?_, ?_⟩
    · rw [extended', extended, List.append_assoc]
    · intro line packet member
      rcases List.mem_append.mp member with old | new
      · exact absurd old (unreliable line packet)
      · rw [issues.recvId]
        exact stamped line packet new
  buffered := by
    obtain ⟨fresh, length, lastId⟩ := issues.buffered
    refine ⟨fresh, ?_, ?_⟩
    · omega
    · rw [lastId, lastSendId]

theorem Issues.serves (issues : Issues before after) : Serves before after :=
  issues.behind rfl (List.append_nil _).symm (by simp)

/-- A line that was just bound, without a reliable packet, is brought up to date. -/
theorem serves_resync (ack : UInt32)
    (lastSendId : middle.delivery.lastSendId = before.delivery.lastSendId)
    {actions : List (LineAction P)} (extended : middle.actions = before.actions ++ actions)
    (unreliable : ∀ line packet, .send line (.reliable packet) ∉ actions) :
    Serves before (middle.resync ack) :=
  (issues_resync middle ack).behind lastSendId extended unreliable

/-! Every outcome takes in what it does before it issues anything. -/

theorem BodyOutcome.issues {body : ReliableBody P} (outcome : BodyOutcome session body after) :
    Issues session after := by
  cases outcome with
  | delivered => exact .still rfl (List.append_nil _).symm (by simp)
  | fin decided => exact issues_applyClose session _
  | finAck decided => exact issues_applyClose session _
  | unexpectedFin refused => exact issues_terminate session _
  | unexpectedFinAck refused => exact issues_terminate session _

theorem PacketOutcome.serves {packet : Packet P} (outcome : PacketOutcome session packet after) :
    Serves session after := by
  cases outcome with
  | gap refused => exact (issues_dropLine session).serves
  | misplaced strange => exact (issues_dropLine session).serves
  | duplicate known => exact (Issues.refl _).serves
  | ended accepted isOver =>
      obtain ⟨rfl, -⟩ := Delivery.accept_accepted accepted
      exact (issues_removeAcked _ _).behind rfl (List.append_nil _).symm (by simp)
  | taken accepted open_ body =>
      obtain ⟨rfl, -⟩ := Delivery.accept_accepted accepted
      have issues := (issues_removeAcked _ _).trans body.issues
      exact issues.behind rfl (List.append_nil _).symm (by simp)
  | acked => exact (issues_removeAcked session _).behind rfl (List.append_nil _).symm (by simp)
  | echoed =>
      rw [sendOnCurrent_eq]
      exact Issues.serves (.still rfl rfl (by simp))
  | measured => exact Issues.serves (.still rfl (List.append_nil _).symm (by simp))
  | unmeasured => exact (Issues.refl _).serves

theorem Outcome.serves {input : Input P} (outcome : Outcome session input after) :
    Serves session after := by
  cases outcome with
  | unchanged unoffered => exact (Issues.refl _).serves
  | pushed running unsent => exact (issues_pushReliable session _).serves
  | aborted connecting => exact (issues_terminate session _).serves
  | closes connected => exact (issues_applyClose session _).serves
  | ended running => exact (issues_terminate session _).serves
  | elapsed running => exact (issues_update session _ _).serves
  | dialed running =>
      rw [discard_eq]
      exact Issues.serves (.still rfl rfl (by simp))
  | turnedAway offered => exact (issues_discard session _).serves
  | givenUp unoffered shaking =>
      rw [discard_eq]
      exact Issues.serves (.still rfl rfl (by simp))
  | created shaking connecting =>
      rw [bindCurrent_eq]
      apply Issues.serves
      refine Issues.trans ?_ (issues_flush _)
      exact .still rfl rfl (by simp)
  | accepted connecting =>
      rw [bindCurrent_eq]
      apply Issues.serves
      refine Issues.trans ?_ (issues_flush _)
      exact .still rfl (List.append_assoc _ _ _) (by simp)
  | rebound shaking connected checked =>
      rw [bindCurrent_eq]
      exact serves_resync _ rfl rfl (by simp)
  | resumed connected current checked =>
      rw [bindCurrent_eq]
      exact serves_resync _ rfl (List.append_assoc _ _ _) (by simp)
  | unresumable shaking connected refused =>
      apply Issues.serves
      refine Issues.trans ?_ (issues_terminate _ _)
      rw [discard_eq]
      exact .still rfl rfl (by simp)
  | rejected connected current refused =>
      exact ((issues_discard session _).trans (issues_terminate _ _)).serves
  | unreachable shaking connecting =>
      apply Issues.serves
      refine Issues.trans ?_ (issues_terminate _ _)
      exact .still rfl (List.append_nil _).symm (by simp)
  | failed shaking connected => exact Issues.serves (.still rfl (List.append_nil _).symm (by simp))
  | lost bound running => exact Issues.serves (.still rfl (List.append_nil _).symm (by simp))
  | lostPending shaking isOver =>
      exact Issues.serves (.still rfl (List.append_nil _).symm (by simp))
  | lostCurrent bound isOver =>
      exact Issues.serves (.still rfl (List.append_nil _).symm (by simp))
  | heard running bound arrives => exact arrives.serves

theorem serves_step (input : Input P) : Serves session (session.step input) :=
  (session.outcome_step input).serves

end

end Session

end ResumableSession
