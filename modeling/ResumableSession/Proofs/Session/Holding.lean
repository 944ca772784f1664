import ResumableSession.Proofs.Session.Course

/-!
# Holding on to the bound line

Pushes, acks and the actions of the close machine leave the bound line as it is,
or they end the session.  So a packet costs a session its line only if its id is
not the next one or if its kind has no place on a bound line.
-/

namespace ResumableSession

namespace Session

variable {P : Type}

/-- The bound line stays, unless the session ends. -/
structure Holds (before after : Session P) : Prop where
  recvId : after.delivery.lastRecvId = before.delivery.lastRecvId
  line : after.current = before.current ∨ after.phase = .closed
  isOver : before.phase = .closed → after.phase = .closed

namespace Holds

variable {first second third : Session P}

theorem refl (session : Session P) : Holds session session := ⟨rfl, .inl rfl, id⟩

theorem trans (earlier : Holds first second) (later : Holds second third) :
    Holds first third := by
  constructor
  · exact later.recvId.trans earlier.recvId
  · rcases later.line with same | isOver
    · rcases earlier.line with same' | isOver'
      · exact .inl (same.trans same')
      · exact .inr (later.isOver isOver')
    · exact .inr isOver
  · exact later.isOver ∘ earlier.isOver

end Holds

variable (session : Session P)

private theorem holds_terminate (reason : CloseReason) :
    Holds session (session.terminate reason) := by
  rw [terminate_eq]
  exact ⟨rfl, .inr rfl, fun _ => rfl⟩

private theorem holds_flush : Holds session session.flush := by
  unfold flush
  split
  · exact .refl session
  · split
    · next delivery packets flushed =>
        rw [foldl_sendOnCurrent]
        unfold Delivery.flush at flushed
        split at flushed
        · simp at flushed
        · simp only [Except.ok.injEq, Prod.mk.injEq] at flushed
          obtain ⟨rfl, -⟩ := flushed
          exact ⟨rfl, .inl rfl, id⟩
    · exact holds_terminate session .bookkeeping

private theorem holds_pushReliable (body : ReliableBody P) :
    Holds session (session.pushReliable body).1 := by
  have flushed := holds_flush { session with delivery := (session.delivery.push body).1 }
  exact ⟨flushed.recvId, flushed.line, flushed.isOver⟩

private theorem holds_sendAck : Holds session session.sendAck := by
  rw [sendAck_eq]
  constructor
  · simp only
    split <;> rfl
  · exact .inl rfl
  · exact id

private theorem holds_applyAction (action : CloseAction) :
    Holds session (session.applyAction action) := by
  unfold applyAction
  split
  · exact .refl session
  · cases action with
    | sendFin =>
        have pushed := holds_pushReliable session .fin
        exact ⟨pushed.recvId, pushed.line, pushed.isOver⟩
    | sendFinAck =>
        have pushed := holds_pushReliable session .finAck
        exact ⟨pushed.recvId, pushed.line, pushed.isOver⟩
    | sendAck => exact holds_sendAck session
    | enter state =>
        have entered : Holds session (session.emit (.closeStateChanged state)) :=
          ⟨rfl, .inl rfl, id⟩
        cases state with
        | closed => exact entered.trans (holds_terminate _ .graceful)
        | timeWait => exact ⟨rfl, .inl rfl, id⟩
        | _ => exact entered

private theorem holds_foldl_applyAction (actions : List CloseAction) :
    ∀ session : Session P, Holds session (actions.foldl applyAction session) := by
  induction actions with
  | nil => exact .refl
  | cons action actions induction =>
      intro session
      exact (holds_applyAction session action).trans (induction _)

private theorem holds_applyClose (decision : CloseMachine × List CloseAction) :
    Holds session (session.applyClose decision) := by
  have applied := holds_foldl_applyAction decision.2 { session with closing := decision.1 }
  exact ⟨applied.recvId, applied.line, applied.isOver⟩

private theorem holds_removeAcked (ack : UInt32) : Holds session (session.removeAcked ack) := by
  have retired : Holds session
      { session with delivery := (session.delivery.removeAcked ack).1 } :=
    ⟨rfl, .inl rfl, id⟩
  unfold removeAcked
  simp only
  split
  · exact retired
  · exact retired.trans (holds_applyClose _ _)

theorem BodyOutcome.holds {session after : Session P} {body : ReliableBody P}
    (outcome : BodyOutcome session body after) : Holds session after := by
  cases outcome with
  | delivered => exact ⟨rfl, .inl rfl, id⟩
  | fin decided => exact holds_applyClose session _
  | finAck decided => exact holds_applyClose session _
  | unexpectedFin refused => exact holds_terminate session _
  | unexpectedFinAck refused => exact holds_terminate session _

/-- A packet with the next id is taken in, one with an old id changes nothing, and
one with any other id drops the line. -/
theorem onReliable_cases (packet : ReliablePacket P) :
    (∃ cause, session.delivery.accept packet.id = .error cause) ∧
        session.onReliable packet = session.dropLine ∨
      packet.id ≤ session.delivery.lastRecvId ∧ session.onReliable packet = session ∨
      Holds { session with delivery := { session.delivery with lastRecvId := packet.id } }
        (session.onReliable packet) := by
  have outcome := session.outcome_onReliable packet
  generalize session.onReliable packet = after at outcome ⊢
  cases outcome with
  | gap refused => exact .inl ⟨⟨_, refused⟩, rfl⟩
  | misplaced strange => cases strange
  | duplicate known =>
      refine .inr (.inl ⟨?_, rfl⟩)
      unfold Delivery.accept at known
      split at known
      · next old => exact old
      · simp only at known
        split at known <;> simp at known
  | ended accepted isOver =>
      obtain ⟨rfl, -⟩ := Delivery.accept_accepted accepted
      exact .inr (.inr (holds_removeAcked _ _))
  | taken accepted open_ body =>
      obtain ⟨rfl, -⟩ := Delivery.accept_accepted accepted
      exact .inr (.inr ((holds_removeAcked _ _).trans body.holds))

variable {session} {line : LineId} {clock : UInt32}

/-- While the line stays bound, everything up to a packet that came on it was received. -/
theorem le_recvId_onPacket {packet : ReliablePacket P} (clock : UInt32)
    (running : session.phase ≠ .closed)
    (ours : session.current.map (·.id) = some line)
    (bound : (session.onPacket line (.reliable packet) clock).current.isSome) :
    packet.id ≤ (session.onPacket line (.reliable packet) clock).delivery.lastRecvId := by
  unfold onPacket at bound ⊢
  rw [if_neg (by simp [running, ours])] at bound ⊢
  simp only at bound ⊢
  rcases session.onReliable_cases packet with ⟨_, drops⟩ | ⟨old, unchanged⟩ | holds
  · rw [drops, dropLine_eq] at bound
    split at bound
    · next unbound => simp [Option.isNone_iff_eq_none.mp unbound] at ours
    · simp at bound
  · rw [unchanged]
    exact old
  · rw [holds.recvId]
    exact UInt32.le_refl _

/-- A packet that passes every check leaves the bound line as it is, unless the
session ends. -/
theorem Trusts.holds {packet : Packet P} (trusts : session.Trusts (.packet line packet clock)) :
    (session.onPacket line packet clock).current = session.current ∨
      (session.onPacket line packet clock).phase = .closed := by
  unfold onPacket
  by_cases elsewhere : session.phase = .closed ∨ session.current.map (·.id) ≠ some line
  · rw [if_pos elsewhere]
    exact .inl rfl
  · rw [if_neg elsewhere]
    rw [not_or, Classical.not_not] at elsewhere
    obtain ⟨ordinary, welcomes⟩ := trusts elsewhere.1 elsewhere.2
    cases packet with
    | reliable packet =>
        obtain ⟨delivery, receipt, accepted, _⟩ := welcomes packet rfl
        simp only
        rcases session.onReliable_cases packet with ⟨⟨cause, refused⟩, _⟩ | ⟨_, unchanged⟩ | holds
        · simp [accepted] at refused
        · exact .inl (by rw [unchanged])
        · exact holds.line
    | ack latest => exact (holds_removeAcked session latest).line
    | pingRequest ticks =>
        simp only
        rw [sendOnCurrent_eq]
        exact .inl rfl
    | pingResponse ticks =>
        simp only
        split
        · split <;> exact .inl rfl
        · exact .inl rfl
    | _ => simp [Packet.isOrdinary] at ordinary

end Session

end ResumableSession
