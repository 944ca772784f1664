import ResumableSession.Proofs.Session.Elapse

/-!
# Acks and new lines

An ack either goes into the books and the close machine, or it is the last one
that a lingering session waits for.  A new line starts with the part of the
history that its peer reports to have, and is handed the rest.
-/

namespace ResumableSession

variable {P : Type}

theorem CloseMachine.onAcked_cases (machine : CloseMachine) (ack : UInt32) :
    (∃ closing, Recorded [] machine closing ∧ machine.onAcked ack = (closing, [])) ∨
      ∃ closing, Lingered machine closing ∧
        machine.onAcked ack = (closing, [.enter .closed]) := by
  unfold onAcked
  simp only
  split
  · split
    · next timeWait =>
        refine .inr ⟨_, ?_, rfl⟩
        exact ⟨timeWait, rfl, .rfl, .rfl⟩
    · exact .inl ⟨_, by constructor <;> simp, rfl⟩
  · exact .inl ⟨_, by constructor <;> simp, rfl⟩

namespace Session

variable {heard : Nat} {pushed : List (ReliableBody P)} {session : Session P}

theorem removeAcked_cases (running : session.phase ≠ .closed) (ack : UInt32) :
    (∃ closing, CloseMachine.Recorded [] session.closing closing ∧
      session.removeAcked ack =
        { session with delivery := (session.delivery.removeAcked ack).1, closing }) ∨
      ∃ closing, CloseMachine.Lingered session.closing closing ∧
        session.removeAcked ack =
          endGracefully { session with delivery := (session.delivery.removeAcked ack).1 }
            closing := by
  unfold removeAcked
  simp only
  split
  · exact .inl ⟨session.closing, by constructor <;> simp, rfl⟩
  · rcases session.closing.onAcked_cases ack with
      ⟨closing, recorded, noted⟩ | ⟨closing, lingered, ends⟩
    · refine .inl ⟨closing, recorded, ?_⟩
      rw [noted]
      rfl
    · refine .inr ⟨closing, lingered, ?_⟩
      rw [ends]
      apply applyClose_enter_closed
      exact running

/-- A new line is handed what its peer does not have, unless the peer's ack ends
a session that lingers. -/
theorem resync_cases (running : session.phase ≠ .closed) (ack : UInt32) :
    (∃ closing, CloseMachine.Recorded [] session.closing closing ∧
      session.resync ack =
        flush
          { session with
            delivery := (session.delivery.removeAcked ack).1.rewindLine ack
            closing }) ∨
      ∃ closing, CloseMachine.Lingered session.closing closing ∧
        session.resync ack =
          endGracefully { session with delivery := (session.delivery.removeAcked ack).1 }
            closing := by
  unfold resync
  rcases removeAcked_cases running ack with
    ⟨closing, recorded, noted⟩ | ⟨closing, lingered, ends⟩
  · refine .inl ⟨closing, recorded, ?_⟩
    rw [noted]
    exact if_neg running
  · refine .inr ⟨closing, lingered, ?_⟩
    rw [ends]
    exact if_pos (by rw [endGracefully_eq, terminate_eq])

/-- A line that was just bound, whose peer has a known part of the history, is
handed the rest. -/
theorem advances_flush (keeps : session.delivery.Keeps pushed)
    (connected : session.phase = .connected) {line : Line}
    (current : session.current = some line) {start : Nat}
    (known : session.delivery.lastSendIdOfLine.toNat = start) :
    Advances heard [] (pushed.take start) pushed session session.flush := by
  subst known
  rw [flush_eq _ keeps.inOrder]
  simp only [current, Option.isSome_some, if_true, Option.toList_some, List.flatMap_cons,
    List.flatMap_nil, List.append_nil]
  have handedBound := keeps.inOrder.line_le_last
  have counted := keeps.counted
  have start : (pushed.take session.delivery.lastSendIdOfLine.toNat).length =
      session.delivery.lastSendIdOfLine.toNat := by
    rw [List.length_take]
    omega
  exact
    { (Frame.refl session : Frame [] session session) with
      books :=
        { keeps := keeps.handed
          inStep := fun _ => rfl
          lingering := fun _ => rfl
          untouched := by simp [connected]
          connected := fun _ => connected }
      current := .inl current.symm
      alive := fun _ => rfl
      idle := fun _ resting _ => resting (.inl (by simp [current]))
      grows := List.take_prefix _ _
      received := Nat.le_refl _
      acked := Nat.le_of_eq keeps.inOrder.acked_handed.symm
      acked_le := by
        rw [keeps.inOrder.acked_handed]
        exact Nat.le_max_left _ _
      unheard := by simp [current]
      sends := by
        refine ⟨session.delivery.unhanded.map .reliable, session.delivery.lastSendId.toNat, ?_,
          ?_, fun _ => keeps.counted⟩
        · rw [start]
          exact keeps.stream_unhanded
        · intro target
          simp only [packetsOn_append, packetsOn_map_send, current, Option.map_some,
            Option.some.injEq] }

theorem elapses_flush (keeps : session.delivery.Keeps pushed)
    (connected : session.phase = .connected) {line : Line}
    (current : session.current = some line) {start : Nat}
    (known : session.delivery.lastSendIdOfLine.toNat = start) :
    Elapses heard (pushed.take start) pushed session session.flush where
  toDeaf := by
    rw [flush_eq _ keeps.inOrder]
    refine ⟨?_, rfl, id⟩
    split <;> rfl
  advances := ⟨[], advances_flush keeps connected current known, by simp⟩
  closing := by
    rw [flush_eq _ keeps.inOrder]
    exact .inl (CloseMachine.recorded_refl _)

section

variable {ack : UInt32} {closing : CloseMachine} {line : Line}

theorem acked_resync (keeps : session.delivery.Keeps pushed)
    (lower : session.delivery.acked ≤ ack.toNat) (upper : ack.toNat ≤ pushed.length) :
    (session.delivery.removeAcked ack).1.acked = ack.toNat := by
  have counted := keeps.counted
  rw [keeps.inOrder.acked_removeAcked]
  omega

private theorem elapses_rewind (keeps : session.delivery.Keeps pushed)
    (connected : session.phase = .connected) (current : session.current = some line)
    (recorded : CloseMachine.Recorded [] session.closing closing) (heardIt : ack.toNat ≤ heard)
    (lower : session.delivery.acked ≤ ack.toNat) (upper : ack.toNat ≤ pushed.length) :
    Elapses heard (pushed.take ack.toNat) pushed session
      (flush
        { session with
          delivery := (session.delivery.removeAcked ack).1.rewindLine ack
          closing }) := by
  have moved := acked_resync keeps lower upper
  have counted := keeps.counted
  have rewound : ((session.delivery.removeAcked ack).1.rewindLine ack).Keeps pushed :=
    keeps.rewindLine_removeAcked lower (by omega)
  have start : ((session.delivery.removeAcked ack).1.rewindLine ack).acked = ack.toNat := moved
  have noting : Frame [] session
      { session with
        delivery := (session.delivery.removeAcked ack).1.rewindLine ack
        closing } :=
    { (Frame.refl session : Frame [] session session) with }
  have flushed : Elapses heard (pushed.take ack.toNat) pushed
      { session with
        delivery := (session.delivery.removeAcked ack).1.rewindLine ack
        closing }
      (flush
        { session with
          delivery := (session.delivery.removeAcked ack).1.rewindLine ack
          closing }) := by
    apply elapses_flush
    · exact rewound
    · exact connected
    · exact current
    · rfl
  obtain ⟨reasons, advances, expected⟩ := flushed.advances
  have above := advances.acked
  have below := advances.acked_le
  simp only [start] at above below
  exact
    { toDeaf := ⟨flushed.recvId, flushed.delivered, flushed.isOver⟩
      advances := by
        refine ⟨reasons, ?_, expected⟩
        exact
          { toFrame := (noting.mono (List.nil_subset _)).trans advances.toFrame
            books := advances.books
            grows := advances.grows
            received := advances.received
            acked := Nat.le_trans lower above
            acked_le := by omega
            unheard := by simp [current]
            sends := advances.sends }
      closing := by
        rcases flushed.closing with same | ⟨isOver, lingered⟩
        · exact .inl (recorded.trans same)
        · exact .inr ⟨isOver, .of_recorded recorded lingered⟩ }

/-- The ack that is reported for a new line is the last one that a lingering session
has waited for. -/
theorem elapses_lastAck (keeps : session.delivery.Keeps pushed)
    (connected : session.phase = .connected) (current : session.current = some line)
    (handed : session.delivery.lastSendIdOfLine = session.delivery.lastSendId)
    (lingered : CloseMachine.Lingered session.closing closing) (heardIt : ack.toNat ≤ heard)
    (lower : session.delivery.acked ≤ ack.toNat) (upper : ack.toNat ≤ pushed.length) :
    Elapses heard (pushed.take ack.toNat) pushed session
      (endGracefully { session with delivery := (session.delivery.removeAcked ack).1 }
        closing) := by
  have moved := acked_resync keeps lower upper
  have retired : Books pushed
      { session with delivery := (session.delivery.removeAcked ack).1 } :=
    { keeps := keeps.removeAcked ack handed
      inStep := fun _ => handed
      lingering := fun _ => handed
      untouched := by simp [connected]
      connected := fun _ => connected }
  have noting : Frame [.graceful] session
      { session with delivery := (session.delivery.removeAcked ack).1 } :=
    { (Frame.refl session : Frame [.graceful] session session) with }
  have ended : Advances heard [.graceful] pushed pushed
      { session with delivery := (session.delivery.removeAcked ack).1 }
      (endGracefully { session with delivery := (session.delivery.removeAcked ack).1 }
        closing) :=
    advances_endGracefully retired lingered.state
  have deaf := deaf_endGracefully
    { session with delivery := (session.delivery.removeAcked ack).1 } closing
  have above := ended.acked
  have below := ended.acked_le
  simp only [moved] at above below
  exact
    { toDeaf := ⟨deaf.recvId, deaf.delivered, deaf.isOver⟩
      advances := by
        refine ⟨[.graceful], ?_, by simp [endGracefully_eq, lingered.state]⟩
        exact
          { toFrame := noting.trans ended.toFrame
            books := ended.books
            grows := List.take_prefix _ _
            received := ended.received
            acked := Nat.le_trans lower above
            acked_le := by omega
            unheard := by simp [current]
            sends := by
              refine ⟨[], (pushed.take ack.toNat).length, .nil _, ?_, ?_⟩
              · intro target
                simp [endGracefully_eq, terminate_eq]
              · simp [endGracefully_eq, terminate_eq] }
      closing := .inr ⟨by simp [endGracefully_eq, terminate_eq], by
        simpa only [endGracefully_eq] using lingered⟩ }

/-- A line that was just bound, whose peer has everything up to `ack`, is handed
the rest, unless the ack ends the session. -/
theorem elapses_resync (keeps : session.delivery.Keeps pushed)
    (connected : session.phase = .connected) (current : session.current = some line)
    (lingering : session.closing.state = .timeWait →
      session.delivery.lastSendIdOfLine = session.delivery.lastSendId)
    (heardIt : ack.toNat ≤ heard)
    (lower : session.delivery.acked ≤ ack.toNat) (upper : ack.toNat ≤ pushed.length) :
    Elapses heard (pushed.take ack.toNat) pushed session (session.resync ack) := by
  have running : session.phase ≠ .closed := by simp [connected]
  rcases resync_cases running ack with
    ⟨closing, recorded, handsOver⟩ | ⟨closing, lingered, ends⟩
  · rw [handsOver]
    exact elapses_rewind keeps connected current recorded heardIt lower upper
  · rw [ends]
    exact elapses_lastAck keeps connected current (lingering lingered.timeWait) lingered heardIt
      lower upper

end

end Session

end ResumableSession
