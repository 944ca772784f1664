import ResumableSession.Proofs.Session.Course

/-!
# The account of a step

Whatever the input, the books are kept, acks are heard only as far as the input
reports them, packets say the truth, and a session ends only for a reason that
the input gives.
-/

namespace ResumableSession

namespace Session

variable {P : Type}

/-- What holds across a step for this input. -/
structure Accounts (input : Input P) (pushed fresh taken : List (ReliableBody P))
    (before after : Session P) : Prop where
  books : Books (pushed ++ fresh) after
  acked_le : after.delivery.acked ≤ max before.delivery.acked input.ack
  sent : ∀ line, ∀ packet ∈ packetsOn line after.actions,
    packet ∈ packetsOn line before.actions ∨
      packet.Truthful (pushed ++ fresh) after.delivery.lastRecvId.toNat
  turn : Turn before after fresh taken
  brought : ∀ body ∈ taken, before.Brings input body
  payloads : fresh.filterMap ReliableBody.payload? = before.accepts input
  prefixed : before.outputs <+: after.outputs
  dials : dialedIn after.outputs = dialedIn before.outputs ∨
    ∃ sessionId index, dialedIn after.outputs = dialedIn before.outputs ++
      [.rebind sessionId index after.delivery.lastRecvId]
  ends : ∀ reason, .closed reason ∈ after.outputs →
    .closed reason ∈ before.outputs ∨ Justified before input after reason

section

variable {input : Input P} {pushed fresh taken : List (ReliableBody P)}
  {session before after : Session P}

theorem Turn.recvId (turn : Turn before after fresh taken) :
    after.delivery.lastRecvId.toNat = before.delivery.lastRecvId.toNat + taken.length := by
  cases turn with
  | quiet deaf _ => rw [deaf.recvId]; rfl
  | expired deaf _ _ => rw [deaf.recvId]; rfl
  | sent deaf _ _ _ => rw [deaf.recvId]; rfl
  | closes deaf _ _ => rw [deaf.recvId]; rfl
  | hears _ next _ => exact next

theorem Guarded.noting {machine : CloseMachine} (guarded : before.Guarded)
    (same : CloseMachine.Recorded [] before.closing machine) :
    machine.state = .active ∨ machine.finSent := by
  rcases guarded with active | finSent
  · exact .inl (same.state.trans active)
  · exact .inr (same.fin.mpr (.inl finSent))

theorem Guarded.lingered {machine : CloseMachine} (guarded : before.Guarded)
    (lingered : CloseMachine.Lingered before.closing machine) : machine.finSent := by
  rcases guarded with active | finSent
  · have timeWait := lingered.timeWait
    simp [active] at timeWait
  · exact lingered.fin.mpr finSent

theorem Hears.guarded {body : ReliableBody P} (hears : Hears before after body fresh)
    (guarded : before.Guarded) : after.Guarded := by
  cases hears with
  | payload same _ => exact guarded.noting same
  | lingered ended _ _ => exact .inr (guarded.lingered ended)
  | violated same _ unchanged _ _ =>
      rw [Guarded, unchanged]
      exact guarded.noting same
  | @fin noted machine actions same decided recorded _ =>
      refine .inr (recorded.fin.mpr ?_)
      have notedGuarded := guarded.noting same
      unfold CloseMachine.onFin at decided
      split at decided <;>
        simp only [Except.ok.injEq, Prod.mk.injEq, reduceCtorEq] at decided <;>
        obtain ⟨rfl, rfl⟩ := decided
      · simp
      · next waiting => exact .inl (by simpa [waiting, CloseMachine.finSent] using notedGuarded)
      · next waiting => exact .inl (by simpa [waiting, CloseMachine.finSent] using notedGuarded)
  | @finAck noted machine actions same decided recorded isOver _ =>
      refine .inr (recorded.fin.mpr (.inl ?_))
      have notedGuarded := guarded.noting same
      unfold CloseMachine.onFinAck at decided
      split at decided <;>
        simp only [Except.ok.injEq, Prod.mk.injEq, reduceCtorEq] at decided <;>
        obtain ⟨rfl, rfl⟩ := decided
      · next waiting => simpa [waiting, CloseMachine.finSent] using notedGuarded
      · next waiting => simpa [waiting, CloseMachine.finSent] using notedGuarded
      · next waiting => simpa [waiting, CloseMachine.finSent] using notedGuarded

theorem Turn.guarded (turn : Turn before after fresh taken) (guarded : before.Guarded) :
    after.Guarded := by
  cases turn with
  | quiet _ same => exact guarded.noting same
  | expired _ ended _ => exact .inr (guarded.lingered ended)
  | sent _ _ _ same =>
      rw [Guarded, same]
      exact guarded
  | hears _ _ hears => exact hears.guarded guarded
  | closes _ _ recorded =>
      unfold CloseMachine.localClose at recorded
      split at recorded
      · exact .inr (recorded.fin.mpr (.inr (by simp)))
      · exact .inr (recorded.fin.mpr (.inr (by simp)))
      · exact guarded.noting recorded

theorem Advances.sent {heard : Nat} {reasons : List CloseReason}
    {pushed pushed' : List (ReliableBody P)}
    (advances : Advances heard reasons pushed pushed' before after) (line : LineId)
    {packet : Packet P} (member : packet ∈ packetsOn line after.actions) :
    packet ∈ packetsOn line before.actions ∨
      packet.Truthful pushed' after.delivery.lastRecvId.toNat := by
  obtain ⟨packets, finish, stream, sent, _⟩ := advances.sends
  rw [sent] at member
  rcases List.mem_append.mp member with old | new
  · exact .inl old
  · split at new
    · exact .inr (stream.truthful packet new)
    · simp at new

theorem Moves.accounts (moves : Moves input pushed fresh taken before after) :
    Accounts input pushed fresh taken before after := by
  obtain ⟨reasons, advances, justified⟩ := moves.advances
  exact
    { books := advances.books
      acked_le := advances.acked_le
      sent := fun line packet member => advances.sent line member
      turn := moves.turn
      brought := moves.brought
      payloads := moves.payloads
      prefixed := advances.outputs
      dials := .inl advances.dials
      ends := fun reason member =>
        (advances.ends reason member).imp_right (justified reason) }

theorem Binds.accounts {line : Line} {start : Nat} {response : List (Packet P)}
    {pending : Option Line} {index : UInt32} {heard : Nat}
    (binds : Binds heard pushed line start response pending index before after)
    (ack : input.ack = heard) (running : before.phase ≠ .closed)
    (truthful : ∀ packet ∈ response,
      packet.Truthful pushed before.delivery.lastRecvId.toNat)
    (silent : before.accepts input = []) : Accounts input pushed [] [] before after := by
  subst ack
  obtain ⟨opened, opens, elapses⟩ := binds
  obtain ⟨reasons, advances, expected⟩ := elapses.advances
  have deaf : Deaf before after :=
    { recvId := by rw [elapses.recvId, opens.delivery]
      delivered := elapses.delivered.trans opens.delivered
      isOver := fun isOver => absurd isOver running }
  exact
    { books := by
        rw [List.append_nil]
        exact advances.books
      acked_le := by
        rw [← opens.delivery]
        exact advances.acked_le
      sent := by
        intro target packet member
        rw [List.append_nil]
        rcases advances.sent target member with old | new
        · rw [opens.sent] at old
          rcases List.mem_append.mp old with older | answer
          · exact .inl older
          · split at answer
            · rw [deaf.recvId]
              exact .inr (truthful packet answer)
            · simp at answer
        · exact .inr new
      turn := by
        rcases elapses.closing with same | ⟨isOver, lingered⟩
        · exact .quiet deaf (opens.closing ▸ same)
        · exact .expired deaf (opens.closing ▸ lingered) isOver
      brought := by simp
      payloads := silent.symm
      prefixed := opens.prefixed.trans advances.outputs
      dials := .inl (advances.dials.trans opens.dials)
      ends := by
        intro reason member
        rcases advances.ends reason member with old | new
        · exact .inl (opens.ends reason old)
        · rcases expected reason new with rfl | ⟨rfl, ended⟩
          · exact .inr (.inr trivial)
          · exact .inr (.inr ended) }

private theorem accounts_relined (books : Books pushed before)
    (delivery : after.delivery = before.delivery)
    (current : after.current = before.current) (phase : after.phase = before.phase)
    (closing : after.closing = before.closing)
    (delivered : deliveredIn after.outputs = deliveredIn before.outputs)
    (prefixed : before.outputs <+: after.outputs)
    (dials : dialedIn after.outputs = dialedIn before.outputs ∨
      ∃ sessionId index, dialedIn after.outputs = dialedIn before.outputs ++
        [.rebind sessionId index after.delivery.lastRecvId])
    (ends : ∀ reason, .closed reason ∈ after.outputs → .closed reason ∈ before.outputs)
    (silent : ∀ line, packetsOn line after.actions = packetsOn line before.actions)
    (unaccepted : before.accepts input = []) : Accounts input pushed [] [] before after where
  books := by
    rw [List.append_nil]
    exact
      { keeps := delivery ▸ books.keeps
        inStep := by
          rw [delivery, current]
          exact books.inStep
        lingering := by
          rw [delivery, closing]
          exact books.lingering
        untouched := by
          rw [delivery, phase]
          exact books.untouched
        connected := by
          rw [current, phase]
          exact books.connected }
  acked_le := by
    rw [delivery]
    exact Nat.le_max_left _ _
  sent := by
    intro line packet member
    rw [silent] at member
    exact .inl member
  turn := .quiet ⟨by rw [delivery], delivered, fun isOver => phase.trans isOver⟩
    (closing ▸ CloseMachine.recorded_refl _)
  brought := by simp
  payloads := unaccepted.symm
  prefixed
  dials
  ends := fun reason member => .inl (ends reason member)

theorem accounts_bindPending (books : Books pushed session) (line : Line) :
    Accounts (.bindPending line) pushed [] [] session (session.bindPending line) := by
  unfold bindPending
  split
  · exact (moves_discard books rfl).accounts
  · rw [discard_eq]
    exact accounts_relined books rfl rfl rfl rfl rfl (List.prefix_refl _) (.inl rfl) (fun _ => id)
      (fun target => by simp) rfl

theorem Accounts.elapses {last : Session P}
    (accounts : Accounts input pushed [] [] before after) (deaf : Deaf before after)
    (same : after.closing = before.closing)
    (elapses : Elapses input.ack pushed pushed after last) :
    Accounts input pushed [] [] before last := by
  obtain ⟨reasons, advances, expected⟩ := elapses.advances
  exact
    { books := by
        rw [List.append_nil]
        exact advances.books
      acked_le := by
        have first := accounts.acked_le
        have second := advances.acked_le
        omega
      sent := by
        intro line packet member
        rw [List.append_nil]
        rcases advances.sent line member with old | new
        · rcases accounts.sent line packet old with older | fresh
          · exact .inl older
          · rw [List.append_nil] at fresh
            exact .inr (fresh.mono (List.prefix_refl _) advances.received)
        · exact .inr new
      turn := by
        rcases elapses.closing with noted | ⟨isOver, lingered⟩
        · exact .quiet (deaf.trans elapses.toDeaf) (same ▸ noted)
        · exact .expired (deaf.trans elapses.toDeaf) (same ▸ lingered) isOver
      brought := by simp
      payloads := accounts.payloads
      prefixed := accounts.prefixed.trans advances.outputs
      dials := by
        rw [advances.dials, elapses.recvId]
        exact accounts.dials
      ends := by
        intro reason member
        rcases advances.ends reason member with old | new
        · rcases accounts.ends reason old with older | forced | justified
          · exact .inl older
          · exact .inr (.inl forced)
          · refine .inr (.inr ?_)
            cases reason with
            | graceful =>
                rcases elapses.closing with noted | ⟨_, lingered⟩
                · exact noted.state.trans justified
                · exact lingered.state
            | _ => exact justified
        · rcases expected reason new with rfl | ⟨rfl, ended⟩
          · exact .inr (.inr trivial)
          · exact .inr (.inr ended) }

private theorem accounts_rebinds (books : Books pushed session) (running : session.phase ≠ .closed)
    (time : Duration) (clock : UInt32) (due : (session.liveness.tick time).2 = [.rebindDue]) :
    Accounts (.update time clock) pushed [] [] session (session.update time clock) := by
  have started : Accounts (.update time clock) pushed [] [] session
      (startRebind { session with liveness := (session.liveness.tick time).1 }) := by
    rw [startRebind_eq]
    exact accounts_relined books rfl rfl rfl rfl (by simp [deliveredIn])
      (List.prefix_append _ _) (.inr ⟨_, _, by rw [dialedIn_append]; rfl⟩)
      (fun reason member => by simpa using member) (fun line => by simp) rfl
  rcases update_rebindDue running time clock due with silent | told
  · rw [silent]
    exact started
  · rw [told]
    refine started.elapses ?_ ?_ ?_
    · rw [startRebind_eq]
      exact ⟨rfl, by simp [deliveredIn], id⟩
    · rw [startRebind_eq]
    · have keeping := started.books
      rw [List.append_nil] at keeping
      exact elapses_sendAck keeping

theorem Course.accounts (course : Course pushed before input fresh taken after)
    (books : Books pushed before) : Accounts input pushed fresh taken before after := by
  cases course with
  | moves moves => exact moves.accounts
  | binds greets binds =>
      apply binds.accounts rfl greets.running
      · intro packet member
        cases greets with
        | created _ _ => simp at member
        | rebound _ _ _ => simp at member
        | attachCreated _ =>
            rw [List.mem_singleton.mp member]
            trivial
        | attachRebind _ _ _ =>
            rw [List.mem_singleton.mp member]
            exact Nat.le_refl _
      · cases greets <;> rfl
  | rebinds running due => exact accounts_rebinds books running _ _ due
  | dials => exact accounts_bindPending books _

/-- Every input is accounted for. -/
theorem accounts_step (books : Books pushed session) (guarded : session.Guarded)
    (input : Input P) (room : pushed.length + session.assignedBy input < UInt32.size) :
    ∃ fresh taken, Accounts input pushed fresh taken session (session.step input) := by
  obtain ⟨fresh, taken, course⟩ := course_step books guarded input room
  exact ⟨fresh, taken, course.accounts books⟩

end

end Session

end ResumableSession
