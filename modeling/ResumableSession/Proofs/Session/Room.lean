import ResumableSession.Proofs.Session.InputEffects

/-!
# Room for the ids that an input gives out

How many ids an input gives out is read off the counter before and after it.
The bodies of the close machine's actions are few, so if the difference says
that there was room, there was room for each of them in turn.
-/

namespace ResumableSession

namespace Session

variable {P : Type}

theorem lastSendId_flush (session : Session P) :
    session.flush.delivery.lastSendId = session.delivery.lastSendId := by
  unfold flush
  split
  · rfl
  · next bound =>
      unfold Delivery.flush
      split
      · next delivery packets flushed =>
          split at flushed
          · simp at flushed
          · simp only [Except.ok.injEq, Prod.mk.injEq] at flushed
            obtain ⟨rfl, -⟩ := flushed
            rw [foldl_sendOnCurrent]
      · rw [terminate_eq]

theorem lastSendId_pushReliable (session : Session P) (body : ReliableBody P) :
    (session.pushReliable body).1.delivery.lastSendId = session.delivery.lastSendId + 1 := by
  have unfolded : (session.pushReliable body).1 =
      flush { session with delivery := (session.delivery.push body).1 } := rfl
  rw [unfolded, lastSendId_flush]
  rfl

private theorem lastSendId_applyAction (session : Session P) (running : session.phase ≠ .closed)
    (action : CloseAction) :
    (session.applyAction action).delivery.lastSendId =
      session.delivery.lastSendId +
        UInt32.ofNat (CloseAction.bodies (P := P) [action]).length := by
  unfold applyAction
  rw [if_neg running]
  cases action with
  | sendFin => exact lastSendId_pushReliable session .fin
  | sendFinAck => exact lastSendId_pushReliable session .finAck
  | sendAck =>
      rw [sendAck_eq]
      cases session.current <;> simp [Delivery.markAckSent, CloseAction.body?]
  | enter state =>
      cases state <;> simp [emit, terminate_eq, CloseAction.body?]

theorem lastSendId_foldl_applyAction (actions : List CloseAction) :
    ∀ session : Session P, ∃ given ≤ (CloseAction.bodies (P := P) actions).length,
      (actions.foldl applyAction session).delivery.lastSendId =
        session.delivery.lastSendId + UInt32.ofNat given := by
  induction actions with
  | nil => exact fun session => ⟨0, Nat.le_refl _, by simp⟩
  | cons action actions induction =>
      intro session
      obtain ⟨given, bound, counted⟩ := induction (session.applyAction action)
      rw [List.foldl_cons, counted, CloseAction.bodies_cons, List.length_append]
      by_cases isOver : session.phase = .closed
      · refine ⟨given, by omega, ?_⟩
        simp [applyAction, isOver]
      · refine ⟨(CloseAction.bodies (P := P) [action]).length + given, ?_, ?_⟩
        · simpa using bound
        · rw [lastSendId_applyAction session isOver, UInt32.ofNat_add, UInt32.add_assoc]

/-- If the ids that were given out fit, there was room for every body. -/
theorem room_foldl_applyAction (actions : List CloseAction) (quiet : .enter .closed ∉ actions) :
    ∀ {pushed : List (ReliableBody P)} {session : Session P}, Books pushed session →
      session.phase = .connected →
      (session.closing.state = .timeWait → session.current.isSome) →
      (CloseAction.bodies (P := P) actions).length < UInt32.size →
      pushed.length + ((actions.foldl applyAction session).delivery.lastSendId -
        session.delivery.lastSendId).toNat < UInt32.size →
      pushed.length + (CloseAction.bodies (P := P) actions).length < UInt32.size := by
  induction actions with
  | nil =>
      intro pushed session _ _ _ _ room
      simpa using room
  | cons action actions induction =>
      intro pushed session books connected lingering few room
      rw [List.mem_cons, not_or] at quiet
      have running : session.phase ≠ .closed := by simp [connected]
      have first := lastSendId_applyAction session running action
      obtain ⟨given, bound, counted⟩ :=
        lastSendId_foldl_applyAction actions (session.applyAction action)
      have one : (CloseAction.bodies (P := P) [action]).length ≤ 1 := by
        cases action <;> simp [CloseAction.body?]
      have split : (CloseAction.bodies (P := P) (action :: actions)).length =
          (CloseAction.bodies (P := P) [action]).length +
            (CloseAction.bodies (P := P) actions).length := by
        simp
      rw [split] at few ⊢
      have all : ((action :: actions).foldl applyAction session).delivery.lastSendId -
          session.delivery.lastSendId =
            UInt32.ofNat ((CloseAction.bodies (P := P) [action]).length + given) := by
        rw [List.foldl_cons, counted, first, UInt32.ofNat_add, UInt32.add_assoc,
          UInt32.add_comm, UInt32.add_sub_cancel]
      have rest : (actions.foldl applyAction (session.applyAction action)).delivery.lastSendId -
          (session.applyAction action).delivery.lastSendId = UInt32.ofNat given := by
        rw [counted, UInt32.add_comm, UInt32.add_sub_cancel]
      rw [all, UInt32.toNat_ofNat_of_lt' (by omega)] at room
      have taken : Takes 0 session.closing [action] pushed session
          (session.applyAction action) :=
        takes_applyAction books connected (Ne.symm quiet.1) (by omega) lingering
      have later := induction quiet.2 taken.books taken.open_
        (by
          rw [taken.recorded.state, taken.stays]
          exact lingering)
        (by omega)
        (by
          rw [rest, UInt32.toNat_ofNat_of_lt' (by omega), List.length_append]
          omega)
      rw [List.length_append] at later
      omega

/-- A decision that does not end the session is carried out in full if the ids
that it gave out fit. -/
theorem takes_applyClose_of_room {heard : Nat} {pushed : List (ReliableBody P)}
    {session : Session P} (books : Books pushed session)
    (connected : session.phase = .connected) {machine : CloseMachine}
    {actions : List CloseAction} (quiet : .enter .closed ∉ actions)
    (lingering : machine.state = .timeWait → session.current.isSome)
    (few : (CloseAction.bodies (P := P) actions).length < UInt32.size)
    (room : pushed.length + ((session.applyClose (machine, actions)).delivery.lastSendId -
      session.delivery.lastSendId).toNat < UInt32.size) :
    Takes heard machine actions pushed session (session.applyClose (machine, actions)) := by
  have moved : Advances heard [] pushed pushed session { session with closing := machine } :=
    advances_closing books (fun timeWait => .inr (lingering timeWait))
  have fits : pushed.length + (CloseAction.bodies (P := P) actions).length < UInt32.size :=
    room_foldl_applyAction actions quiet moved.books connected lingering few room
  exact takes_applyClose books connected quiet fits lingering

end Session

end ResumableSession
