import ResumableSession.Proofs.Session.Room

/-!
# What the application and the clock do

Sending, closing, ending at once, the loss of a line and a tick that asks for no
line: each of them is a turn that moves the session on.
-/

namespace ResumableSession

namespace CloseMachine

variable {P : Type}

/-- Wanting to close changes nothing, or it sends a Fin. -/
theorem localClose_cases (machine : CloseMachine) :
    machine.localClose = (machine, []) ∨
      .enter .closed ∉ machine.localClose.2 ∧ machine.localClose.1.state ≠ .timeWait ∧
        CloseAction.bodies (P := P) machine.localClose.2 = [.fin] := by
  unfold localClose
  split
  · exact .inr (by simp [CloseAction.body?])
  · exact .inr (by simp [CloseAction.body?])
  · exact .inl rfl

theorem few_localClose (machine : CloseMachine) :
    (CloseAction.bodies (P := P) machine.localClose.2).length < UInt32.size := by
  rcases machine.localClose_cases (P := P) with unchanged | ⟨_, _, bodies⟩
  · rw [unchanged]
    simp [UInt32.size]
  · rw [bodies]
    simp [UInt32.size]

end CloseMachine

namespace Session

variable {P : Type} {heard : Nat} {reasons : List CloseReason}
  {pushed : List (ReliableBody P)} {session after : Session P} {input : Input P}

theorem moves_still (books : Books pushed session) (silent : session.accepts input = []) :
    Moves input pushed [] [] session session where
  advances := ⟨[], by simpa using Advances.refl books, by simp⟩
  turn := .quiet (.refl session) (CloseMachine.recorded_refl _)
  brought := by simp
  payloads := silent.symm

theorem moves_quiet (advances : Advances input.ack [] pushed pushed session after)
    (deaf : Deaf session after) (same : after.closing = session.closing)
    (silent : session.accepts input = []) : Moves input pushed [] [] session after where
  advances := ⟨[], by simpa using advances, by simp⟩
  turn := .quiet deaf (same ▸ CloseMachine.recorded_refl _)
  brought := by simp
  payloads := silent.symm

theorem moves_terminate {last : Session P}
    (advances : Advances input.ack [] pushed pushed session last) {reason : CloseReason}
    (justified : Justified session input (last.terminate reason) reason)
    (deaf : Deaf session last) (same : last.closing = session.closing)
    (silent : session.accepts input = []) :
    Moves input pushed [] [] session (last.terminate reason) where
  advances := by
    refine ⟨[reason], ?_, by simpa using justified⟩
    rw [List.append_nil]
    exact (advances.mono (List.nil_subset _) (Nat.le_refl _)).trans
      (advances_terminate advances.books (by simp))
  turn := by
    refine .quiet (deaf.trans (deaf_terminate last reason)) ?_
    rw [terminate_eq, same]
    exact CloseMachine.recorded_refl _
  brought := by simp
  payloads := silent.symm

theorem moves_elapses (elapses : Elapses input.ack pushed pushed session after)
    (silent : session.accepts input = []) : Moves input pushed [] [] session after where
  advances := by
    obtain ⟨reasons, advances, expected⟩ := elapses.advances
    refine ⟨reasons, ?_, ?_⟩
    · rw [List.append_nil]
      exact advances
    · intro reason member
      rcases expected reason member with rfl | ⟨rfl, ended⟩
      · exact .inr trivial
      · exact .inr ended
  turn := by
    rcases elapses.closing with same | ⟨isOver, lingered⟩
    · exact .quiet elapses.toDeaf same
    · exact .expired elapses.toDeaf lingered isOver
  brought := by simp
  payloads := silent.symm

theorem moves_pushed (books : Books pushed session)
    (guarded : session.closing.finSent = false → session.closing.state ≠ .timeWait)
    {payload : P} (running : session.phase ≠ .closed) (unsent : session.closing.finSent = false)
    (room : pushed.length + ((session.pushReliable (.data payload)).1.delivery.lastSendId -
      session.delivery.lastSendId).toNat < UInt32.size) :
    Moves (.send payload) pushed [.data payload] [] session
      (session.pushReliable (.data payload)).1 := by
  have roomForOne : pushed.length + 1 < UInt32.size := by
    rw [lastSendId_pushReliable, UInt32.add_comm, UInt32.add_sub_cancel] at room
    exact room
  have untouched := untouched_pushReliable books roomForOne (.data payload)
  exact
    { advances := ⟨[], advances_pushReliable books roomForOne
        (fun timeWait => (guarded unsent timeWait).elim) _, by simp⟩
      turn := .sent untouched.toDeaf running unsent untouched.closing
      brought := by simp
      payloads := by simp [accepts, running, unsent, ReliableBody.payload?] }

theorem moves_closes (books : Books pushed session) (connected : session.phase = .connected)
    (room : pushed.length + ((session.applyClose session.closing.localClose).delivery.lastSendId -
      session.delivery.lastSendId).toNat < UInt32.size) :
    ∃ fresh, Moves .close pushed fresh [] session
      (session.applyClose session.closing.localClose) := by
  rcases session.closing.localClose_cases (P := P) with
    unchanged | ⟨quiet, entered, bodies⟩
  · refine ⟨[], ?_⟩
    rw [unchanged]
    exact moves_still books rfl
  · have takes : Takes (Input.close : Input P).ack session.closing.localClose.1
        session.closing.localClose.2 pushed session
        (session.applyClose session.closing.localClose) :=
      takes_applyClose_of_room books connected quiet (fun timeWait => (entered timeWait).elim)
        session.closing.few_localClose room
    refine ⟨CloseAction.bodies session.closing.localClose.2, ?_⟩
    exact
      { advances := ⟨[], takes.toAdvances, by simp⟩
        turn := .closes takes.toDeaf connected takes.recorded
        brought := by simp
        payloads := by
          rw [bodies]
          rfl }

theorem advances_forget (books : Books pushed session) :
    Advances heard reasons pushed pushed session { session with pending := none } := by
  refine Advances.still books ?_ rfl (fun timeWait => .inl timeWait) (fun _ => rfl)
  exact
    { Frame.refl session with
      pending := .inr rfl }

theorem advances_lineLost (books : Books pushed session) (bound : session.current.isSome) :
    Advances heard reasons pushed pushed session session.lineLost := by
  have connected : session.phase = .connected := books.connected bound
  refine Advances.still books ?_ rfl (fun timeWait => .inl timeWait) (fun _ => rfl)
  exact
    { Frame.refl session with
      current := .inr rfl
      alive := fun _ => rfl
      idle := by
        intro _ _ resting
        simp [lineLost, connected] at resting }

theorem moves_failed (books : Books pushed session) {line : LineId}
    (shaking : session.pending.map (·.id) = some line) (connected : session.phase = .connected) :
    Moves (.lineClosed line) pushed [] [] session
      { session with pending := none, liveness := session.liveness.rebindFailed } := by
  refine moves_quiet ?_ ⟨rfl, rfl, id⟩ rfl rfl
  refine Advances.still books ?_ rfl (fun timeWait => .inl timeWait) (fun _ => rfl)
  exact
    { Frame.refl session with
      pending := .inr rfl
      idle := by
        intro alone _ resting
        rcases resting with bound | connecting
        · simp [alone bound] at shaking
        · simp [connected] at connecting }

end Session

end ResumableSession
