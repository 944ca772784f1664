import ResumableSession.Proofs.Session.Operations

/-!
# Ticks

A tick either asks for a line, and then does nothing else, or it leaves the
rebind attempts alone.  What else becomes due ends the session, drops its line
or sends something on it.
-/

namespace ResumableSession

namespace Liveness

variable (liveness : Liveness) (time : Duration)

/-- The timers of rebind attempts are as they were. -/
structure SamePace (before after : Liveness) : Prop where
  limits : after.rebindLimits = before.rebindLimits
  rebind : after.rebind = before.rebind
  cooltime : after.cooltime = before.cooltime

private theorem samePace_tickAlive : SamePace liveness (liveness.tickAlive time).1 := by
  unfold tickAlive
  simp only
  split <;> split <;> exact ⟨rfl, rfl, rfl⟩

private theorem samePace_tickTimeWait : SamePace liveness (liveness.tickTimeWait time).1 := by
  unfold tickTimeWait
  simp only
  split <;> exact ⟨rfl, rfl, rfl⟩

private theorem quiet_tickAlive : .rebindDue ∉ (liveness.tickAlive time).2 := by
  unfold tickAlive
  simp only
  split <;> split <;> simp

private theorem quiet_tickTimeWait : .rebindDue ∉ (liveness.tickTimeWait time).2 := by
  unfold tickTimeWait
  simp only
  split <;> simp

/-- No attempt is due while none is under way and none is waited for; otherwise
the pace and the limits stay as they were set. -/
theorem tickRebind_cases :
    (liveness.tickRebind time).1.rebindLimits = liveness.rebindLimits ∧
      (liveness.rebindLimits = none → (liveness.tickRebind time).2 = false) ∧
      (liveness.rebind = .stopped ∧ liveness.cooltime = .stopped →
        (liveness.tickRebind time).2 = false ∧
          (liveness.tickRebind time).1.rebind = .stopped ∧
          (liveness.tickRebind time).1.cooltime = .stopped) := by
  unfold tickRebind
  split
  · next unpaced => exact ⟨rfl, fun _ => rfl, fun resting => ⟨rfl, resting⟩⟩
  · next limits paced =>
      simp only
      split
      · next due =>
          refine ⟨rfl, by simp [paced], ?_⟩
          rintro ⟨rebind, cooltime⟩
          simp [rebind, cooltime, Timer.advance, Timer.reached] at due
      · refine ⟨rfl, by simp, ?_⟩
        rintro ⟨rebind, cooltime⟩
        simp [rebind, cooltime, Timer.advance]

/-- A tick asks for a line and for nothing else, or it lets attempts rest. -/
theorem tick_cases :
    (liveness.tick time).1.rebindLimits = liveness.rebindLimits ∧
      ((liveness.tick time).2 = [.rebindDue] ∧ liveness.rebindLimits.isSome ∧
          ¬(liveness.rebind = .stopped ∧ liveness.cooltime = .stopped) ∨
        .rebindDue ∉ (liveness.tick time).2 ∧
          (liveness.rebind = .stopped ∧ liveness.cooltime = .stopped →
            (liveness.tick time).1.rebind = .stopped ∧
              (liveness.tick time).1.cooltime = .stopped)) := by
  unfold tick
  simp only
  split
  · exact ⟨rfl, .inr ⟨by simp, id⟩⟩
  · obtain ⟨limits, unpaced, resting⟩ :=
      tickRebind_cases { liveness with offline := liveness.offline.advance time } time
    split
    · next moved due =>
        rw [due] at limits unpaced resting
        refine ⟨limits, .inl ⟨rfl, ?_, ?_⟩⟩
        · cases paced : liveness.rebindLimits with
          | none => exact absurd (unpaced paced) (by simp)
          | some _ => rfl
        · intro atRest
          exact absurd (resting atRest).1 (by simp)
    · next moved idle =>
        rw [idle] at limits resting
        have probed := samePace_tickAlive moved time
        have lingered := samePace_tickTimeWait (moved.tickAlive time).1 time
        refine ⟨?_, .inr ⟨?_, ?_⟩⟩
        · exact lingered.limits.trans (probed.limits.trans limits)
        · have none := quiet_tickAlive moved time
          have none' := quiet_tickTimeWait (moved.tickAlive time).1 time
          simp [none, none']
        · intro atRest
          obtain ⟨-, rebind, cooltime⟩ := resting atRest
          exact ⟨lingered.rebind.trans (probed.rebind.trans rebind),
            lingered.cooltime.trans (probed.cooltime.trans cooltime)⟩

end Liveness

namespace CloseMachine

theorem timeWaitExpired_cases (machine : CloseMachine) :
    machine.timeWaitExpired = (machine, []) ∨
      ∃ closing, Lingered machine closing ∧
        machine.timeWaitExpired = (closing, [.enter .closed]) := by
  unfold timeWaitExpired
  split
  · next timeWait =>
      refine .inr ⟨_, ?_, rfl⟩
      exact ⟨timeWait, rfl, .rfl, .rfl⟩
  · exact .inl rfl

end CloseMachine

namespace Session

variable {P : Type} {heard : Nat} {pushed : List (ReliableBody P)} {session : Session P}

private theorem elapses_onDue (books : Books pushed session) (clock : UInt32)
    {event : LivenessEvent}
    (undialed : event ≠ .rebindDue) :
    Elapses heard pushed pushed session (onDue clock session event) := by
  unfold onDue
  split
  · exact .refl books
  · next running =>
      cases event with
      | rebindDue => exact (undialed rfl).elim
      | offlineExpired =>
          exact
            { toDeaf := deaf_terminate _ _
              advances := ⟨[.offlineTimeout], advances_terminate books (by simp), by simp⟩
              closing := .inl (by
                simp only [terminate_eq]
                exact CloseMachine.recorded_refl _) }
      | sendPing =>
          have advances : Advances heard [] pushed pushed session (session.sendPing clock) :=
            advances_sendPing books clock
          simp only [sendPing_eq] at advances ⊢
          exact
            { toDeaf := ⟨rfl, rfl, id⟩
              advances := ⟨[], advances, by simp⟩
              closing := .inl (CloseMachine.recorded_refl _) }
      | aliveWaitExpired =>
          exact
            { toDeaf := deaf_dropLine session
              advances := ⟨[], advances_dropLine books, by simp⟩
              closing := .inl (by
                simp only [dropLine_eq]
                split <;> exact CloseMachine.recorded_refl _) }
      | timeWaitExpired =>
          simp only
          rcases session.closing.timeWaitExpired_cases with unmoved | ⟨closing, lingered, ends⟩
          · rw [unmoved]
            exact .refl books
          · rw [ends, applyClose_enter_closed running]
            exact
              { toDeaf := deaf_endGracefully _ _
                advances := ⟨[.graceful], advances_endGracefully books lingered.state, by
                  simp [endGracefully_eq, lingered.state]⟩
                closing := .inr ⟨by simp [endGracefully_eq, terminate_eq], by
                  simpa only [endGracefully_eq] using lingered⟩ }

private theorem elapses_foldl_onDue (clock : UInt32) (due : List LivenessEvent)
    (undialed : .rebindDue ∉ due) :
    ∀ {session : Session P}, Books pushed session →
      Elapses heard pushed pushed session (due.foldl (onDue clock) session) := by
  induction due with
  | nil => exact fun books => .refl books
  | cons event due induction =>
      intro session books
      rw [List.mem_cons, not_or] at undialed
      have head : Elapses heard pushed pushed session (onDue clock session event) :=
        elapses_onDue books clock (Ne.symm undialed.1)
      exact head.trans (induction undialed.2 head.books)

theorem elapses_sendAck (books : Books pushed session) :
    Elapses heard pushed pushed session session.sendAck where
  toDeaf := deaf_sendAck session
  advances := ⟨[], advances_sendAck books, by simp⟩
  closing := .inl ((untouched_sendAck session).closing ▸ CloseMachine.recorded_refl _)

private theorem elapses_update (books : Books pushed session) (time : Duration) (clock : UInt32)
    (undialed : .rebindDue ∉ (session.liveness.tick time).2) :
    Elapses heard pushed pushed session (session.update time clock) := by
  obtain ⟨limits, ⟨due, _⟩ | ⟨_, resting⟩⟩ := session.liveness.tick_cases time
  · simp [due] at undialed
  · unfold update
    split
    · exact .refl books
    · have moved : Elapses heard pushed pushed session
          { session with liveness := (session.liveness.tick time).1 } :=
        { toDeaf := ⟨rfl, rfl, id⟩
          advances := ⟨[], advances_liveness books limits resting, by simp⟩
          closing := .inl (CloseMachine.recorded_refl _) }
      have acted := moved.trans (elapses_foldl_onDue clock _ undialed moved.books)
      simp only
      split
      · exact acted.trans (elapses_sendAck acted.books)
      · exact acted

theorem moves_update (books : Books pushed session) (time : Duration) (clock : UInt32)
    (undialed : .rebindDue ∉ (session.liveness.tick time).2) :
    Moves (.update time clock) pushed [] [] session (session.update time clock) :=
  moves_elapses (elapses_update books time clock undialed) rfl

/-- A tick that asks for a line gives up the attempt under way and starts the
next one. -/
theorem update_rebindDue (running : session.phase ≠ .closed) (time : Duration)
    (clock : UInt32) (due : (session.liveness.tick time).2 = [.rebindDue]) :
    session.update time clock =
        startRebind { session with liveness := (session.liveness.tick time).1 } ∨
      session.update time clock =
        sendAck (startRebind { session with liveness := (session.liveness.tick time).1 }) := by
  unfold update
  rw [if_neg running]
  simp only [due, List.foldl_cons, List.foldl_nil, onDue, if_neg running]
  split
  · exact .inr rfl
  · exact .inl rfl

end Session

end ResumableSession
