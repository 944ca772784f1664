import ResumableSession.Proofs.Session.CloseActions

/-!
# What passes without a push

Time, acks and the rest of a history that is handed to a new line have this in
common: nothing is pushed and nothing is received, and the close machine stays
where it is unless it has lingered for long enough.
-/

namespace ResumableSession

variable {P : Type}

theorem CloseMachine.recorded_refl (machine : CloseMachine) : Recorded [] machine machine := by
  constructor <;> simp

namespace Session

/-- A session moves on without a push and without taking anything in; it ends only
because it was without a line or has lingered for long enough. -/
structure Elapses (heard : Nat) (pushed pushed' : List (ReliableBody P))
    (before after : Session P) : Prop extends Deaf before after where
  advances : ∃ reasons, Advances heard reasons pushed pushed' before after ∧
    ∀ reason ∈ reasons,
      reason = .offlineTimeout ∨ reason = .graceful ∧ after.closing.state = .closed
  closing : CloseMachine.Recorded [] before.closing after.closing ∨
    after.phase = .closed ∧ CloseMachine.Lingered before.closing after.closing

namespace Elapses

variable {heard : Nat} {pushed pushed' pushed'' : List (ReliableBody P)}
  {session first second third : Session P}

theorem books (elapses : Elapses heard pushed pushed' first second) :
    Books pushed' second := by
  obtain ⟨_, advances, _⟩ := elapses.advances
  exact advances.books

theorem refl (books : Books pushed session) : Elapses heard pushed pushed session session where
  toDeaf := .refl session
  advances := ⟨[], .refl books, by simp⟩
  closing := .inl (CloseMachine.recorded_refl _)

theorem trans (earlier : Elapses heard pushed pushed' first second)
    (later : Elapses heard pushed' pushed'' second third) :
    Elapses heard pushed pushed'' first third where
  toDeaf := earlier.toDeaf.trans later.toDeaf
  advances := by
    obtain ⟨reasons, advances, expected⟩ := earlier.advances
    obtain ⟨reasons', advances', expected'⟩ := later.advances
    refine ⟨reasons ++ reasons',
      (advances.mono (by simp) (Nat.le_refl _)).trans
        (advances'.mono (by simp) (Nat.le_refl _)), ?_⟩
    intro reason member
    rcases List.mem_append.mp member with old | new
    · rcases expected reason old with offline | ⟨graceful, ended⟩
      · exact .inl offline
      · refine .inr ⟨graceful, ?_⟩
        rcases later.closing with same | ⟨_, lingered⟩
        · exact same.state.trans ended
        · exact lingered.state
    · exact expected' reason new
  closing := by
    rcases earlier.closing with same | ⟨isOver, lingered⟩
    · rcases later.closing with same' | ⟨isOver', lingered'⟩
      · exact .inl (same.trans same')
      · exact .inr ⟨isOver', .of_recorded same lingered'⟩
    · rcases later.closing with same' | ⟨_, lingered'⟩
      · exact .inr ⟨later.isOver isOver, lingered.recorded same'⟩
      · have timeWait := lingered'.timeWait
        simp [lingered.state] at timeWait

end Elapses

end Session

end ResumableSession
