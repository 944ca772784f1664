import ResumableSession.Proofs.Session.Reception

/-!
# The ways through closing

Closing moves from state to state along ten edges.  Whatever the close machine
decides, the states that its actions enter lead from the state it was in to the
state it is in afterwards, and four courses cover all ways from the beginning.
-/

namespace ResumableSession

namespace CloseState

/-- The edges of closing. -/
inductive Next : CloseState → CloseState → Prop where
  | closes : Next .active .finWait1
  | answered : Next .finWait1 .finWait2
  | crossed : Next .finWait1 .closing
  | lingers : Next .finWait2 .timeWait
  | crossedLingers : Next .closing .timeWait
  | crossedEnds : Next .closing .closed
  | lingered : Next .timeWait .closed
  | isClosed : Next .active .closeWait
  | closesToo : Next .closeWait .lastAck
  | ends : Next .lastAck .closed

/-- A way from one state to another, with the states that are entered on it. -/
inductive Walk : CloseState → List CloseState → CloseState → Prop where
  | stay (state : CloseState) : Walk state [] state
  | enter {first second last : CloseState} {states : List CloseState}
      (next : Next first second) (walk : Walk second states last) :
      Walk first (second :: states) last

theorem Next.walk {first second : CloseState} (next : Next first second) :
    Walk first [second] second :=
  .enter next (.stay second)

theorem Walk.append {first middle last : CloseState} {states states' : List CloseState}
    (earlier : Walk first states middle) (later : Walk middle states' last) :
    Walk first (states ++ states') last := by
  induction earlier with
  | stay => exact later
  | enter next _ induction => exact .enter next (induction later)

theorem Walk.last_eq {first last : CloseState} {states : List CloseState}
    (walk : Walk first states last) : last = states.getLast?.getD first := by
  induction walk with
  | stay => rfl
  | enter next walk induction =>
      rw [induction, List.getLast?_cons]
      rfl

/-- The courses that closing can take: the local side closes first, with three ways
on from there, or the peer does. -/
def courses : List (List CloseState) :=
  [[.finWait1, .finWait2, .timeWait, .closed], [.finWait1, .closing, .timeWait, .closed],
    [.finWait1, .closing, .closed], [.closeWait, .lastAck, .closed]]

/-- What is left of the courses from a state on. -/
def ahead : CloseState → List (List CloseState)
  | .active => courses
  | .finWait1 =>
      [[.finWait2, .timeWait, .closed], [.closing, .timeWait, .closed], [.closing, .closed]]
  | .finWait2 => [[.timeWait, .closed]]
  | .closing => [[.timeWait, .closed], [.closed]]
  | .timeWait => [[.closed]]
  | .closeWait => [[.lastAck, .closed]]
  | .lastAck => [[.closed]]
  | .closed => [[]]

theorem Next.ahead {first second : CloseState} (next : Next first second)
    {course : List CloseState} (left : course ∈ second.ahead) :
    second :: course ∈ first.ahead := by
  cases next <;> revert course <;> decide

theorem Walk.prefix_ahead {first last : CloseState} {states : List CloseState}
    (walk : Walk first states last) : ∃ course ∈ first.ahead, states <+: course := by
  induction walk with
  | stay state =>
      have some : ∃ course, course ∈ state.ahead := by
        cases state <;> exact ⟨_, List.mem_cons_self⟩
      obtain ⟨course, left⟩ := some
      exact ⟨course, left, List.nil_prefix⟩
  | enter next walk induction =>
      obtain ⟨course, left, begins⟩ := induction
      exact ⟨_, next.ahead left, List.cons_prefix_cons.mpr ⟨rfl, begins⟩⟩

end CloseState

/-- The states that a list of actions enters. -/
def CloseAction.entered (actions : List CloseAction) : List CloseState :=
  actions.filterMap fun
    | .enter state => some state
    | _ => none

namespace CloseMachine

open CloseAction CloseState

/-! Each decision walks along the edges. -/

theorem localClose_walk (machine : CloseMachine) (unfinished : machine.state ≠ .closed) :
    Walk machine.state (entered machine.localClose.2) machine.localClose.1.state ∧
      machine.localClose.1.state ≠ .closed := by
  unfold localClose
  split
  · next active =>
      rw [active]
      exact ⟨Next.closes.walk, by simp⟩
  · next waiting =>
      rw [waiting]
      exact ⟨Next.closesToo.walk, by simp⟩
  · exact ⟨.stay _, unfinished⟩

private theorem entered_owedFinAck (machine : CloseMachine) (actions : List CloseAction) :
    entered (machine.owedFinAck ++ actions) = entered actions := by
  unfold owedFinAck
  split <;> rfl

theorem onFin_walk {machine next : CloseMachine} {actions : List CloseAction}
    (decided : machine.onFin = .ok (next, actions)) :
    Walk machine.state (entered actions) next.state ∧ next.state ≠ .closed := by
  unfold onFin at decided
  split at decided <;> simp only [Except.ok.injEq, Prod.mk.injEq, reduceCtorEq] at decided
  all_goals
    obtain ⟨rfl, rfl⟩ := decided
    rw [entered_owedFinAck]
  · next active =>
      rw [active]
      exact ⟨.enter .isClosed Next.closesToo.walk, by simp⟩
  · next waiting =>
      rw [waiting]
      exact ⟨Next.crossed.walk, by simp⟩
  · next waiting =>
      rw [waiting]
      exact ⟨Next.lingers.walk, by simp⟩

theorem onFinAck_next {machine next : CloseMachine} {actions : List CloseAction}
    (decided : machine.onFinAck = .ok (next, actions)) : Next machine.state next.state := by
  unfold onFinAck at decided
  split at decided <;> simp only [Except.ok.injEq, Prod.mk.injEq, reduceCtorEq] at decided
  · next waiting =>
      obtain ⟨rfl, -⟩ := decided
      rw [waiting]
      exact .answered
  · next waiting =>
      obtain ⟨rfl, -⟩ := decided
      rw [waiting]
      cases machine.peerFinAcked
      · exact .crossedLingers
      · exact .crossedEnds
  · next waiting =>
      obtain ⟨rfl, -⟩ := decided
      rw [waiting]
      exact .ends

theorem Lingered.next {before after : CloseMachine} (lingered : Lingered before after) :
    Next before.state after.state := by
  rw [lingered.timeWait, lingered.state]
  exact .lingered

end CloseMachine

end ResumableSession
