import ResumableSession.Proofs.Session.StepAdvances

/-!
# Taking the actions of the close machine

The machine decides in one go and its actions are taken one by one.  As long as
they do not end the session, they push the bodies they stand for, record that
they did, and receive nothing.  The only other decisions end the session
gracefully.
-/

namespace ResumableSession

variable {P : Type}

/-- The body that an action pushes. -/
def CloseAction.body? : CloseAction → Option (ReliableBody P)
  | .sendFin => some .fin
  | .sendFinAck => some .finAck
  | _ => none

/-- The bodies that a list of actions pushes. -/
def CloseAction.bodies (actions : List CloseAction) : List (ReliableBody P) :=
  actions.filterMap body?

@[simp] theorem CloseAction.bodies_nil : bodies (P := P) [] = [] := rfl

@[simp] theorem CloseAction.bodies_cons (action : CloseAction) (actions : List CloseAction) :
    bodies (P := P) (action :: actions) = action.body?.toList ++ bodies actions := by
  cases action <;> rfl

/-- The machine knows which of the actions were taken, and is in the same state. -/
structure CloseMachine.Recorded (actions : List CloseAction)
    (before after : CloseMachine) : Prop where
  state : after.state = before.state
  fin : after.finId.isSome ↔ before.finId.isSome ∨ .sendFin ∈ actions
  finAck : after.finAckId.isSome ↔ before.finAckId.isSome ∨ .sendFinAck ∈ actions

theorem CloseMachine.Recorded.cons {action : CloseAction} {actions : List CloseAction}
    {first second third : CloseMachine} (head : Recorded [action] first second)
    (tail : Recorded actions second third) : Recorded (action :: actions) first third where
  state := tail.state.trans head.state
  fin := by
    rw [tail.fin, head.fin]
    simp [or_assoc]
  finAck := by
    rw [tail.finAck, head.finAck]
    simp [or_assoc]

theorem CloseMachine.Recorded.trans {first second third : CloseMachine}
    (earlier : Recorded [] first second) (later : Recorded [] second third) :
    Recorded [] first third where
  state := later.state.trans earlier.state
  fin := by simp [later.fin, earlier.fin]
  finAck := by simp [later.finAck, earlier.finAck]

/-- The machine has lingered for long enough. -/
structure CloseMachine.Lingered (before after : CloseMachine) : Prop where
  timeWait : before.state = .timeWait
  state : after.state = .closed
  fin : after.finId.isSome ↔ before.finId.isSome
  finAck : after.finAckId.isSome ↔ before.finAckId.isSome

theorem CloseMachine.Lingered.of_recorded {first second third : CloseMachine}
    (earlier : Recorded [] first second) (later : Lingered second third) :
    Lingered first third where
  timeWait := earlier.state ▸ later.timeWait
  state := later.state
  fin := by simp [later.fin, earlier.fin]
  finAck := by simp [later.finAck, earlier.finAck]

theorem CloseMachine.Lingered.recorded {first second third : CloseMachine}
    (earlier : Lingered first second) (later : Recorded [] second third) :
    Lingered first third where
  timeWait := earlier.timeWait
  state := later.state.trans earlier.state
  fin := by simp [later.fin, earlier.fin]
  finAck := by simp [later.finAck, earlier.finAck]

namespace Session

/-- Nothing is received in between, and an ended session stays ended. -/
structure Deaf (before after : Session P) : Prop where
  recvId : after.delivery.lastRecvId = before.delivery.lastRecvId
  delivered : deliveredIn after.outputs = deliveredIn before.outputs
  isOver : before.phase = .closed → after.phase = .closed

namespace Deaf

variable {first second third : Session P}

theorem refl (session : Session P) : Deaf session session := ⟨rfl, rfl, id⟩

theorem trans (earlier : Deaf first second) (later : Deaf second third) : Deaf first third :=
  ⟨later.recvId.trans earlier.recvId, later.delivered.trans earlier.delivered,
    later.isOver ∘ earlier.isOver⟩

end Deaf

section

variable {heard : Nat} {pushed : List (ReliableBody P)} {session : Session P}

theorem deaf_terminate (session : Session P) (reason : CloseReason) :
    Deaf session (session.terminate reason) := by
  rw [terminate_eq]
  exact ⟨rfl, by simp [deliveredIn], fun _ => rfl⟩

theorem deaf_dropLine (session : Session P) : Deaf session session.dropLine := by
  rw [dropLine_eq]
  split
  · exact .refl _
  · exact ⟨rfl, rfl, id⟩

theorem deaf_sendAck (session : Session P) : Deaf session session.sendAck := by
  rw [sendAck_eq]
  refine ⟨?_, rfl, id⟩
  split <;> rfl

/-- What a push leaves alone. -/
structure Untouched (before after : Session P) : Prop extends Deaf before after where
  phase : after.phase = before.phase
  current : after.current = before.current
  closing : after.closing = before.closing

theorem untouched_pushReliable (books : Books pushed session)
    (room : pushed.length + 1 < UInt32.size) (body : ReliableBody P) :
    Untouched session (session.pushReliable body).1 := by
  have keeps := books.keeps.push room body
  have unfolded : (session.pushReliable body).1 =
      flush { session with delivery := (session.delivery.push body).1 } := rfl
  rw [unfolded, flush_eq _ keeps.inOrder]
  refine ⟨⟨?_, rfl, id⟩, rfl, rfl, rfl⟩
  split <;> rfl

theorem untouched_sendAck (session : Session P) : Untouched session session.sendAck := by
  have deaf := deaf_sendAck session
  rw [sendAck_eq] at deaf ⊢
  exact ⟨deaf, rfl, rfl, rfl⟩

/-- What holds between a session and a later one in between which actions of the
close machine were taken that do not end it; `machine` is the machine that gave
them. -/
structure Takes (heard : Nat) (machine : CloseMachine) (actions : List CloseAction)
    (pushed : List (ReliableBody P)) (before after : Session P) : Prop
    extends Advances heard [] pushed (pushed ++ CloseAction.bodies actions) before after,
      Deaf before after where
  open_ : after.phase = .connected
  stays : after.current = before.current
  recorded : CloseMachine.Recorded actions machine after.closing

theorem takes_applyAction (books : Books pushed session) (connected : session.phase = .connected)
    {action : CloseAction} (quiet : action ≠ .enter .closed)
    (room : pushed.length + (CloseAction.bodies (P := P) [action]).length < UInt32.size)
    (lingering : session.closing.state = .timeWait → session.current.isSome) :
    Takes heard session.closing [action] pushed session (session.applyAction action) := by
  have running : session.phase ≠ .closed := by simp [connected]
  unfold applyAction
  rw [if_neg running]
  cases action with
  | sendFin =>
      have pushes : Advances heard [] pushed (pushed ++ [.fin]) session
          (session.pushReliable .fin).1 :=
        advances_pushReliable books room lingering .fin
      have untouched := untouched_pushReliable books room .fin
      have recorded : Advances heard [] (pushed ++ [.fin]) (pushed ++ [.fin])
          (session.pushReliable .fin).1
          { (session.pushReliable .fin).1 with
            closing := (session.pushReliable .fin).1.closing.recordFin
              (session.pushReliable .fin).2 } :=
        advances_closing pushes.books (fun timeWait => .inl timeWait)
      exact
        { toAdvances := pushes.trans recorded
          toDeaf := ⟨untouched.recvId, untouched.delivered, untouched.isOver⟩
          open_ := untouched.phase.trans connected
          stays := untouched.current
          recorded := by
            constructor <;> simp [CloseMachine.recordFin, untouched.closing] }
  | sendFinAck =>
      have pushes : Advances heard [] pushed (pushed ++ [.finAck]) session
          (session.pushReliable .finAck).1 :=
        advances_pushReliable books room lingering .finAck
      have untouched := untouched_pushReliable books room .finAck
      have recorded : Advances heard [] (pushed ++ [.finAck]) (pushed ++ [.finAck])
          (session.pushReliable .finAck).1
          { (session.pushReliable .finAck).1 with
            closing := (session.pushReliable .finAck).1.closing.recordFinAck
              (session.pushReliable .finAck).2 } :=
        advances_closing pushes.books (fun timeWait => .inl timeWait)
      exact
        { toAdvances := pushes.trans recorded
          toDeaf := ⟨untouched.recvId, untouched.delivered, untouched.isOver⟩
          open_ := untouched.phase.trans connected
          stays := untouched.current
          recorded := by
            constructor <;> simp [CloseMachine.recordFinAck, untouched.closing] }
  | sendAck =>
      have untouched := untouched_sendAck session
      exact
        { toAdvances := by
            simpa [CloseAction.body?] using advances_sendAck books
          toDeaf := untouched.toDeaf
          open_ := untouched.phase.trans connected
          stays := untouched.current
          recorded := by
            constructor <;> simp [untouched.closing] }
  | enter state =>
      have told : Advances heard [] pushed pushed session
          (session.emit (.closeStateChanged state)) :=
        advances_emit books (by simp) rfl
      have recorded : CloseMachine.Recorded [.enter state] session.closing session.closing := by
        constructor <;> simp
      cases state with
      | closed => exact (quiet rfl).elim
      | timeWait =>
          have lingers : Advances heard [] pushed pushed
              (session.emit (.closeStateChanged .timeWait))
              { session.emit (.closeStateChanged .timeWait) with
                liveness :=
                  (session.emit (.closeStateChanged .timeWait)).liveness.timeWaitEntered } :=
            advances_liveness told.books rfl id
          exact
            { toAdvances := by
                simpa [CloseAction.body?] using told.trans lingers
              toDeaf := ⟨rfl, by simp [emit, deliveredIn], id⟩
              open_ := connected
              stays := rfl
              recorded }
      | _ =>
          exact
            { toAdvances := by simpa [CloseAction.body?] using told
              toDeaf := ⟨rfl, by simp [emit, deliveredIn], id⟩
              open_ := connected
              stays := rfl
              recorded }

private theorem takes_foldl_applyAction (actions : List CloseAction)
    (quiet : .enter .closed ∉ actions) :
    ∀ {pushed : List (ReliableBody P)} {session : Session P}, Books pushed session →
      session.phase = .connected →
      pushed.length + (CloseAction.bodies (P := P) actions).length < UInt32.size →
      (session.closing.state = .timeWait → session.current.isSome) →
      Takes heard session.closing actions pushed session (actions.foldl applyAction session) := by
  induction actions with
  | nil =>
      intro pushed session books connected _ _
      exact
        { toAdvances := by simpa using Advances.refl books
          toDeaf := .refl session
          open_ := connected
          stays := rfl
          recorded := by constructor <;> simp }
  | cons action actions induction =>
      intro pushed session books connected room lingering
      rw [List.mem_cons, not_or] at quiet
      have split : CloseAction.bodies (P := P) (action :: actions) =
          CloseAction.bodies [action] ++ CloseAction.bodies actions :=
        List.filterMap_append (l := [action])
      rw [split, List.length_append] at room
      have head : Takes heard session.closing [action] pushed session
          (session.applyAction action) :=
        takes_applyAction books connected (Ne.symm quiet.1) (by omega) lingering
      have tail := induction quiet.2 head.books head.open_
        (by rw [List.length_append]; omega)
        (by
          rw [head.recorded.state, head.stays]
          exact lingering)
      rw [List.foldl_cons]
      exact
        { toAdvances := by
            rw [split, ← List.append_assoc]
            exact head.toAdvances.trans tail.toAdvances
          toDeaf := head.toDeaf.trans tail.toDeaf
          open_ := tail.open_
          stays := tail.stays.trans head.stays
          recorded := head.recorded.cons tail.recorded }

/-- A decision that does not end the session is carried out in full. -/
theorem takes_applyClose (books : Books pushed session) (connected : session.phase = .connected)
    {machine : CloseMachine} {actions : List CloseAction} (quiet : .enter .closed ∉ actions)
    (room : pushed.length + (CloseAction.bodies (P := P) actions).length < UInt32.size)
    (lingering : machine.state = .timeWait → session.current.isSome) :
    Takes heard machine actions pushed session (session.applyClose (machine, actions)) := by
  have moved : Advances heard [] pushed pushed session { session with closing := machine } :=
    advances_closing books (fun timeWait => .inr (lingering timeWait))
  have takes : Takes heard machine actions pushed { session with closing := machine }
      (session.applyClose (machine, actions)) :=
    takes_foldl_applyAction actions quiet moved.books connected room lingering
  exact
    { toAdvances := moved.trans takes.toAdvances
      toDeaf := ⟨takes.recvId, takes.delivered, takes.isOver⟩
      open_ := takes.open_
      stays := takes.stays
      recorded := takes.recorded }

/-- The session after a graceful end. -/
def endGracefully (session : Session P) (machine : CloseMachine) : Session P :=
  ({ session with closing := machine }.emit (.closeStateChanged .closed)).terminate .graceful

theorem endGracefully_eq (session : Session P) (machine : CloseMachine) :
    session.endGracefully machine =
      { session.terminate .graceful with
        closing := machine
        outputs := session.outputs ++ [.closeStateChanged .closed, .closed .graceful] } := by
  simp [endGracefully, terminate_eq, emit]

theorem advances_endGracefully (books : Books pushed session) {machine : CloseMachine}
    (ended : machine.state = .closed) :
    Advances heard [.graceful] pushed pushed session (session.endGracefully machine) := by
  have moved : Advances heard [.graceful] pushed pushed session
      { session with closing := machine } :=
    advances_closing books (by simp [ended])
  have told : Advances heard [.graceful] pushed pushed { session with closing := machine }
      ({ session with closing := machine }.emit (.closeStateChanged .closed)) :=
    advances_emit moved.books (by simp) rfl
  exact moved.trans (told.trans (advances_terminate told.books (by simp)))

theorem deaf_endGracefully (session : Session P) (machine : CloseMachine) :
    Deaf session (session.endGracefully machine) := by
  rw [endGracefully_eq, terminate_eq]
  exact ⟨rfl, by simp [deliveredIn], fun _ => rfl⟩

theorem applyClose_enter_closed (running : session.phase ≠ .closed) (machine : CloseMachine) :
    session.applyClose (machine, [.enter .closed]) = session.endGracefully machine := by
  simp [applyClose, applyAction, running, endGracefully]

theorem applyClose_sendAck_enter_closed (running : session.phase ≠ .closed)
    (machine : CloseMachine) :
    session.applyClose (machine, [.sendAck, .enter .closed]) =
      session.sendAck.endGracefully machine := by
  simp [applyClose, applyAction, running, sendAck_eq, endGracefully]

end

end Session

end ResumableSession
