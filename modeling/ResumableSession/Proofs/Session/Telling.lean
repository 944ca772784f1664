import ResumableSession.Proofs.Session.Bookkeeping
import ResumableSession.Proofs.Session.ClosePaths

/-!
# What a session tells its owner

A session tells nothing before it is created, then its creation, then what happens,
and at last its end.  The states of closing that it tells are a way along the edges
of closing.  One lemma for each part of a step says that it goes on like this.
-/

namespace ResumableSession

variable {P : Type}

/-- The states of closing that were told, oldest first. -/
def statesIn (outputs : List (Output P)) : List CloseState :=
  outputs.filterMap fun
    | .closeStateChanged state => some state
    | _ => none

theorem statesIn_append (earlier later : List (Output P)) :
    statesIn (earlier ++ later) = statesIn earlier ++ statesIn later :=
  List.filterMap_append

private theorem statesIn_map (states : List CloseState) :
    statesIn (states.map (.closeStateChanged : CloseState → Output P)) = states := by
  rw [statesIn, List.filterMap_map]
  exact List.filterMap_some

/-- Whether an output is neither the first nor the last one. -/
def Output.isPlain : Output P → Bool
  | .connected _ | .closed _ => false
  | _ => true

namespace Session

/-- The outputs of a session that has not ended: none, or its creation and then plain
ones, in which closing has come to `state`. -/
structure Talks (outputs : List (Output P)) (state : CloseState) : Prop where
  opening : outputs = [] ∨
    ∃ sessionId later, outputs = .connected sessionId :: later ∧ ∀ output ∈ later, output.isPlain
  walk : CloseState.Walk .active (statesIn outputs) state

theorem Talks.append {outputs new : List (Output P)} {state state' : CloseState}
    (talks : Talks outputs state) (begun : outputs ≠ []) (plain : ∀ output ∈ new, output.isPlain)
    (walk : CloseState.Walk state (statesIn new) state') : Talks (outputs ++ new) state' := by
  constructor
  · rcases talks.opening with none | ⟨sessionId, later, opening, others⟩
    · exact absurd none begun
    · refine .inr ⟨sessionId, later ++ new, by rw [opening]; rfl, ?_⟩
      intro output member
      rcases List.mem_append.mp member with old | fresh
      · exact others output old
      · exact plain output fresh
  · rw [statesIn_append]
    exact talks.walk.append walk

/-- The session has not ended, and while it is being created it is silent. -/
structure Running (session : Session P) : Prop where
  open_ : session.phase ≠ .closed
  talks : Talks session.outputs session.closing.state
  unfinished : session.closing.state ≠ .closed
  connecting : session.phase = .connecting → session.outputs = [] ∧ session.current = none ∧
    session.liveness.rebind = .stopped ∧ session.liveness.cooltime = .stopped
  connected : session.phase = .connected → session.outputs ≠ []

/-- The session has ended, without a line, and said so last. -/
structure Ended (session : Session P) : Prop where
  isOver : session.phase = .closed
  unbound : session.current = none
  unpaired : session.pending = none
  told : ∃ earlier reason, session.outputs = earlier ++ [.closed reason] ∧
    Talks earlier session.closing.state ∧
    (reason = .graceful ∧ earlier.getLast? = some (.closeStateChanged .closed) ∨
      reason ≠ .graceful ∧ session.closing.state ≠ .closed)

/-- A session runs or has ended. -/
def Lives (session : Session P) : Prop := Running session ∨ Ended session

variable {session after : Session P}

namespace Running

theorem connected_of_ne (running : Running session) (created : session.phase ≠ .connecting) :
    session.phase = .connected := by
  cases phase : session.phase with
  | connecting => exact absurd phase created
  | connected => rfl
  | closed => exact absurd phase running.open_

theorem isConnected (running : Running session) (bound : session.current.isSome) :
    session.phase = .connected := by
  apply running.connected_of_ne
  intro connecting
  obtain ⟨_, unbound, _⟩ := running.connecting connecting
  simp [unbound] at bound

theorem isConnected_of_begun (running : Running session)
    (begun : session.closing.state ≠ .active) : session.phase = .connected := by
  apply running.connected_of_ne
  intro connecting
  have last := running.talks.walk.last_eq
  rw [(running.connecting connecting).1] at last
  exact begun last

theorem quiet (running : Running session) (phase : after.phase = session.phase)
    (outputs : after.outputs = session.outputs)
    (state : after.closing.state = session.closing.state)
    (idle : session.phase = .connecting → session.current = none →
      session.liveness.rebind = .stopped ∧ session.liveness.cooltime = .stopped →
      after.current = none ∧
        after.liveness.rebind = .stopped ∧ after.liveness.cooltime = .stopped) :
    Running after where
  open_ := by
    rw [phase]
    exact running.open_
  talks := by
    rw [outputs, state]
    exact running.talks
  unfinished := by
    rw [state]
    exact running.unfinished
  connecting := by
    rw [phase, outputs]
    intro connecting
    obtain ⟨silent, unbound, resting⟩ := running.connecting connecting
    exact ⟨silent, idle connecting unbound resting⟩
  connected := by
    rw [phase, outputs]
    exact running.connected

theorem mute (running : Running session) (phase : after.phase = session.phase)
    (outputs : after.outputs = session.outputs)
    (state : after.closing.state = session.closing.state)
    (current : after.current = session.current) (liveness : after.liveness = session.liveness) :
    Running after := by
  apply running.quiet phase outputs state
  intro _ unbound resting
  rw [current, liveness]
  exact ⟨unbound, resting⟩

theorem goesOn (running : Running session) (isConnected : session.phase = .connected)
    {new : List (Output P)} (plain : ∀ output ∈ new, output.isPlain)
    (phase : after.phase = .connected) (outputs : after.outputs = session.outputs ++ new)
    (walk : CloseState.Walk session.closing.state (statesIn new) after.closing.state)
    (unfinished : after.closing.state ≠ .closed) : Running after where
  open_ := by simp [phase]
  talks := by
    rw [outputs]
    exact running.talks.append (running.connected isConnected) plain walk
  unfinished
  connecting := by simp [phase]
  connected := by
    intro _ none
    rw [outputs, List.append_eq_nil_iff] at none
    exact running.connected isConnected none.1

theorem opens (running : Running session) (connecting : session.phase = .connecting)
    {sessionId : UInt32} (phase : after.phase = .connected)
    (outputs : after.outputs = session.outputs ++ [.connected sessionId])
    (state : after.closing.state = session.closing.state) : Running after := by
  obtain ⟨silent, _⟩ := running.connecting connecting
  rw [silent, List.nil_append] at outputs
  have walk := running.talks.walk
  rw [silent] at walk
  constructor
  · simp [phase]
  · rw [outputs, state]
    exact ⟨.inr ⟨sessionId, [], rfl, by simp⟩, walk⟩
  · rw [state]
    exact running.unfinished
  · simp [phase]
  · simp [outputs]

theorem terminate (running : Running session) {reason : CloseReason}
    (forced : reason ≠ .graceful) : Ended (session.terminate reason) := by
  rw [terminate_eq]
  exact ⟨rfl, rfl, rfl, session.outputs, reason, rfl, running.talks,
    .inr ⟨forced, running.unfinished⟩⟩

theorem endGracefully (running : Running session) (isConnected : session.phase = .connected)
    {machine : CloseMachine} (next : CloseState.Next session.closing.state machine.state)
    (ends : machine.state = .closed) : Ended (session.endGracefully machine) := by
  rw [ends] at next
  rw [endGracefully_eq, terminate_eq]
  refine ⟨rfl, rfl, rfl, session.outputs ++ [.closeStateChanged .closed], .graceful, ?_, ?_, ?_⟩
  · simp
  · rw [ends]
    exact running.talks.append (running.connected isConnected) (by simp [Output.isPlain]) next.walk
  · exact .inl ⟨rfl, List.getLast?_concat⟩

theorem discard (running : Running session) (line : Option Line) :
    Running (session.discard line) := by
  rw [discard_eq]
  exact running.mute rfl rfl rfl rfl rfl

theorem sendAck (running : Running session) : Running session.sendAck := by
  rw [sendAck_eq]
  exact running.mute rfl rfl rfl rfl rfl

theorem sendPing (running : Running session) (clock : UInt32) :
    Running (session.sendPing clock) := by
  rw [sendPing_eq]
  exact running.mute rfl rfl rfl rfl rfl

theorem dropLine (running : Running session) : Running session.dropLine := by
  rw [dropLine_eq]
  split
  · exact running
  · next bound =>
      refine running.quiet rfl rfl rfl ?_
      intro _ unbound
      simp [unbound] at bound

theorem startRebind (running : Running session) (isConnected : session.phase = .connected) :
    Running session.startRebind := by
  rw [startRebind_eq]
  exact running.goesOn isConnected (by simp [Output.isPlain]) isConnected rfl (.stay _)
    running.unfinished

theorem flush (running : Running session) : Lives session.flush := by
  unfold Session.flush
  split
  · exact .inl running
  · split
    · rw [foldl_sendOnCurrent]
      exact .inl (running.mute rfl rfl rfl rfl rfl)
    · exact .inr (running.terminate (by simp))

theorem pushReliable (running : Running session) (body : ReliableBody P) :
    Lives (session.pushReliable body).1 := by
  have pushed : Running { session with delivery := (session.delivery.push body).1 } :=
    running.mute rfl rfl rfl rfl rfl
  exact pushed.flush

theorem removeAcked (running : Running session) (isConnected : session.phase = .connected)
    (ack : UInt32) : Lives (session.removeAcked ack) := by
  have retired : Running { session with delivery := (session.delivery.removeAcked ack).1 } :=
    running.mute rfl rfl rfl rfl rfl
  rcases removeAcked_cases running.open_ ack with
    ⟨closing, recorded, noted⟩ | ⟨closing, lingered, ends⟩
  · rw [noted]
    exact .inl (running.mute rfl rfl recorded.state rfl rfl)
  · rw [ends]
    exact .inr (retired.endGracefully isConnected lingered.next lingered.state)

theorem resync (running : Running session) (isConnected : session.phase = .connected)
    (ack : UInt32) : Lives (session.resync ack) := by
  rcases resync_cases running.open_ ack with
    ⟨closing, recorded, handsOver⟩ | ⟨closing, lingered, ends⟩
  · rw [handsOver]
    have rewound : Running
        { session with
          delivery := (session.delivery.removeAcked ack).1.rewindLine ack
          closing } :=
      running.mute rfl rfl recorded.state rfl rfl
    exact rewound.flush
  · rw [ends]
    have retired : Running { session with delivery := (session.delivery.removeAcked ack).1 } :=
      running.mute rfl rfl rfl rfl rfl
    exact .inr (retired.endGracefully isConnected lingered.next lingered.state)

theorem bindCurrent (running : Running session) (isConnected : session.phase = .connected)
    (line : Line) : Running (session.bindCurrent line) := by
  rw [bindCurrent_eq]
  refine running.quiet rfl rfl rfl ?_
  intro connecting
  simp [isConnected] at connecting

end Running

/-! ## Closing -/

section

variable {pushed : List (ReliableBody P)}

private theorem outputs_pushReliable (books : Books pushed session)
    (room : pushed.length + 1 < UInt32.size) (body : ReliableBody P) :
    (session.pushReliable body).1.outputs = session.outputs := by
  have unfolded : (session.pushReliable body).1 =
      flush { session with delivery := (session.delivery.push body).1 } := rfl
  rw [unfolded, flush_eq _ (books.keeps.push room body).inOrder]

private theorem outputs_applyAction (books : Books pushed session)
    (connected : session.phase = .connected) {action : CloseAction}
    (quiet : action ≠ .enter .closed)
    (room : pushed.length + (CloseAction.bodies (P := P) [action]).length < UInt32.size) :
    (session.applyAction action).outputs =
      session.outputs ++ (CloseAction.entered [action]).map .closeStateChanged := by
  unfold applyAction
  rw [if_neg (by simp [connected])]
  cases action with
  | sendFin => simpa [CloseAction.entered] using outputs_pushReliable books room .fin
  | sendFinAck => simpa [CloseAction.entered] using outputs_pushReliable books room .finAck
  | sendAck =>
      rw [sendAck_eq]
      simp [CloseAction.entered]
  | enter state =>
      cases state with
      | closed => exact absurd rfl quiet
      | _ => rfl

private theorem outputs_foldl_applyAction (actions : List CloseAction)
    (quiet : .enter .closed ∉ actions) :
    ∀ {pushed : List (ReliableBody P)} {session : Session P}, Books pushed session →
      session.phase = .connected →
      pushed.length + (CloseAction.bodies (P := P) actions).length < UInt32.size →
      (session.closing.state = .timeWait → session.current.isSome) →
      (actions.foldl applyAction session).outputs =
        session.outputs ++ (CloseAction.entered actions).map .closeStateChanged := by
  induction actions with
  | nil =>
      intro pushed session _ _ _ _
      simp [CloseAction.entered]
  | cons action actions induction =>
      intro pushed session books connected room lingering
      rw [List.mem_cons, not_or] at quiet
      have split : CloseAction.bodies (P := P) (action :: actions) =
          CloseAction.bodies [action] ++ CloseAction.bodies actions :=
        List.filterMap_append (l := [action])
      rw [split, List.length_append] at room
      have fits : pushed.length + (CloseAction.bodies (P := P) [action]).length < UInt32.size := by
        omega
      have head : Takes 0 session.closing [action] pushed session
          (session.applyAction action) :=
        takes_applyAction books connected (Ne.symm quiet.1) fits lingering
      have tail := induction quiet.2 head.books head.open_
        (by rw [List.length_append]; omega)
        (by
          rw [head.recorded.state, head.stays]
          exact lingering)
      have entered : CloseAction.entered (action :: actions) =
          CloseAction.entered [action] ++ CloseAction.entered actions :=
        List.filterMap_append (l := [action])
      rw [List.foldl_cons, tail, outputs_applyAction books connected (Ne.symm quiet.1) fits,
        entered, List.map_append, List.append_assoc]

/-- A decision that does not end the session is told by the states that it enters. -/
theorem Running.applyClose (running : Running session) (books : Books pushed session)
    (isConnected : session.phase = .connected) {machine : CloseMachine}
    {actions : List CloseAction} (quiet : .enter .closed ∉ actions)
    (walk : CloseState.Walk session.closing.state (CloseAction.entered actions) machine.state)
    (unfinished : machine.state ≠ .closed)
    (lingering : machine.state = .timeWait → session.current.isSome)
    (few : (CloseAction.bodies (P := P) actions).length < UInt32.size)
    (room : pushed.length + ((session.applyClose (machine, actions)).delivery.lastSendId -
      session.delivery.lastSendId).toNat < UInt32.size) :
    Running (session.applyClose (machine, actions)) := by
  have takes : Takes 0 machine actions pushed session (session.applyClose (machine, actions)) :=
    takes_applyClose_of_room books isConnected quiet lingering few room
  have moved : Advances 0 [] pushed pushed session { session with closing := machine } :=
    advances_closing books (fun timeWait => .inr (lingering timeWait))
  have fits : pushed.length + (CloseAction.bodies (P := P) actions).length < UInt32.size :=
    room_foldl_applyAction actions quiet moved.books isConnected lingering few room
  have told : (session.applyClose (machine, actions)).outputs =
      session.outputs ++ (CloseAction.entered actions).map .closeStateChanged :=
    outputs_foldl_applyAction actions quiet moved.books isConnected fits lingering
  refine running.goesOn isConnected ?_ takes.open_ told ?_ ?_
  · intro output member
    obtain ⟨state, _, rfl⟩ := List.mem_map.mp member
    rfl
  · rw [statesIn_map, takes.recorded.state]
    exact walk
  · rw [takes.recorded.state]
    exact unfinished

end

end Session

end ResumableSession
