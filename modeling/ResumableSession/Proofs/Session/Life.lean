import ResumableSession.Proofs.Session.Bookkeeping
import ResumableSession.Proofs.Session.Outcome
import ResumableSession.Proofs.Session.Telling

/-!
# The life of a session

Whatever happens to a session, it goes on as one that runs or has ended.  After the
end it does nothing but turn lines away.
-/

namespace ResumableSession

namespace Session

variable {P : Type} {pushed : List (ReliableBody P)} {session : Session P}

/-! ## After the end -/

/-- What an ended session makes of an input: it closes a line that it is handed. -/
def turnAway (session : Session P) (input : Input P) : Session P :=
  session.discard input.offered?

namespace Ended

theorem step_eq (ended : Ended session) (input : Input P) :
    session.step input = session.turnAway input := by
  obtain ⟨isOver, unbound, unpaired, -⟩ := ended
  have outcome := session.outcome_step input
  generalize session.step input = after at outcome ⊢
  cases outcome with
  | unchanged unoffered =>
      rw [turnAway, unoffered]
      rfl
  | turnedAway offered => rw [turnAway, offered]
  | _ => simp_all

theorem discard (ended : Ended session) (line : Option Line) : Ended (session.discard line) := by
  rw [discard_eq]
  exact ⟨ended.isOver, ended.unbound, ended.unpaired, ended.told⟩

end Ended

/-! ## Time -/

namespace Lives

theorem onDue (lives : Lives session) (clock : UInt32) {event : LivenessEvent}
    (undialed : event ≠ .rebindDue) : Lives (onDue clock session event) := by
  rcases lives with running | ended
  · unfold Session.onDue
    rw [if_neg running.open_]
    cases event with
    | rebindDue => exact absurd rfl undialed
    | offlineExpired => exact .inr (running.terminate (by simp))
    | sendPing => exact .inl (running.sendPing clock)
    | aliveWaitExpired => exact .inl running.dropLine
    | timeWaitExpired =>
        simp only
        rcases session.closing.timeWaitExpired_cases with unmoved | ⟨closing, lingered, ends⟩
        · rw [unmoved]
          exact .inl running
        · have isConnected : session.phase = .connected :=
            running.isConnected_of_begun (by simp [lingered.timeWait])
          rw [ends, applyClose_enter_closed running.open_]
          exact .inr (running.endGracefully isConnected lingered.next lingered.state)
  · unfold Session.onDue
    rw [if_pos ended.isOver]
    exact .inr ended

private theorem foldl_onDue (clock : UInt32) (due : List LivenessEvent)
    (undialed : .rebindDue ∉ due) :
    ∀ {session : Session P}, Lives session → Lives (due.foldl (Session.onDue clock) session) := by
  induction due with
  | nil => exact id
  | cons event due induction =>
      intro session lives
      rw [List.mem_cons, not_or] at undialed
      exact induction undialed.2 (lives.onDue clock (Ne.symm undialed.1))

theorem sendAck (lives : Lives session) : Lives session.sendAck := by
  rcases lives with running | ended
  · exact .inl running.sendAck
  · unfold Session.sendAck
    rw [ended.unbound]
    exact .inr ended

end Lives

namespace Running

/-! ## Time passes for a session that runs -/

theorem update (running : Running session) (time : Duration) (clock : UInt32) :
    Lives (session.update time clock) := by
  obtain ⟨_, ⟨due, _, hectic⟩ | ⟨undialed, resting⟩⟩ := session.liveness.tick_cases time
  · -- A session that is being created lets attempts rest, so this one exists.
    have isConnected : session.phase = .connected :=
      running.connected_of_ne fun connecting => hectic (running.connecting connecting).2.2
    have moved : Running { session with liveness := (session.liveness.tick time).1 } := by
      refine running.quiet rfl rfl rfl ?_
      intro _ _ atRest
      exact absurd atRest hectic
    rcases update_rebindDue running.open_ time clock due with silent | told
    · rw [silent]
      exact .inl (moved.startRebind isConnected)
    · rw [told]
      exact .inl (moved.startRebind isConnected).sendAck
  · have moved : Running { session with liveness := (session.liveness.tick time).1 } :=
      running.quiet rfl rfl rfl (fun _ unbound atRest => ⟨unbound, resting atRest⟩)
    have acted := Lives.foldl_onDue clock _ undialed (.inl moved)
    unfold Session.update
    rw [if_neg running.open_]
    simp only
    split
    · exact acted.sendAck
    · exact acted

/-! ## Closing -/

theorem closes (running : Running session) (books : Books pushed session)
    (isConnected : session.phase = .connected)
    (room : pushed.length + ((session.applyClose session.closing.localClose).delivery.lastSendId -
      session.delivery.lastSendId).toNat < UInt32.size) :
    Running (session.applyClose session.closing.localClose) := by
  rcases session.closing.localClose_cases (P := P) with
    unchanged | ⟨quiet, entered, _⟩
  · rw [unchanged]
    exact running
  · obtain ⟨walk, unfinished⟩ := session.closing.localClose_walk running.unfinished
    exact running.applyClose books isConnected quiet walk unfinished
      (fun timeWait => absurd timeWait entered) session.closing.few_localClose room

theorem onFin (running : Running session) (books : Books pushed session)
    (isConnected : session.phase = .connected) (bound : session.current.isSome)
    {machine : CloseMachine} {actions : List CloseAction}
    (decided : session.closing.onFin = .ok (machine, actions))
    (room : pushed.length + ((session.applyClose (machine, actions)).delivery.lastSendId -
      session.delivery.lastSendId).toNat < UInt32.size) :
    Running (session.applyClose (machine, actions)) := by
  obtain ⟨quiet, few, _⟩ := CloseMachine.onFin_cases (P := P) decided
  obtain ⟨walk, unfinished⟩ := CloseMachine.onFin_walk decided
  refine running.applyClose books isConnected quiet walk unfinished (fun _ => bound) ?_ room
  simp only [UInt32.size]
  omega

theorem onFinAck (running : Running session) (books : Books pushed session)
    (isConnected : session.phase = .connected) (bound : session.current.isSome)
    {machine : CloseMachine} {actions : List CloseAction}
    (decided : session.closing.onFinAck = .ok (machine, actions))
    (room : pushed.length + ((session.applyClose (machine, actions)).delivery.lastSendId -
      session.delivery.lastSendId).toNat < UInt32.size) :
    Lives (session.applyClose (machine, actions)) := by
  have next := CloseMachine.onFinAck_next decided
  rcases CloseMachine.onFinAck_cases decided with ⟨unfinished, rfl⟩ | ⟨ends, rfl | rfl⟩
  · exact .inl (running.applyClose books isConnected (by simpa using Ne.symm unfinished) next.walk
      unfinished (fun _ => bound) (by simp [CloseAction.body?, UInt32.size]) room)
  · rw [applyClose_enter_closed running.open_]
    exact .inr (running.endGracefully isConnected next ends)
  · have same := untouched_sendAck session
    rw [applyClose_sendAck_enter_closed running.open_]
    refine .inr (running.sendAck.endGracefully (same.phase.trans isConnected) ?_ ends)
    rw [same.closing]
    exact next

end Running

/-! ## Inputs -/

section

variable {after : Session P}

theorem BodyOutcome.lives {body : ReliableBody P} (outcome : BodyOutcome session body after)
    (running : Running session) (books : Books pushed session)
    (isConnected : session.phase = .connected) (bound : session.current.isSome)
    (room : pushed.length + (after.delivery.lastSendId - session.delivery.lastSendId).toNat <
      UInt32.size) : Lives after := by
  cases outcome with
  | delivered =>
      exact .inl (running.goesOn isConnected (by simp [Output.isPlain]) isConnected rfl (.stay _)
        running.unfinished)
  | fin decided => exact .inl (running.onFin books isConnected bound decided room)
  | finAck decided => exact running.onFinAck books isConnected bound decided room
  | unexpectedFin refused => exact .inr (running.terminate (by simp))
  | unexpectedFinAck refused => exact .inr (running.terminate (by simp))

theorem PacketOutcome.lives {packet : Packet P} (outcome : PacketOutcome session packet after)
    (running : Running session) (books : Books pushed session) (bound : session.current.isSome)
    (room : pushed.length + (after.delivery.lastSendId - session.delivery.lastSendId).toNat <
      UInt32.size) : Lives after := by
  have isConnected : session.phase = .connected := running.isConnected bound
  have received (delivery : Delivery P) (ack : UInt32) :
      Lives (removeAcked { session with delivery } ack) := by
    have moved : Running { session with delivery } := running.mute rfl rfl rfl rfl rfl
    exact moved.removeAcked isConnected ack
  cases outcome with
  | gap refused => exact .inl running.dropLine
  | misplaced strange => exact .inl running.dropLine
  | duplicate known => exact .inl running
  | ended accepted isOver => exact received _ _
  | @taken packet delivery after accepted open_ body =>
      have running : Running (removeAcked { session with delivery } packet.ack) :=
        (received delivery packet.ack).resolve_right fun ended => open_ ended.isOver
      obtain ⟨rfl, next⟩ := Delivery.accept_accepted accepted
      have told := (told_removeAcked books bound next rfl).resolve_right fun ended => open_ ended.1
      refine body.lives running told.books told.open_ ?_ ?_
      · rw [told.stays]
        exact bound
      · rw [told.lastSendId books]
        exact room
  | acked => exact running.removeAcked isConnected _
  | echoed =>
      rw [sendOnCurrent_eq]
      exact .inl (running.mute rfl rfl rfl rfl rfl)
  | measured =>
      exact .inl (running.goesOn isConnected (by simp [Output.isPlain]) isConnected rfl (.stay _)
        running.unfinished)
  | unmeasured => exact .inl running

theorem Outcome.lives {input : Input P} (outcome : Outcome session input after)
    (running : Running session) (books : Books pushed session)
    (unforced : input ≠ .closeImmediately .graceful)
    (room : pushed.length + (after.delivery.lastSendId - session.delivery.lastSendId).toNat <
      UInt32.size) : Lives after := by
  have forgotten : Running { session with pending := none } := running.mute rfl rfl rfl rfl rfl
  cases outcome with
  | unchanged unoffered => exact .inl running
  | pushed _ unsent => exact running.pushReliable _
  | aborted connecting => exact .inr (running.terminate (by simp))
  | closes connected => exact .inl (running.closes books connected room)
  | ended _ =>
      refine .inr (running.terminate ?_)
      rintro rfl
      exact unforced rfl
  | elapsed _ => exact running.update _ _
  | dialed _ =>
      rw [discard_eq]
      exact .inl (running.mute rfl rfl rfl rfl rfl)
  | turnedAway offered => exact .inl (running.discard _)
  | givenUp unoffered shaking => exact .inl (forgotten.discard _)
  | created shaking connecting =>
      apply Running.flush
      rw [bindCurrent_eq]
      exact running.opens connecting rfl rfl rfl
  | accepted connecting =>
      apply Running.flush
      rw [bindCurrent_eq]
      exact running.opens connecting rfl rfl rfl
  | @rebound line serverAck shaking connected checked =>
      apply (forgotten.bindCurrent connected line).resync
      rw [bindCurrent_eq]
      exact connected
  | @resumed line clientAck connected current checked =>
      have answered : Running
          { session.act (.send line.id (.rebindResponse session.delivery.lastRecvId)) with
            lastLineIndex := line.index } :=
        running.mute rfl rfl rfl rfl rfl
      apply (answered.bindCurrent connected line).resync
      rw [bindCurrent_eq]
      exact connected
  | unresumable shaking connected refused =>
      exact .inr ((forgotten.discard _).terminate (by simp))
  | rejected connected current refused => exact .inr ((running.discard _).terminate (by simp))
  | unreachable shaking connecting => exact .inr (forgotten.terminate (by simp))
  | failed shaking connected =>
      refine .inl (running.quiet rfl rfl rfl ?_)
      intro connecting
      simp [connected] at connecting
  | lost bound _ =>
      refine .inl (running.quiet rfl rfl rfl ?_)
      intro _ unbound
      simp [unbound] at bound
  | lostPending shaking isOver => exact absurd isOver running.open_
  | lostCurrent bound isOver => exact absurd isOver running.open_
  | heard _ bound arrives => exact arrives.lives running books (isSome_of_id bound) room

end

/-- A session that runs or has ended is one after every input. -/
theorem Lives.step (lives : Lives session) (books : Books pushed session) (input : Input P)
    (unforced : input ≠ .closeImmediately .graceful)
    (room : pushed.length + session.assignedBy input < UInt32.size) :
    Lives (session.step input) := by
  rcases lives with running | ended
  · exact (session.outcome_step input).lives running books unforced room
  · rw [ended.step_eq]
    exact .inr (ended.discard input.offered?)

theorem Starts.running (starts : session.Starts) : Running session := by
  cases starts <;>
    exact
      { open_ := by simp [Session.initiator, Session.responder]
        talks := ⟨.inl rfl, .stay _⟩
        unfinished := by simp [Session.initiator, Session.responder]
        connecting := fun _ => ⟨rfl, rfl, rfl, rfl⟩
        connected := by simp [Session.initiator, Session.responder] }

private theorem lives_run (inputs : List (Input P))
    (unforced : .closeImmediately .graceful ∉ inputs) :
    ∀ {pushed : List (ReliableBody P)} {session : Session P}, Lives session →
      Books pushed session → session.Guarded →
      pushed.length + session.assigned inputs < UInt32.size → Lives (session.run inputs) := by
  induction inputs with
  | nil => exact fun lives _ _ _ => lives
  | cons input inputs induction =>
      intro pushed session lives books guarded room
      rw [List.mem_cons, not_or] at unforced
      rw [assigned] at room
      have fits : pushed.length + session.assignedBy input < UInt32.size := by omega
      obtain ⟨fresh, taken, accounts⟩ := accounts_step books guarded input fits
      have given := accounts.length_fresh books
      exact induction unforced.2 (lives.step books input (Ne.symm unforced.1) fits) accounts.books
        (accounts.turn.guarded guarded) (by rw [List.length_append]; omega)

/-! ## The shape of what is told -/

/-- What a session has told its owner so far is in order, and agrees with the session. -/
structure Shaped (session : Session P) : Prop where
  opening : (∀ output ∈ session.outputs, ∃ reason, output = .closed reason) ∨
    ∃ sessionId later, session.outputs = .connected sessionId :: later ∧
      ∀ other, .connected other ∉ later
  course : ∃ course ∈ CloseState.courses, statesIn session.outputs <+: course
  state : session.closing.state = (statesIn session.outputs).getLast?.getD .active
  ending : ∀ earlier reason later, session.outputs = earlier ++ .closed reason :: later →
    later = [] ∧ (reason = .graceful ↔ earlier.getLast? = some (.closeStateChanged .closed))
  phase : session.phase = .closed ↔ ∃ reason, .closed reason ∈ session.outputs
  ended : session.phase = .closed →
    (∀ input, session.step input = session.turnAway input) ∧
      ∀ payload, session.send payload = .error .channelClosed

section

variable {outputs : List (Output P)} {state : CloseState}

theorem Talks.unended (talks : Talks outputs state) (reason : CloseReason) :
    .closed reason ∉ outputs := by
  intro member
  rcases talks.opening with none | ⟨sessionId, later, opening, plain⟩
  · simp [none] at member
  · rw [opening, List.mem_cons] at member
    rcases member with same | inside
    · cases same
    · exact absurd (plain _ inside) (by simp [Output.isPlain])

private theorem Talks.connected_once (talks : Talks outputs state) :
    outputs = [] ∨ ∃ sessionId later, outputs = .connected sessionId :: later ∧
      ∀ other, .connected other ∉ later := by
  rcases talks.opening with none | ⟨sessionId, later, opening, plain⟩
  · exact .inl none
  · refine .inr ⟨sessionId, later, opening, ?_⟩
    intro other member
    exact absurd (plain _ member) (by simp [Output.isPlain])

/-- The last state that was told is the one that closing is in. -/
theorem Talks.state_of_last (talks : Talks outputs state) {told : CloseState}
    (last : outputs.getLast? = some (.closeStateChanged told)) : state = told := by
  obtain ⟨earlier, rfl⟩ := List.getLast?_eq_some_iff.mp last
  have same := talks.walk.last_eq
  rw [statesIn_append] at same
  rw [same]
  exact congrArg (fun found => Option.getD found CloseState.active) List.getLast?_concat

private theorem split_end {earlier earlier' later : List (Output P)} {reason reason' : CloseReason}
    (unended : .closed reason' ∉ earlier)
    (same : earlier ++ [.closed reason] = earlier' ++ .closed reason' :: later) :
    earlier' = earlier ∧ reason' = reason ∧ later = [] := by
  rcases List.append_eq_append_iff.mp same with
    ⟨between, rfl, rest⟩ | ⟨between, rfl, rest⟩
  · rcases between with _ | ⟨output, between⟩
    · cases rest
      exact ⟨List.append_nil _, rfl, rfl⟩
    · simp at rest
  · rcases between with _ | ⟨output, between⟩
    · cases rest
      exact ⟨(List.append_nil _).symm, rfl, rfl⟩
    · rw [List.cons_append, List.cons.injEq] at rest
      simp [rest.1] at unended

end

private theorem Running.shaped (running : Running session) : session.Shaped where
  opening := by
    rcases running.talks.connected_once with none | opening
    · simp [none]
    · exact .inr opening
  course := running.talks.walk.prefix_ahead
  state := running.talks.walk.last_eq
  ending := by
    intro earlier reason later split
    exact absurd (by simp [split]) (running.talks.unended reason)
  phase := by
    constructor
    · exact fun isOver => absurd isOver running.open_
    · exact fun ⟨reason, told⟩ => absurd told (running.talks.unended reason)
  ended := fun isOver => absurd isOver running.open_

private theorem Ended.shaped (ended : Ended session) : session.Shaped := by
  obtain ⟨earlier, reason, outputs, talks, cause⟩ := ended.told
  have states : statesIn session.outputs = statesIn earlier := by
    rw [outputs, statesIn_append]
    exact List.append_nil _
  constructor
  · rw [outputs]
    rcases talks.connected_once with rfl | ⟨sessionId, later, rfl, once⟩
    · simp
    · refine .inr ⟨sessionId, later ++ [.closed reason], rfl, ?_⟩
      simpa using once
  · rw [states]
    exact talks.walk.prefix_ahead
  · rw [states]
    exact talks.walk.last_eq
  · intro earlier' reason' later split
    rw [outputs] at split
    obtain ⟨rfl, rfl, rfl⟩ := split_end (talks.unended reason') split
    refine ⟨rfl, ?_, ?_⟩
    · intro graceful
      exact (cause.resolve_right fun forced => forced.1 graceful).2
    · intro last
      exact (cause.resolve_right fun forced => forced.2 (talks.state_of_last last)).1
  · exact ⟨fun _ => ⟨reason, by simp [outputs]⟩, fun _ => ended.isOver⟩
  · intro _
    refine ⟨ended.step_eq, ?_⟩
    intro payload
    simp [send, ended.isOver]

/-- Whatever happens to a session, what it tells its owner has this shape: its creation
comes first, the states of closing follow one of four courses up to the present one,
and its end comes last and is final. -/
theorem run_shaped {start : Session P} (starts : start.Starts) (inputs : List (Input P))
    (unforced : .closeImmediately .graceful ∉ inputs)
    (fits : start.assigned inputs < UInt32.size) : (start.run inputs).Shaped := by
  have lives : Lives (start.run inputs) :=
    lives_run inputs unforced (.inl starts.running) starts.books starts.guarded
      (by simpa using fits)
  rcases lives with running | ended
  · exact running.shaped
  · exact ended.shaped

/-- A session that both sides close at the same time, and a line that comes too late. -/
def crossed : List (Input Nat) :=
  [.lineCreated ⟨0⟩ 7, .send 1, .close, .packet ⟨0⟩ (.reliable ⟨1, 1, .fin⟩) 0,
    .packet ⟨0⟩ (.reliable ⟨2, 3, .finAck⟩) 0, .bindPending ⟨⟨1⟩, 1⟩]

theorem crossed_shaped :
    .closeImmediately .graceful ∉ crossed ∧
      (initiator {} {} ⟨⟨0⟩, 0⟩).assigned crossed < UInt32.size ∧
      ((initiator {} {} ⟨⟨0⟩, 0⟩).run crossed).outputs =
        [.connected 7, .closeStateChanged .finWait1, .closeStateChanged .closing,
          .closeStateChanged .closed, .closed .graceful] ∧
      ((initiator {} {} ⟨⟨0⟩, 0⟩).run crossed).Shaped :=
  have unforced : .closeImmediately .graceful ∉ crossed := by decide +kernel
  have fits : (initiator {} {} ⟨⟨0⟩, 0⟩).assigned crossed < UInt32.size := by decide +kernel
  ⟨unforced, fits, by decide +kernel, run_shaped (.initiator {} {} ⟨⟨0⟩, 0⟩) crossed unforced fits⟩

end Session

end ResumableSession
