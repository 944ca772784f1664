import ResumableSession.Proofs.Session.Resting

/-!
# What a step does about lines and timers

A step makes one change of the lines and the timers of a session, if it makes any,
and leaves them alone after that unless it ends the session.  What is to hold of
lines and timers across every step is proved for these changes.
-/

namespace ResumableSession

variable {P : Type}

/-- Whether an input lets time pass. -/
def Input.isUpdate : Input P → Bool
  | .update _ _ => true
  | _ => false

/-- The time that an input lets pass, in nanoseconds. -/
def Input.elapsed : Input P → Nat
  | .update time _ => time.nanos
  | _ => 0

theorem Input.elapsed_eq_zero {input : Input P} (timeless : input.isUpdate = false) :
    input.elapsed = 0 := by
  cases input <;> first | rfl | cases timeless

/-- A decision has nothing to do with `timeWait`, or enters it with its last action. -/
def CloseMachine.Heads (before machine : CloseMachine) (actions : List CloseAction) : Prop :=
  before.state ≠ .timeWait ∧
    (machine.state ≠ .timeWait ∧ .enter .timeWait ∉ actions ∨
      machine.state = .timeWait ∧
        ∃ earlier, actions = earlier ++ [.enter .timeWait] ∧ .enter .timeWait ∉ earlier)

private theorem CloseMachine.heads_onFin {before machine : CloseMachine}
    {actions : List CloseAction}
    (decided : before.onFin = .ok (machine, actions)) : Heads before machine actions := by
  have owed : .enter .timeWait ∉ before.owedFinAck := by
    unfold owedFinAck
    split <;> simp
  unfold onFin at decided
  split at decided <;> simp only [Except.ok.injEq, Prod.mk.injEq, reduceCtorEq] at decided
  all_goals obtain ⟨rfl, rfl⟩ := decided
  · next active => exact ⟨by simp [active], .inl ⟨nofun, by simp [owed]⟩⟩
  · next waiting => exact ⟨by simp [waiting], .inl ⟨nofun, by simp [owed]⟩⟩
  · next waiting => exact ⟨by simp [waiting], .inr ⟨rfl, _, rfl, owed⟩⟩

private theorem CloseMachine.heads_onFinAck {before machine : CloseMachine}
    {actions : List CloseAction} (decided : before.onFinAck = .ok (machine, actions)) :
    Heads before machine actions := by
  unfold onFinAck at decided
  split at decided <;> simp only [Except.ok.injEq, Prod.mk.injEq, reduceCtorEq] at decided
  all_goals obtain ⟨rfl, rfl⟩ := decided
  · next waiting => exact ⟨by simp [waiting], .inl ⟨nofun, by simp⟩⟩
  · next closing =>
      refine ⟨by simp [closing], ?_⟩
      cases early : before.peerFinAcked
      · exact .inr ⟨rfl, [], rfl, by simp⟩
      · exact .inl ⟨nofun, by simp⟩
  · next last => exact ⟨by simp [last], .inl ⟨nofun, by simp⟩⟩

namespace Session

/-- The session after the next packet counts as received. -/
def received (session : Session P) (id : UInt32) : Session P :=
  { session with delivery := { session.delivery with lastRecvId := id } }

/-- The change that an input makes of the lines and the timers of a session, if any. -/
inductive Shifts (before : Session P) : Input P → Session P → Prop where
  | still {input : Input P} (timeless : input.isUpdate = false) : Shifts before input before
  | late {time : Duration} {clock : UInt32} (isOver : before.phase = .closed) :
      Shifts before (.update time clock) before
  | released {input : Input P} (timeless : input.isUpdate = false) :
      Shifts before input { before with pending := none }
  | forgotten {line : LineId} (isOver : before.phase = .closed) :
      Shifts before (.lineClosed line) { before with current := none }
  | dialed {line : Line} (running : before.phase ≠ .closed) :
      Shifts before (.bindPending line) { before with pending := some line }
  | failed {line : LineId} (shaking : before.pending.isSome)
      (connected : before.phase = .connected) :
      Shifts before (.lineClosed line)
        { before with pending := none, liveness := before.liveness.rebindFailed }
  | lost {input : Input P} (timeless : input.isUpdate = false) (bound : before.current.isSome)
      (running : before.phase ≠ .closed) : Shifts before input before.lineLost
  | measured {line : LineId} {ticks clock : UInt32} {keepalive : Keepalive} :
      Shifts before (.packet line (.pingResponse ticks) clock)
        { before with keepalive, liveness := before.liveness.aliveConfirmed }
  | received {line : LineId} {packet : ReliablePacket P} {clock : UInt32}
      (bound : before.current.isSome) (running : before.phase ≠ .closed)
      (next : packet.id.toNat = before.delivery.lastRecvId.toNat + 1) :
      Shifts before (.packet line (.reliable packet) clock) (before.received packet.id)
  | lingers {line : LineId} {packet : ReliablePacket P} {clock : UInt32}
      {machine : CloseMachine} (bound : before.current.isSome)
      (running : before.phase ≠ .closed)
      (next : packet.id.toNat = before.delivery.lastRecvId.toNat + 1)
      (entered : machine.state = .timeWait) (fresh : before.closing.state ≠ .timeWait) :
      Shifts before (.packet line (.reliable packet) clock)
        { before.received packet.id with
          closing := machine
          liveness := before.liveness.timeWaitEntered }
  | bound {input : Input P} {line : Line} {start : Nat} {response : List (Packet P)}
      {pending : Option Line} {index acked : UInt32} (sessionId : UInt32)
      (greets : Greets before input line start response pending index)
      (marked : before.phase = .connecting ∧ acked = before.delivery.lastAckSent ∨
        before.phase = .connected ∧ acked = before.delivery.lastRecvId) :
      Shifts before input
        { before with
          phase := .connected
          sessionId
          current := some line
          pending
          lastLineIndex := index
          delivery := before.delivery.markAckSent acked
          keepalive := before.keepalive.clear
          liveness := before.liveness.lineBound
          actions := before.actions ++ response.map (.send line.id) }
  | forced {reason : CloseReason} (running : before.phase ≠ .closed) :
      Shifts before (.closeImmediately reason) (before.terminate reason)
  | passes {time : Duration} {clock : UInt32} {settled : Session P}
      (running : before.phase ≠ .closed) (passes : Passes before time clock settled) :
      Shifts before (.update time clock) settled

variable {session after : Session P}

private theorem rests_closes (session : Session P) (lines : List Line) :
    Rests session
      { session with
        actions := session.actions ++ lines.map fun closed => .close closed.id false } :=
  { Rests.refl session with
    course := .inl { Abides.refl session with }
    sent := ⟨_, rfl, by simp, .inr (by simp)⟩ }

private theorem shifts_dropLine {input : Input P} (timeless : input.isUpdate = false)
    (bound : session.current.isSome) (running : session.phase ≠ .closed) :
    ∃ shifted, Shifts session input shifted ∧ Rests shifted session.dropLine := by
  refine ⟨_, .lost timeless bound running, ?_⟩
  rw [dropLine_eq, if_neg (by simpa [← Option.isSome_iff_ne_none] using bound)]
  exact rests_closes session.lineLost _

/-- What is taken in is acknowledged by its sender before its body counts. -/
theorem rests_decided (received : Session P) {noted : Session P} {machine : CloseMachine}
    {actions : List CloseAction} (running : received.phase ≠ .closed) {ack : UInt32}
    (notes : received.removeAcked ack = noted) (open_ : noted.phase ≠ .closed)
    (heads : CloseMachine.Heads noted.closing machine actions) :
    Rests received (noted.applyClose (machine, actions)) ∨
      machine.state = .timeWait ∧ received.closing.state ≠ .timeWait ∧
        Rests
          { received with closing := machine, liveness := received.liveness.timeWaitEntered }
          (noted.applyClose (machine, actions)) := by
  have rests : Rests received noted := notes ▸ rests_removeAcked received running ack
  obtain ⟨fresh, ⟨elsewhere, staying⟩ | ⟨entered, earlier, rfl, staying⟩⟩ := heads
  · refine .inl (rests.trans (rests_applyClose noted staying ?_))
    simp [elsewhere, fresh]
  · rcases removeAcked_cases running ack with
      ⟨closing, recorded, same⟩ | ⟨closing, lingered, ends⟩
    · obtain rfl := same.symm.trans notes
      refine .inr ⟨entered, recorded.state ▸ fresh, ?_⟩
      have retired : Rests
          { received with
            closing := machine
            liveness := received.liveness.timeWaitEntered }
          { received with
            delivery := (received.delivery.removeAcked ack).1
            closing := machine
            liveness := received.liveness.timeWaitEntered } :=
        .of_same rfl rfl rfl rfl ⟨rfl, rfl, rfl, rfl, rfl, .rfl⟩ rfl rfl
      exact retired.trans (rests_lingering _ open_ staying)
    · rw [← notes, ends] at open_
      exact absurd (over_terminate _ _).phase open_

theorem PacketOutcome.shifts {line : LineId} {packet : Packet P} {clock : UInt32}
    (outcome : PacketOutcome session packet after) (bound : session.current.isSome)
    (running : session.phase ≠ .closed) :
    ∃ shifted, Shifts session (.packet line packet clock) shifted ∧ Rests shifted after := by
  cases outcome with
  | gap refused => exact shifts_dropLine rfl bound running
  | misplaced strange => exact shifts_dropLine rfl bound running
  | duplicate known => exact ⟨_, .still rfl, .refl _⟩
  | @ended packet delivery accepted isOver =>
      obtain ⟨rfl, next⟩ := Delivery.accept_accepted accepted
      exact ⟨_, .received bound running next,
        rests_removeAcked (session.received packet.id) running packet.ack⟩
  | @taken packet delivery after accepted open_ body =>
      obtain ⟨rfl, next⟩ := Delivery.accept_accepted accepted
      have rests := rests_removeAcked (session.received packet.id) running packet.ack
      have decides {machine : CloseMachine} {actions : List CloseAction}
          (heads : CloseMachine.Heads
            ((session.received packet.id).removeAcked packet.ack).closing machine actions) :
          ∃ shifted, Shifts session (.packet line (.reliable packet) clock) shifted ∧
            Rests shifted
              (((session.received packet.id).removeAcked packet.ack).applyClose
                (machine, actions)) := by
        rcases rests_decided (session.received packet.id) running rfl open_ heads with
          staying | ⟨entered, fresh, lingers⟩
        · exact ⟨_, .received bound running next, staying⟩
        · exact ⟨_, .lingers bound running next entered fresh, lingers⟩
      cases bodied : packet.body with
      | data payload =>
          rw [bodied] at body
          cases body
          exact ⟨_, .received bound running next, rests.trans (rests_emit _ rfl nofun)⟩
      | fin =>
          rw [bodied] at body
          cases body with
          | fin decided => exact decides (CloseMachine.heads_onFin decided)
          | unexpectedFin refused =>
              exact ⟨_, .received bound running next, rests.trans (rests_terminate _ (by simp))⟩
      | finAck =>
          rw [bodied] at body
          cases body with
          | finAck decided => exact decides (CloseMachine.heads_onFinAck decided)
          | unexpectedFinAck refused =>
              exact ⟨_, .received bound running next, rests.trans (rests_terminate _ (by simp))⟩
  | acked => exact ⟨_, .still rfl, rests_removeAcked session running _⟩
  | echoed => exact ⟨_, .still rfl, rests_sendOnCurrent session rfl⟩
  | measured => exact ⟨_, .measured, rests_emit _ rfl nofun⟩
  | unmeasured => exact ⟨_, .still rfl, .refl _⟩

private theorem shifts_bound {input : Input P} {line : Line} {start : Nat}
    {response : List (Packet P)} {pending : Option Line} {index acked : UInt32}
    (sessionId : UInt32) (greets : Greets session input line start response pending index)
    (marked : session.phase = .connecting ∧ acked = session.delivery.lastAckSent ∨
      session.phase = .connected ∧ acked = session.delivery.lastRecvId)
    {opened : Session P}
    (opens : opened =
      { session with
        phase := .connected
        sessionId
        current := some line
        pending
        lastLineIndex := index
        delivery := session.delivery.markAckSent acked
        keepalive := session.keepalive.clear
        liveness := session.liveness.lineBound
        actions := session.actions ++ response.map (.send line.id) ++
          session.current.toList.map fun closed => .close closed.id false })
    (rests : Rests opened after) :
    ∃ shifted, Shifts session input shifted ∧ Rests shifted after := by
  refine ⟨_, .bound sessionId greets marked, ?_⟩
  subst opens
  exact Rests.trans (rests_closes _ _) rests

private theorem rests_localClose :
    Rests session (session.applyClose session.closing.localClose) := by
  unfold CloseMachine.localClose
  split
  · next active => exact rests_applyClose session (by simp) (by simp [active])
  · next waiting => exact rests_applyClose session (by simp) (by simp [waiting])
  · exact rests_applyClose session (by simp) .rfl

theorem Outcome.shifts {input : Input P} (outcome : Outcome session input after)
    (timeless : input.isUpdate = false) :
    ∃ shifted, Shifts session input shifted ∧ Rests shifted after := by
  cases outcome with
  | unchanged unoffered silent => exact ⟨_, .still timeless, .refl _⟩
  | pushed running unsent => exact ⟨_, .still timeless, rests_pushReliable session _⟩
  | aborted connecting => exact ⟨_, .still timeless, rests_terminate session (by simp)⟩
  | closes connected => exact ⟨_, .still timeless, rests_localClose⟩
  | ended running => exact ⟨_, .forced running, .refl _⟩
  | elapsed running => cases timeless
  | dialed running =>
      rw [discard_eq]
      exact ⟨_, .dialed running, rests_closes _ _⟩
  | turnedAway offered => exact ⟨_, .still timeless, rests_discard session _⟩
  | givenUp unoffered silent shaking => exact ⟨_, .released timeless, rests_discard _ _⟩
  | @created line sessionId shaking connecting =>
      refine shifts_bound sessionId (.created shaking connecting) (.inl ⟨connecting, rfl⟩) ?_
        ((rests_emit _ rfl (by simp)).trans (rests_flush _))
      simp [bindCurrent_eq, Delivery.markAckSent]
  | accepted connecting =>
      refine shifts_bound session.sessionId (.attachCreated connecting) (.inl ⟨connecting, rfl⟩) ?_
        ((rests_emit _ rfl (by simp)).trans (rests_flush _))
      simp [bindCurrent_eq, Delivery.markAckSent, act]
  | rebound shaking connected checked =>
      have running : session.phase ≠ .closed := by simp [connected]
      refine shifts_bound session.sessionId (.rebound shaking connected checked) (.inr ⟨connected, rfl⟩) ?_
        (rests_resync _ (by simpa [bindCurrent_eq] using running) _)
      simp [bindCurrent_eq, connected]
  | resumed connected current checked =>
      have running : session.phase ≠ .closed := by simp [connected]
      refine shifts_bound session.sessionId (.attachRebind connected current checked) (.inr ⟨connected, rfl⟩) ?_
        (rests_resync _ (by simpa [bindCurrent_eq, act] using running) _)
      simp [bindCurrent_eq, act, connected]
  | unresumable shaking connected refused =>
      exact ⟨_, .released timeless, (rests_discard _ _).trans (rests_terminate _ (by simp))⟩
  | rejected connected current refused =>
      exact ⟨_, .still timeless, (rests_discard session _).trans (rests_terminate _ (by simp))⟩
  | unreachable shaking connecting => exact ⟨_, .released timeless, rests_terminate _ (by simp)⟩
  | failed shaking connected => exact ⟨_, .failed (isSome_of_id shaking) connected, .refl _⟩
  | lost bound running => exact ⟨_, .lost timeless (isSome_of_id bound) running, .refl _⟩
  | lostPending shaking isOver => exact ⟨_, .released timeless, .refl _⟩
  | lostCurrent bound isOver => exact ⟨_, .forgotten isOver, .refl _⟩
  | heard running bound arrives => exact arrives.shifts (isSome_of_id bound) running

private theorem shifts_update (session : Session P) (time : Duration) (clock : UInt32) :
    ∃ shifted, Shifts session (.update time clock) shifted ∧
      Rests shifted (session.update time clock) := by
  by_cases isOver : session.phase = .closed
  · have idle : session.update time clock = session := if_pos isOver
    rw [idle]
    exact ⟨_, .late isOver, .refl session⟩
  · obtain ⟨settled, passes, told⟩ := passes_update isOver time clock
    refine ⟨settled, .passes isOver passes, ?_⟩
    rw [told]
    split
    · exact rests_sendAck settled
    · exact .refl settled

/-- Whatever happens to a session, one change of its lines and timers is made at most. -/
theorem shifts_step (session : Session P) (input : Input P) :
    ∃ shifted, Shifts session input shifted ∧ Rests shifted (session.step input) := by
  cases input with
  | update time clock => exact shifts_update session time clock
  | _ => exact (session.outcome_step _).shifts rfl

theorem Passes.settings {time : Duration} {clock : UInt32} {settled : Session P}
    (passes : Passes session time clock settled) (running : session.phase ≠ .closed) :
    settled.liveness.settings = session.liveness.settings := by
  cases passes with
  | expired due => rw [terminate_eq]; rfl
  | dials lasts paced due => rw [startRebind_eq]
  | elapsed elapsed lasts =>
      exact (spares_probes elapsed running clock).settings.trans elapsed.settings
  | ended elapsed due lingered =>
      rw [endGracefully_eq, terminate_eq]
      exact (spares_probes elapsed running clock).settings.trans elapsed.settings

theorem Shifts.settings {input : Input P} {shifted : Session P}
    (shifts : Shifts session input shifted) :
    shifted.liveness.settings = session.liveness.settings := by
  cases shifts with
  | measured =>
      simp only [Liveness.aliveConfirmed]
      split <;> rfl
  | forced running => rw [terminate_eq]; rfl
  | passes running passes => exact passes.settings running
  | _ => rfl

theorem settings_step (session : Session P) (input : Input P) :
    (session.step input).liveness.settings = session.liveness.settings := by
  obtain ⟨shifted, shifts, rests⟩ := session.shifts_step input
  exact rests.settings.trans shifts.settings

theorem settings_run (inputs : List (Input P)) :
    ∀ session : Session P, (session.run inputs).liveness.settings = session.liveness.settings := by
  induction inputs with
  | nil => exact fun _ => rfl
  | cons input inputs induction =>
      exact fun session => (induction (session.step input)).trans (session.settings_step input)

/-- What a session tells its owner about an input, oldest first. -/
def toldBy (session : Session P) (input : Input P) : List (Output P) :=
  (session.step input).outputs.drop session.outputs.length

/-- What a session does to lines about an input, oldest first. -/
def doneBy (session : Session P) (input : Input P) : List (LineAction P) :=
  (session.step input).actions.drop session.actions.length

/-- An input lets the time run out for which a session may be without a line. -/
def outlasts (session : Session P) : Input P → Prop
  | .update time _ =>
      session.phase ≠ .closed ∧ (session.liveness.offline.advance time).reached
        session.liveness.settings.offlineTimeout = true
  | _ => False

private theorem not_outlasts {input : Input P} (timeless : input.isUpdate = false) :
    ¬session.outlasts input := by
  cases input with
  | update time clock => cases timeless
  | _ => exact id

/-- What the passing of time tells: the end for want of a line when that is due, and a line
that it asks for is asked for with the ack of what was received. -/
theorem Passes.told {time : Duration} {clock : UInt32} {settled : Session P}
    (passes : Passes session time clock settled) (running : session.phase ≠ .closed) :
    ∃ told, settled.outputs = session.outputs ++ told ∧
      (dialedIn told = [] ∨ session.liveness.rebindLimits.isSome ∧
        dialedIn told = [.rebind session.sessionId (session.lastLineIndex + 1)
          settled.delivery.lastRecvId]) ∧
      (.closed .offlineTimeout ∈ told ↔
        (session.liveness.offline.advance time).reached
          session.liveness.settings.offlineTimeout = true) := by
  cases passes with
  | expired due =>
      exact ⟨[.closed .offlineTimeout], by rw [terminate_eq], .inl rfl, by simp [due]⟩
  | dials lasts paced due =>
      rw [startRebind_eq]
      exact ⟨_, rfl, .inr ⟨by simp [paced], rfl⟩, by simp [lasts]⟩
  | elapsed elapsed lasts =>
      refine ⟨[], ?_, .inl rfl, by simp [elapsed.lasts]⟩
      rw [(spares_probes elapsed running clock).outputs, List.append_nil]
  | ended elapsed due lingered =>
      refine ⟨[.closeStateChanged .closed, .closed .graceful], ?_, .inl rfl,
        by simp [elapsed.lasts]⟩
      rw [endGracefully_eq]
      exact congrArg (· ++ _) (spares_probes elapsed running clock).outputs

/-- What the change tells.  It is the end for want of a line only if time brought that
about, or the owner wants it. -/
theorem Shifts.told {input : Input P} {shifted : Session P}
    (shifts : Shifts session input shifted) :
    ∃ told, shifted.outputs = session.outputs ++ told ∧
      (dialedIn told = [] ∨ session.liveness.rebindLimits.isSome ∧
        dialedIn told = [.rebind session.sessionId (session.lastLineIndex + 1)
          shifted.delivery.lastRecvId]) ∧
      (input ≠ .closeImmediately .offlineTimeout →
        (.closed .offlineTimeout ∈ told ↔ session.outlasts input)) := by
  have silent (outputs : shifted.outputs = session.outputs) (lasts : ¬session.outlasts input) :
      ∃ told, shifted.outputs = session.outputs ++ told ∧
        (dialedIn told = [] ∨ session.liveness.rebindLimits.isSome ∧
          dialedIn told = [.rebind session.sessionId (session.lastLineIndex + 1)
            shifted.delivery.lastRecvId]) ∧
        (input ≠ .closeImmediately .offlineTimeout →
          (.closed .offlineTimeout ∈ told ↔ session.outlasts input)) :=
    ⟨[], by rw [outputs, List.append_nil], .inl rfl,
      fun _ => iff_of_false List.not_mem_nil lasts⟩
  cases shifts with
  | still timeless => exact silent rfl (not_outlasts timeless)
  | late isOver => exact silent rfl fun due => due.1 isOver
  | released timeless => exact silent rfl (not_outlasts timeless)
  | lost timeless bound running => exact silent rfl (not_outlasts timeless)
  | bound sessionId greets marked => exact silent rfl (by cases greets <;> exact id)
  | @forced reason running =>
      refine ⟨[.closed reason], by rw [terminate_eq], .inl rfl, fun unforced => ?_⟩
      have other : reason ≠ .offlineTimeout := fun same => unforced (same ▸ rfl)
      exact iff_of_false (by simp [other.symm]) id
  | passes running passes =>
      obtain ⟨told, outputs, dials, expired⟩ := passes.told running
      exact ⟨told, outputs, dials, fun _ => expired.trans (and_iff_right running).symm⟩
  | _ => exact silent rfl id

/-- What an update tells is told by what time made of the session, which decides whether
it is over. -/
theorem update_passes (running : session.phase ≠ .closed) (time : Duration) (clock : UInt32) :
    ∃ settled, Passes session time clock settled ∧
      (session.update time clock).phase = settled.phase ∧
      settled.outputs = session.outputs ++ session.toldBy (.update time clock) := by
  obtain ⟨settled, passes, updated⟩ := passes_update running time clock
  obtain ⟨told, outputs, -⟩ := passes.told running
  have outcome : (session.update time clock).phase = settled.phase ∧
      (session.update time clock).outputs = settled.outputs := by
    rw [updated]
    split
    · rw [sendAck_eq]
      exact ⟨rfl, rfl⟩
    · exact ⟨rfl, rfl⟩
  refine ⟨settled, passes, outcome.1, ?_⟩
  have toldBy : session.toldBy (.update time clock) =
      (session.update time clock).outputs.drop session.outputs.length := rfl
  rw [toldBy, outcome.2, outputs, List.drop_left]

theorem Rests.toldBy_eq {input : Input P} {shifted : Session P}
    (rests : Rests shifted (session.step input)) {told : List (Output P)}
    (outputs : shifted.outputs = session.outputs ++ told) :
    ∃ later, session.toldBy input = told ++ later ∧ dialedIn later = [] ∧
      .closed .offlineTimeout ∉ later := by
  obtain ⟨later, extended, undialed, open_⟩ := rests.told
  refine ⟨later, ?_, undialed, open_⟩
  rw [toldBy, extended, outputs, List.append_assoc, List.drop_left]

end Session

end ResumableSession
