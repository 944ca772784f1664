import ResumableSession.Proofs.Session.Handing
import ResumableSession.Proofs.Session.TimerUpdates

/-!
# What leaves lines and timers alone

Most of what a session does leaves its lines and its timers alone or ends it, and
what it sends then acknowledges what was received.  Nothing here depends on how ids
are given out: it holds when they have run out as well.
-/

namespace ResumableSession

variable {P : Type}

/-- The ack that a packet carries. -/
def Packet.ack? : Packet P → Option UInt32
  | .ack latest | .rebindRequest _ _ latest | .rebindResponse latest => some latest
  | .reliable packet => some packet.ack
  | _ => none

/-- The acks that went out, oldest first, each with its line. -/
def acksIn (actions : List (LineAction P)) : List (LineId × UInt32) :=
  actions.filterMap fun
    | .send line packet => packet.ack?.map (Prod.mk line)
    | .close .. => none

@[simp] theorem acksIn_append (earlier later : List (LineAction P)) :
    acksIn (earlier ++ later) = acksIn earlier ++ acksIn later :=
  List.filterMap_append

@[simp] theorem acksIn_nil : acksIn ([] : List (LineAction P)) = [] := rfl

@[simp] theorem acksIn_closes (lines : List Line) (graceful : Bool) :
    acksIn (P := P) (lines.map fun closed => .close closed.id graceful) = [] := by
  induction lines with
  | nil => rfl
  | cons head tail induction => exact induction

theorem acksIn_sends (lines : List Line) (packet : Packet P) :
    acksIn (lines.map fun line => .send line.id packet) =
      lines.flatMap fun line => packet.ack?.toList.map (Prod.mk line.id) := by
  induction lines with
  | nil => rfl
  | cons head tail induction =>
      rw [List.flatMap_cons, ← induction]
      cases ack : packet.ack? <;> simp [acksIn, ack]

private theorem acksIn_reliables (line : LineId) (packets : List (ReliablePacket P)) :
    acksIn ((packets.map Packet.reliable).map (.send line)) =
      packets.map fun packet => (line, packet.ack) := by
  induction packets with
  | nil => rfl
  | cons packet packets induction => exact congrArg (List.cons _) induction

namespace Session

/-- The session is over, and holds no line. -/
structure Over (session : Session P) : Prop where
  phase : session.phase = .closed
  current : session.current = none
  pending : session.pending = none
  liveness : session.liveness.stopAll = session.liveness
  keepalive : session.keepalive.clear = session.keepalive

/-- The lines and the timers are as they were. -/
structure Abides (before after : Session P) : Prop where
  phase : after.phase = before.phase
  current : after.current = before.current
  pending : after.pending = before.pending
  liveness : after.liveness = before.liveness
  keepalive : after.keepalive = before.keepalive
  timeWait : after.closing.state = .timeWait ↔ before.closing.state = .timeWait

/-- A session goes on without a change of its lines and timers, or ends.  What it
sends acknowledges on the bound line what was received, and the session keeps track
of that. -/
structure Rests (before after : Session P) : Prop where
  role : after.role = before.role
  index : after.lastLineIndex = before.lastLineIndex
  settings : after.liveness.settings = before.liveness.settings
  limits : after.liveness.rebindLimits = before.liveness.rebindLimits
  recvId : after.delivery.lastRecvId = before.delivery.lastRecvId
  course : Abides before after ∨ Over after
  told : ∃ told, after.outputs = before.outputs ++ told ∧ dialedIn told = [] ∧
    .closed .offlineTimeout ∉ told
  sent : ∃ sent, after.actions = before.actions ++ sent ∧
    (∀ given ∈ acksIn sent, before.current.map (·.id) = some given.1 ∧
      given.2 = before.delivery.lastRecvId) ∧
    (after.phase = .closed ∨ after.delivery.lastAckSent =
      if (acksIn sent).isEmpty then before.delivery.lastAckSent else before.delivery.lastRecvId)

theorem Abides.refl (session : Session P) : Abides session session :=
  ⟨rfl, rfl, rfl, rfl, rfl, .rfl⟩

namespace Rests

variable {first second third session : Session P}

theorem refl (session : Session P) : Rests session session where
  role := rfl
  index := rfl
  settings := rfl
  limits := rfl
  recvId := rfl
  course := .inl (.refl session)
  told := ⟨[], (List.append_nil _).symm, rfl, List.not_mem_nil⟩
  sent := ⟨[], (List.append_nil _).symm, by simp, .inr rfl⟩

theorem isOver (rests : Rests first second) (isOver : first.phase = .closed) :
    second.phase = .closed := by
  rcases rests.course with abides | ended
  · exact abides.phase.trans isOver
  · exact ended.phase

theorem trans (earlier : Rests first second) (later : Rests second third) :
    Rests first third where
  role := later.role.trans earlier.role
  index := later.index.trans earlier.index
  settings := later.settings.trans earlier.settings
  limits := later.limits.trans earlier.limits
  recvId := later.recvId.trans earlier.recvId
  course := by
    rcases later.course with abides | ended
    · rcases earlier.course with abided | ended
      · exact .inl
          { phase := abides.phase.trans abided.phase
            current := abides.current.trans abided.current
            pending := abides.pending.trans abided.pending
            liveness := abides.liveness.trans abided.liveness
            keepalive := abides.keepalive.trans abided.keepalive
            timeWait := abides.timeWait.trans abided.timeWait }
      · exact .inr
          { phase := abides.phase.trans ended.phase
            current := abides.current.trans ended.current
            pending := abides.pending.trans ended.pending
            liveness := by rw [abides.liveness, ended.liveness]
            keepalive := by rw [abides.keepalive, ended.keepalive] }
    · exact .inr ended
  told := by
    obtain ⟨told, outputs, undialed, open_⟩ := earlier.told
    obtain ⟨told', outputs', undialed', open_'⟩ := later.told
    refine ⟨told ++ told', ?_, ?_, ?_⟩
    · rw [outputs', outputs, List.append_assoc]
    · rw [dialedIn_append, undialed, undialed']
      rfl
    · rw [List.mem_append, not_or]
      exact ⟨open_, open_'⟩
  sent := by
    obtain ⟨sent, actions, given, marked⟩ := earlier.sent
    obtain ⟨sent', actions', given', marked'⟩ := later.sent
    refine ⟨sent ++ sent', ?_, ?_, ?_⟩
    · rw [actions', actions, List.append_assoc]
    · intro ack member
      rw [acksIn_append] at member
      rcases List.mem_append.mp member with old | new
      · exact given ack old
      · obtain ⟨line, latest⟩ := given' ack new
        rcases earlier.course with abides | ended
        · exact ⟨abides.current ▸ line, latest.trans earlier.recvId⟩
        · simp [ended.current] at line
    · rcases marked' with isOver | marked'
      · exact .inl isOver
      rcases marked with isOver | marked
      · exact .inl (later.isOver isOver)
      refine .inr ?_
      rw [marked', marked, earlier.recvId, acksIn_append]
      cases acksIn sent <;> cases acksIn sent' <;> simp

theorem of_same (role : second.role = first.role) (index : second.lastLineIndex = first.lastLineIndex)
    (recvId : second.delivery.lastRecvId = first.delivery.lastRecvId)
    (ackSent : second.delivery.lastAckSent = first.delivery.lastAckSent)
    (abides : Abides first second) (outputs : second.outputs = first.outputs)
    (actions : second.actions = first.actions) : Rests first second where
  role
  index
  settings := by rw [abides.liveness]
  limits := by rw [abides.liveness]
  recvId
  course := .inl abides
  told := ⟨[], by rw [outputs, List.append_nil], rfl, List.not_mem_nil⟩
  sent := ⟨[], by rw [actions, List.append_nil], by simp, .inr ackSent⟩

end Rests

/-! ## The parts of a step -/

section

variable (session : Session P)

theorem rests_emit {output : Output P} (undialed : dialedIn [output] = [])
    (open_ : output ≠ .closed .offlineTimeout) : Rests session (session.emit output) :=
  { Rests.refl session with
    course := .inl { Abides.refl session with }
    told := ⟨[output], rfl, undialed, by simpa using open_.symm⟩ }

theorem rests_discard (line : Option Line) : Rests session (session.discard line) := by
  rw [discard_eq]
  exact
    { Rests.refl session with
      course := .inl { Abides.refl session with }
      sent := ⟨_, rfl, by simp, .inr (by simp)⟩ }

theorem over_terminate (reason : CloseReason) : Over (session.terminate reason) := by
  rw [terminate_eq]
  exact ⟨rfl, rfl, rfl, rfl, rfl⟩

theorem rests_terminate {reason : CloseReason} (online : reason ≠ .offlineTimeout) :
    Rests session (session.terminate reason) := by
  have ended := session.over_terminate reason
  rw [terminate_eq] at ended ⊢
  exact
    { Rests.refl session with
      course := .inr ended
      told := ⟨_, rfl, rfl, by simpa using online.symm⟩
      sent := ⟨_, List.append_assoc _ _ _, by simp, .inl rfl⟩ }

theorem rests_sendOnCurrent {packet : Packet P} (silent : packet.ack? = none) :
    Rests session (session.sendOnCurrent packet) := by
  rw [sendOnCurrent_eq]
  exact
    { Rests.refl session with
      course := .inl { Abides.refl session with }
      sent := ⟨_, rfl, by simp [acksIn_sends, silent], .inr (by simp [acksIn_sends, silent])⟩ }

theorem rests_sendAck : Rests session session.sendAck := by
  rw [sendAck_eq]
  cases current : session.current with
  | none =>
      refine Rests.of_same rfl rfl rfl rfl ?_ rfl (by simp)
      exact { Abides.refl session with current := current.symm }
  | some line =>
      exact
        { Rests.refl session with
          course := .inl { Abides.refl session with current := current.symm }
          sent := by
            refine ⟨_, rfl, ?_, .inr ?_⟩
            · simp [acksIn, Packet.ack?, current]
            · simp [acksIn, Packet.ack?, Delivery.markAckSent] }

/-- Whatever the counters say, packets that a flush hands over acknowledge what was
received. -/
theorem rests_flush : Rests session session.flush := by
  unfold flush
  split
  · exact .refl session
  next bound =>
  obtain ⟨line, current⟩ : ∃ line, session.current = some line := by
    cases current : session.current with
    | none => simp [current] at bound
    | some line => exact ⟨line, rfl⟩
  split
  · next delivery packets flushed =>
      rw [foldl_sendOnCurrent]
      unfold Delivery.flush at flushed
      split at flushed
      · simp at flushed
      · simp only [Except.ok.injEq, Prod.mk.injEq] at flushed
        obtain ⟨rfl, rfl⟩ := flushed
        simp only [current, Option.toList_some, List.flatMap_cons, List.flatMap_nil,
          List.append_nil]
        refine
          { Rests.refl session with
            course := .inl { Abides.refl session with current := current.symm }
            sent := ⟨_, rfl, ?_, .inr ?_⟩ }
        · intro given member
          rw [acksIn_reliables] at member
          simp only [List.map_map, List.mem_map, Function.comp_apply] at member
          obtain ⟨packet, _, rfl⟩ := member
          exact ⟨by rw [current]; rfl, rfl⟩
        · simp only [acksIn_reliables, List.isEmpty_map]
  · exact rests_terminate session (by simp)

theorem rests_pushReliable (body : ReliableBody P) :
    Rests session (session.pushReliable body).1 := by
  have numbered : Rests session { session with delivery := (session.delivery.push body).1 } :=
    .of_same rfl rfl rfl rfl { Abides.refl session with } rfl rfl
  exact numbered.trans (rests_flush _)

private theorem rests_recording {closing : CloseMachine}
    (same : closing.state = session.closing.state) :
    Rests session { session with closing } :=
  .of_same rfl rfl rfl rfl { Abides.refl session with timeWait := by rw [same] } rfl rfl

private theorem rests_applyAction {action : CloseAction} (staying : action ≠ .enter .timeWait) :
    Rests session (session.applyAction action) := by
  unfold applyAction
  split
  · exact .refl session
  · cases action with
    | sendFin => exact (rests_pushReliable session .fin).trans (rests_recording _ rfl)
    | sendFinAck => exact (rests_pushReliable session .finAck).trans (rests_recording _ rfl)
    | sendAck => exact rests_sendAck session
    | enter state =>
        have entered : Rests session (session.emit (.closeStateChanged state)) :=
          rests_emit session rfl nofun
        cases state with
        | timeWait => exact (staying rfl).elim
        | closed => exact entered.trans (rests_terminate _ (by simp))
        | _ => exact entered

private theorem rests_foldl_applyAction (actions : List CloseAction)
    (staying : .enter .timeWait ∉ actions) :
    ∀ session : Session P, Rests session (actions.foldl applyAction session) := by
  induction actions with
  | nil => exact .refl
  | cons action actions induction =>
      intro session
      rw [List.mem_cons, not_or] at staying
      exact (rests_applyAction session (Ne.symm staying.1)).trans (induction staying.2 _)

theorem rests_applyClose {machine : CloseMachine} {actions : List CloseAction}
    (staying : .enter .timeWait ∉ actions)
    (timeWait : machine.state = .timeWait ↔ session.closing.state = .timeWait) :
    Rests session (session.applyClose (machine, actions)) := by
  have moved : Rests session { session with closing := machine } :=
    .of_same rfl rfl rfl rfl { Abides.refl session with timeWait } rfl rfl
  exact moved.trans (rests_foldl_applyAction actions staying _)

theorem rests_endGracefully (machine : CloseMachine) :
    Rests session (session.endGracefully machine) := by
  have ended : Over (session.endGracefully machine) := over_terminate _ _
  rw [endGracefully_eq, terminate_eq] at ended ⊢
  exact
    { Rests.refl session with
      course := .inr ended
      told := ⟨_, rfl, rfl, by simp⟩
      sent := ⟨_, List.append_assoc _ _ _, by simp, .inl rfl⟩ }

/-- A decision to linger is carried out, unless the session ends over it. -/
theorem rests_lingering {machine : CloseMachine} {actions : List CloseAction}
    (running : session.phase ≠ .closed) (staying : .enter .timeWait ∉ actions) :
    Rests
      { session with closing := machine, liveness := session.liveness.timeWaitEntered }
      (session.applyClose (machine, actions ++ [.enter .timeWait])) := by
  have rests : Rests { session with closing := machine }
      (actions.foldl applyAction { session with closing := machine }) :=
    rests_foldl_applyAction actions staying _
  unfold applyClose
  rw [List.foldl_append]
  generalize actions.foldl applyAction { session with closing := machine } = taken at rests ⊢
  have outcome : List.foldl applyAction taken [.enter .timeWait] =
      if taken.phase = .closed then taken
      else
        { taken.emit (.closeStateChanged .timeWait) with
          liveness := taken.liveness.timeWaitEntered } := rfl
  rw [outcome]
  obtain ⟨told, outputs, undialed, open_⟩ := rests.told
  split
  · next isOver =>
      have ended : Over taken := by
        rcases rests.course with abides | ended
        · exact absurd (abides.phase.symm.trans isOver) running
        · exact ended
      exact
        { role := rests.role
          index := rests.index
          settings := rests.settings
          limits := rests.limits
          recvId := rests.recvId
          course := .inr ended
          told := ⟨told, outputs, undialed, open_⟩
          sent := rests.sent }
  · next open__ =>
      have abides : Abides { session with closing := machine } taken := by
        rcases rests.course with abides | ended
        · exact abides
        · exact absurd ended.phase open__
      exact
        { role := rests.role
          index := rests.index
          settings := rests.settings
          limits := rests.limits
          recvId := rests.recvId
          course := .inl
            { phase := abides.phase
              current := abides.current
              pending := abides.pending
              liveness := by
                simp only [abides.liveness]
              keepalive := abides.keepalive
              timeWait := abides.timeWait }
          told := by
            refine ⟨told ++ [.closeStateChanged .timeWait], ?_, ?_, ?_⟩
            · rw [← List.append_assoc]
              exact congrArg (· ++ _) outputs
            · rw [dialedIn_append, undialed]
              rfl
            · simpa using open_
          sent := rests.sent }

/-- An ack ends a session that lingers, and leaves every other one alone. -/
theorem rests_removeAcked (running : session.phase ≠ .closed) (ack : UInt32) :
    Rests session (session.removeAcked ack) := by
  have retired : Rests session
      { session with delivery := (session.delivery.removeAcked ack).1 } :=
    .of_same rfl rfl rfl rfl { Abides.refl session with } rfl rfl
  rcases removeAcked_cases running ack with
    ⟨closing, recorded, noted⟩ | ⟨closing, lingered, ends⟩
  · rw [noted]
    exact retired.trans (rests_recording _ recorded.state)
  · rw [ends]
    exact retired.trans (rests_endGracefully _ _)

theorem rests_resync (running : session.phase ≠ .closed) (ack : UInt32) :
    Rests
      { session with delivery := session.delivery.markAckSent session.delivery.lastRecvId }
      (session.resync ack) := by
  rcases resync_cases running ack with
    ⟨closing, recorded, handsOver⟩ | ⟨closing, lingered, ends⟩
  · have rewound : Rests
        { session with delivery := session.delivery.markAckSent session.delivery.lastRecvId }
        { session with delivery := (session.delivery.removeAcked ack).1.rewindLine ack, closing } :=
      .of_same rfl rfl rfl rfl
        { Abides.refl session with timeWait := by rw [recorded.state] } rfl rfl
    rw [handsOver]
    exact rewound.trans (rests_flush _)
  · have ended : Over (endGracefully
        { session with delivery := (session.delivery.removeAcked ack).1 } closing) :=
      over_terminate _ _
    rw [ends]
    rw [endGracefully_eq, terminate_eq] at ended ⊢
    exact
      { Rests.refl session with
        course := .inr ended
        told := ⟨_, rfl, rfl, by simp⟩
        sent := ⟨_, List.append_assoc _ _ _, by simp, .inl rfl⟩ }

end

end Session

end ResumableSession
