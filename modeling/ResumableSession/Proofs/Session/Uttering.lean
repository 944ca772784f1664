import ResumableSession.Proofs.Session.Shifts

/-!
# What a session says

A session sends reliable packets whose bodies it was given or makes itself, answers on
lines that were accepted, acks, probes and answers to probes; requests for handshakes are
for the lines to send.  Probes are sent when they are due and at no other time, and a
session never finds by itself that something cannot be encoded.
-/

namespace ResumableSession

variable {P : Type}

/-- What a session may send, if these are the bodies that it may send. -/
def Packet.Said (may : ReliableBody P → Prop) : Packet P → Prop
  | .reliable packet => may packet.body
  | .createRequest _ | .rebindRequest .. => False
  | _ => True

/-- The probes that were sent, oldest first, each with its line. -/
def probesIn (actions : List (LineAction P)) : List (LineId × UInt32) :=
  actions.filterMap fun
    | .send line (.pingRequest ticks) => some (line, ticks)
    | _ => none

@[simp] theorem probesIn_append (earlier later : List (LineAction P)) :
    probesIn (earlier ++ later) = probesIn earlier ++ probesIn later :=
  List.filterMap_append

@[simp] theorem probesIn_closes (lines : List Line) (graceful : Bool) :
    probesIn (P := P) (lines.map fun closed => .close closed.id graceful) = [] := by
  induction lines with
  | nil => rfl
  | cons head tail induction => exact induction

private theorem probesIn_reliables (line : LineId) (packets : List (ReliablePacket P)) :
    probesIn ((packets.map Packet.reliable).map (.send line)) = [] := by
  induction packets with
  | nil => rfl
  | cons packet packets induction => exact induction

namespace Session

/-- All that is buffered may be sent. -/
def Buffers (may : ReliableBody P → Prop) (session : Session P) : Prop :=
  ∀ packet ∈ session.delivery.buffer, may packet.body

/-- A session has sent these probes, and otherwise what it may send. -/
structure Utters (may : ReliableBody P → Prop) (probes : List (LineId × UInt32))
    (before after : Session P) : Prop where
  held : Buffers may before → Buffers may after
  sent : ∃ sent, after.actions = before.actions ++ sent ∧ probesIn sent = probes ∧
    (Buffers may before → ∀ line packet, .send line packet ∈ sent → packet.Said may)
  told : ∃ told, after.outputs = before.outputs ++ told ∧ .closed .unencodable ∉ told

variable {may : ReliableBody P → Prop} {probes later : List (LineId × UInt32)}
  {session first second third after settled : Session P} {time : Duration} {clock : UInt32}

theorem Utters.refl (session : Session P) : Utters may [] session session where
  held := id
  sent := ⟨[], (List.append_nil _).symm, rfl, fun _ _ _ => nofun⟩
  told := ⟨[], (List.append_nil _).symm, List.not_mem_nil⟩

theorem Utters.trans (earlier : Utters may probes first second)
    (following : Utters may later second third) : Utters may (probes ++ later) first third where
  held := following.held ∘ earlier.held
  sent := by
    obtain ⟨sent, actions, probed, said⟩ := earlier.sent
    obtain ⟨sent', actions', probed', said'⟩ := following.sent
    refine ⟨sent ++ sent', ?_, ?_, fun holds line packet member => ?_⟩
    · rw [actions', actions, List.append_assoc]
    · rw [probesIn_append, probed, probed']
    · rcases List.mem_append.mp member with old | new
      · exact said holds line packet old
      · exact said' (earlier.held holds) line packet new
  told := by
    obtain ⟨told, outputs, encodable⟩ := earlier.told
    obtain ⟨told', outputs', encodable'⟩ := following.told
    refine ⟨told ++ told', ?_, ?_⟩
    · rw [outputs', outputs, List.append_assoc]
    · rw [List.mem_append, not_or]
      exact ⟨encodable, encodable'⟩

theorem Utters.then (earlier : Utters may [] first second)
    (following : Utters may probes second third) : Utters may probes first third :=
  earlier.trans following

private theorem utters_silent
    (kept : ∀ packet ∈ after.delivery.buffer, packet ∈ session.delivery.buffer)
    (actions : after.actions = session.actions) (outputs : after.outputs = session.outputs) :
    Utters may [] session after where
  held := fun holds packet member => holds packet (kept packet member)
  sent := ⟨[], by rw [actions, List.append_nil], rfl, fun _ _ _ => nofun⟩
  told := ⟨[], by rw [outputs, List.append_nil], List.not_mem_nil⟩

/-! ## The parts of a step -/

section

variable (session : Session P)

private theorem utters_emit {output : Output P} (encodable : output ≠ .closed .unencodable) :
    Utters may [] session (session.emit output) :=
  { Utters.refl session with
    told := ⟨[output], rfl, by simpa using encodable.symm⟩ }

private theorem utters_discard (line : Option Line) :
    Utters may [] session (session.discard line) := by
  rw [discard_eq]
  exact
    { Utters.refl session with
      sent := ⟨_, rfl, by simp, fun _ line packet member => by simp at member⟩ }

private theorem utters_terminate {reason : CloseReason} (encodable : reason ≠ .unencodable) :
    Utters may [] session (session.terminate reason) := by
  rw [terminate_eq]
  refine ⟨id, ⟨_, List.append_assoc _ _ _, by simp, ?_⟩, ⟨_, rfl, by simpa using encodable.symm⟩⟩
  intro _ line packet member
  simp at member

private theorem utters_sendOnCurrent {packet : Packet P} (said : packet.Said may) :
    Utters may (probesIn (session.current.toList.map fun line => .send line.id packet)) session
      (session.sendOnCurrent packet) := by
  rw [sendOnCurrent_eq]
  refine { Utters.refl session with sent := ⟨_, rfl, rfl, ?_⟩ }
  intro _ target sent member
  obtain ⟨line, -, same⟩ := List.mem_map.mp member
  cases same
  exact said

private theorem utters_sendAck : Utters may [] session session.sendAck := by
  rw [sendAck_eq]
  cases session.current with
  | none => exact utters_silent (fun _ => id) (List.append_nil _) rfl
  | some line =>
      refine ⟨id, ⟨_, rfl, rfl, ?_⟩, ⟨[], (List.append_nil _).symm, List.not_mem_nil⟩⟩
      intro _ target packet member
      simp only [Option.toList_some, List.map_cons, List.map_nil, List.mem_singleton,
        LineAction.send.injEq] at member
      rw [member.2]
      exact trivial

/-- Whatever the counters say, a flush sends what is buffered. -/
theorem utters_flush : Utters may [] session session.flush := by
  unfold flush
  split
  · exact .refl session
  next bound =>
  obtain ⟨line, current⟩ : ∃ line, session.current = some line := by
    cases current : session.current with
    | none => simp [current] at bound
    | some line => exact ⟨line, rfl⟩
  split
  · next delivery packets flushed =>
      rw [foldl_sendOnCurrent]
      unfold Delivery.flush at flushed
      split at flushed
      · simp at flushed
      · simp only [Except.ok.injEq, Prod.mk.injEq] at flushed
        obtain ⟨rfl, rfl⟩ := flushed
        have stamped (kept : Nat) (holds : Buffers may session) :
            ∀ packet ∈ (session.delivery.buffer.drop kept).map fun packet =>
                { packet with ack := session.delivery.lastRecvId }, may packet.body := by
          intro packet member
          obtain ⟨packet, among, rfl⟩ := List.mem_map.mp member
          exact holds packet (List.mem_of_mem_drop among)
        simp only [current, Option.toList_some, List.flatMap_cons, List.flatMap_nil,
          List.append_nil]
        refine ⟨fun holds packet member => ?_, ⟨_, rfl, probesIn_reliables _ _, ?_⟩,
          ⟨[], (List.append_nil _).symm, List.not_mem_nil⟩⟩
        · rcases List.mem_append.mp member with old | handed
          · exact holds packet (List.mem_of_mem_take old)
          · exact stamped _ holds packet handed
        · intro holds target packet member
          obtain ⟨sent, among, same⟩ := List.mem_map.mp member
          obtain ⟨reliable, handed, rfl⟩ := List.mem_map.mp among
          cases same
          exact stamped _ holds reliable handed
  · exact utters_terminate session (by simp)

private theorem utters_pushReliable {body : ReliableBody P} (allowed : may body) :
    Utters may [] session (session.pushReliable body).1 := by
  have numbered : Utters may [] session
      { session with delivery := (session.delivery.push body).1 } := by
    refine { Utters.refl session with held := fun holds packet member => ?_ }
    rcases List.mem_append.mp member with old | new
    · exact holds packet old
    · rw [List.mem_singleton.mp new]
      exact allowed
  exact numbered.then (utters_flush _)

private theorem utters_recording (closing : CloseMachine) :
    Utters may [] session { session with closing } :=
  utters_silent (fun _ => id) rfl rfl

end

section Closing

variable (fin : may .fin) (finAck : may .finAck)

include fin finAck

private theorem utters_applyAction (session : Session P) (action : CloseAction) :
    Utters may [] session (session.applyAction action) := by
  unfold applyAction
  split
  · exact .refl session
  · cases action with
    | sendFin => exact (utters_pushReliable session fin).then (utters_recording _ _)
    | sendFinAck => exact (utters_pushReliable session finAck).then (utters_recording _ _)
    | sendAck => exact utters_sendAck session
    | enter state =>
        have entered : Utters may [] session (session.emit (.closeStateChanged state)) :=
          utters_emit session nofun
        cases state with
        | timeWait => exact entered.then (utters_silent (fun _ => id) rfl rfl)
        | closed => exact entered.then (utters_terminate _ (by simp))
        | _ => exact entered

private theorem utters_applyClose (session : Session P)
    (decision : CloseMachine × List CloseAction) :
    Utters may [] session (session.applyClose decision) := by
  have folded (actions : List CloseAction) :
      ∀ session : Session P, Utters may [] session (actions.foldl applyAction session) := by
    induction actions with
    | nil => exact .refl
    | cons action actions induction =>
        exact fun session => (utters_applyAction fin finAck session action).then (induction _)
  exact (utters_recording session decision.1).then (folded decision.2 _)

private theorem utters_removeAcked (session : Session P) (ack : UInt32) :
    Utters may [] session (session.removeAcked ack) := by
  have retired : Utters may [] session
      { session with delivery := (session.delivery.removeAcked ack).1 } :=
    utters_silent (fun _ member => (List.dropWhile_sublist _).subset member) rfl rfl
  unfold removeAcked
  dsimp only
  split
  · exact retired
  · exact retired.then (utters_applyClose fin finAck _ _)

private theorem utters_resync (session : Session P) (ack : UInt32) :
    Utters may [] session (session.resync ack) := by
  have acked := utters_removeAcked fin finAck session ack
  unfold resync
  dsimp only
  split
  · exact acked
  · have rewound : Utters may [] (session.removeAcked ack)
        { session.removeAcked ack with
          delivery := (session.removeAcked ack).delivery.rewindLine ack } :=
      utters_silent (fun _ => id) rfl rfl
    exact acked.then (rewound.then (utters_flush _))

end Closing

private theorem utters_bindCurrent (session : Session P) (line : Line) :
    Utters may [] session (session.bindCurrent line) := by
  rw [bindCurrent_eq]
  exact
    { Utters.refl session with
      sent := ⟨_, rfl, by simp, fun _ line packet member => by simp at member⟩ }

private theorem utters_dropLine (session : Session P) : Utters may [] session session.dropLine := by
  unfold dropLine
  split
  · exact .refl session
  · exact (utters_discard session _).then (utters_silent (fun _ => id) rfl rfl)

private theorem utters_startRebind (session : Session P) :
    Utters may [] session session.startRebind := by
  have given : Utters may [] session
      { session.discard session.pending with
        pending := none
        lastLineIndex := session.lastLineIndex + 1 } :=
    (utters_discard session _).then (utters_silent (fun _ => id) rfl rfl)
  exact given.then (utters_emit _ nofun)

private theorem utters_created (session : Session P) (line : Line) (sessionId : UInt32) :
    Utters may [] session
      (flush (emit { session.bindCurrent line with phase := .connected }
        (.connected sessionId))) := by
  have connected : Utters may [] session { session.bindCurrent line with phase := .connected } :=
    (utters_bindCurrent session line).then (utters_silent (fun _ => id) rfl rfl)
  have told : Utters may [] session
      (emit { session.bindCurrent line with phase := .connected } (.connected sessionId)) :=
    connected.then (utters_emit _ nofun)
  exact told.then (utters_flush _)

private theorem utters_answered (session : Session P) {packet : Packet P} (said : packet.Said may)
    (line : LineId) (index : UInt32) (unprobed : probesIn [.send line packet] = []) :
    Utters may [] session { session.act (.send line packet) with lastLineIndex := index } := by
  refine { Utters.refl session with sent := ⟨[.send line packet], rfl, unprobed, ?_⟩ }
  intro _ target sent member
  cases List.mem_singleton.mp member
  exact said

/-! ## Time -/

/-- A probe is due, and nothing that comes before it. -/
def pings (session : Session P) (time : Duration) : Prop :=
  session.phase ≠ .closed ∧
    (session.liveness.offline.advance time).reached
      session.liveness.settings.offlineTimeout = false ∧
    (session.liveness.tickRebind time).2 = false ∧
    .sendPing ∈ (session.liveness.tickAlive time).2

instance (session : Session P) (time : Duration) : Decidable (session.pings time) :=
  inferInstanceAs (Decidable (_ ∧ _))

/-- The probes that an input makes a session send. -/
def probesDue (session : Session P) : Input P → List (LineId × UInt32)
  | .update time clock =>
      if session.pings time then session.current.toList.map fun line => (line.id, clock) else []
  | _ => []

/-- What is due of probing is done, whichever it is. -/
theorem probing_cases {liveness : Liveness} {probes : List LivenessEvent}
    (elapsed : session.liveness.Elapsed time liveness probes)
    (running : session.phase ≠ .closed) (clock : UInt32) :
    probes = [] ∧
        probes.foldl (onDue clock) { session with liveness } = { session with liveness } ∨
      probes = [.sendPing] ∧
          probes.foldl (onDue clock) { session with liveness } =
            sendPing { session with liveness } clock ∨
        probes = [.aliveWaitExpired] ∧
          probes.foldl (onDue clock) { session with liveness } =
            dropLine { session with liveness } := by
  have due := session.liveness.tickAlive_probes time
  rw [elapsed.probing] at due
  rcases due with none | ping | dead
  · exact .inl ⟨none, by rw [show probes = [] from none]; rfl⟩
  · simp only at ping
    exact .inr (.inl ⟨ping, by simp [ping, onDue, running]⟩)
  · simp only at dead
    exact .inr (.inr ⟨dead, by simp [dead, onDue, running]⟩)

theorem Passes.utters (passes : Passes session time clock settled)
    (running : session.phase ≠ .closed) :
    Utters may (session.probesDue (.update time clock)) session settled := by
  have silent (quiet : ¬session.pings time) :
      session.probesDue (.update time clock) = [] := if_neg quiet
  have moved (liveness : Liveness) : Utters may [] session { session with liveness } :=
    utters_silent (fun _ => id) rfl rfl
  have probed {liveness : Liveness} {probes : List LivenessEvent}
      (elapsed : session.liveness.Elapsed time liveness probes) :
      Utters may (session.probesDue (.update time clock)) session
        (probes.foldl (onDue clock) { session with liveness }) := by
    have alive : (session.liveness.tickAlive time).2 = probes :=
      congrArg Prod.snd elapsed.probing
    rcases probing_cases elapsed running clock with
      ⟨none, same⟩ | ⟨ping, pinged⟩ | ⟨dead, dropped⟩
    · rw [same, silent (by simp [pings, alive, none])]
      exact moved liveness
    · have due : session.pings time := by
        simp [pings, running, elapsed.lasts, elapsed.resting, alive, ping]
      rw [pinged, probesDue, if_pos due, sendPing_eq]
      refine ⟨id, ⟨_, rfl, ?_, ?_⟩, ⟨[], (List.append_nil _).symm, List.not_mem_nil⟩⟩
      · cases session.current <;> rfl
      · intro _ target packet member
        obtain ⟨line, -, same⟩ := List.mem_map.mp member
        cases same
        exact trivial
    · rw [dropped, silent (by simp [pings, alive, dead])]
      exact (moved liveness).then (utters_dropLine _)
  cases passes with
  | expired due =>
      rw [silent (by simp [pings, due])]
      exact (moved _).then (utters_terminate _ (by simp))
  | dials lasts paced due =>
      have isDue : (session.liveness.tickRebind time).2 = true := by
        simp only [Liveness.tickRebind, paced]
        rw [if_pos (by simpa using due)]
      rw [silent (by simp [pings, isDue])]
      exact (moved _).then (utters_startRebind _)
  | elapsed elapsed lasts => exact probed elapsed
  | @ended liveness probes machine elapsed due lingered =>
      have ending (closing : Session P) :
          Utters may [] closing (closing.endGracefully machine) := by
        have told : Utters may [] closing
            (emit { closing with closing := machine } (.closeStateChanged .closed)) :=
          (utters_recording closing machine).then (utters_emit _ nofun)
        exact told.then (utters_terminate _ (by simp))
      have ends := (probed elapsed).trans (ending _)
      rwa [List.append_nil] at ends

/-! ## A step -/

section Step

variable (fin : may .fin) (finAck : may .finAck)

include fin finAck

theorem BodyOutcome.utters {body : ReliableBody P} (outcome : BodyOutcome session body after) :
    Utters may [] session after := by
  cases outcome with
  | delivered => exact utters_emit session nofun
  | fin | finAck => exact utters_applyClose fin finAck session _
  | unexpectedFin | unexpectedFinAck => exact utters_terminate session (by simp)

theorem PacketOutcome.utters {packet : Packet P}
    (outcome : PacketOutcome session packet after) : Utters may [] session after := by
  have taken {delivery : Delivery P} {id : UInt32} {receipt : Receipt} (ack : UInt32)
      (accepted : session.delivery.accept id = .ok (delivery, receipt)) :
      Utters may [] session (removeAcked { session with delivery } ack) := by
    have counted : Utters may [] session { session with delivery } := by
      refine utters_silent (fun packet member => ?_) rfl rfl
      unfold Delivery.accept at accepted
      dsimp only at accepted
      split at accepted
      · cases accepted
        exact member
      · split at accepted
        · cases accepted
        · cases accepted
          exact member
    exact counted.then (utters_removeAcked fin finAck _ ack)
  cases outcome with
  | gap | misplaced => exact utters_dropLine session
  | duplicate | unmeasured => exact .refl session
  | ended accepted => exact taken _ accepted
  | taken accepted open_ body => exact (taken _ accepted).then (body.utters fin finAck)
  | acked => exact utters_removeAcked fin finAck session _
  | @echoed ticks =>
      have said : (Packet.pingResponse ticks).Said may := trivial
      have sent := utters_sendOnCurrent session said
      have unprobed : probesIn (session.current.toList.map fun line =>
          .send line.id (.pingResponse ticks : Packet P)) = [] := by
        cases session.current <;> rfl
      rwa [unprobed] at sent
  | @measured ticks keepalive estimate =>
      have confirmed : Utters may [] session
          { session with keepalive, liveness := session.liveness.aliveConfirmed } :=
        utters_silent (fun _ => id) rfl rfl
      exact confirmed.then (utters_emit _ nofun)

theorem Outcome.utters {input : Input P} (outcome : Outcome session input after)
    (timeless : input.isUpdate = false) (unforced : input ≠ .closeImmediately .unencodable)
    (worded : ∀ payload, input = .send payload → may (.data payload)) :
    Utters may [] session after := by
  have released : Utters may [] session { session with pending := none } :=
    utters_silent (fun _ => id) rfl rfl
  cases outcome with
  | unchanged => exact .refl session
  | pushed running unsent => exact utters_pushReliable session (worded _ rfl)
  | aborted => exact utters_terminate session (by simp)
  | closes => exact utters_applyClose fin finAck session _
  | ended running => exact utters_terminate session fun same => unforced (same ▸ rfl)
  | elapsed => cases timeless
  | dialed => exact (utters_discard session _).then (utters_silent (fun _ => id) rfl rfl)
  | turnedAway => exact utters_discard session _
  | givenUp => exact released.then (utters_discard _ _)
  | @created line sessionId =>
      have unpaired : Utters may [] session { session with pending := none, sessionId } :=
        utters_silent (fun _ => id) rfl rfl
      exact unpaired.then (utters_created _ line sessionId)
  | @accepted line =>
      have said : (Packet.createResponse session.sessionId).Said may := trivial
      have answered := utters_answered session said line.id line.index rfl
      exact answered.then (utters_created _ line session.sessionId)
  | @rebound line =>
      exact (released.then (utters_bindCurrent _ line)).then (utters_resync fin finAck _ _)
  | @resumed line =>
      have said : (Packet.rebindResponse session.delivery.lastRecvId).Said may := trivial
      have answered := utters_answered session said line.id line.index rfl
      exact (answered.then (utters_bindCurrent _ line)).then (utters_resync fin finAck _ _)
  | unresumable =>
      exact (released.then (utters_discard _ _)).then (utters_terminate _ (by simp))
  | rejected => exact (utters_discard session _).then (utters_terminate _ (by simp))
  | unreachable => exact released.then (utters_terminate _ (by simp))
  | failed | lost | lostPending | lostCurrent => exact utters_silent (fun _ => id) rfl rfl
  | heard running bound arrives => exact arrives.utters fin finAck

/-- Whatever happens, a session says what it may say, and probes its line when that is
due. -/
theorem utters_step (session : Session P) {input : Input P}
    (unforced : input ≠ .closeImmediately .unencodable)
    (worded : ∀ payload, input = .send payload → may (.data payload)) :
    Utters may (session.probesDue input) session (session.step input) := by
  cases input with
  | update time clock =>
      by_cases isOver : session.phase = .closed
      · have idle : session.step (.update time clock) = session := if_pos isOver
        have silent : session.probesDue (.update time clock) = [] := if_neg fun due => due.1 isOver
        rw [idle, silent]
        exact .refl session
      · obtain ⟨settled, passes, updated⟩ := passes_update isOver time clock
        have stepped : session.step (.update time clock) = session.update time clock := rfl
        rw [stepped, updated]
        split
        · rw [← List.append_nil (session.probesDue _)]
          exact (passes.utters isOver).trans (utters_sendAck _)
        · exact passes.utters isOver
  | _ => exact (session.outcome_step _).utters fin finAck rfl unforced worded

end Step

end Session

end ResumableSession
