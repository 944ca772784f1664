import ResumableSession.Proofs.Session.Outcome
import ResumableSession.Proofs.Session.Telling
import ResumableSession.Proofs.Session.Ticking

/-!
# What any session tells

Whatever state a session is in and whatever it is given, ids that have run out included:
it tells of its creation only while it is being created, of its end only while it has
not ended, and of nothing after that.  A side without a pace of attempts never asks for
a line.
-/

namespace ResumableSession

namespace Session

variable {P : Type}

/-- Outputs that lead from one phase to another. -/
inductive Story : Phase → List (Output P) → Phase → Prop where
  | silent (phase : Phase) : Story phase [] phase
  | plain {output : Output P} {told : List (Output P)} {first last : Phase}
      (plain : output.isPlain) (running : first ≠ .closed) (later : Story first told last) :
      Story first (output :: told) last
  | opens {sessionId : UInt32} {told : List (Output P)} {last : Phase}
      (later : Story .connected told last) : Story .connecting (.connected sessionId :: told) last
  | ends {reason : CloseReason} {first : Phase} (running : first ≠ .closed) :
      Story first [.closed reason] .closed

namespace Story

variable {told told' : List (Output P)} {first middle last : Phase} {reason : CloseReason}

private theorem of_closed (story : Story .closed told last) : told = [] ∧ last = .closed := by
  cases story with
  | silent => exact ⟨rfl, rfl⟩
  | plain _ running _ => exact absurd rfl running
  | ends running => exact absurd rfl running

theorem append (earlier : Story first told middle) (later : Story middle told' last) :
    Story first (told ++ told') last := by
  induction earlier with
  | silent => exact later
  | plain plain running _ induction => exact .plain plain running (induction later)
  | opens _ induction => exact .opens (induction later)
  | ends running =>
      obtain ⟨rfl, rfl⟩ := later.of_closed
      exact .ends running

/-- The end is told last, if it is told at all. -/
theorem ending (story : Story first told last) (running : first ≠ .closed) :
    last ≠ .closed ∧ (∀ reason, .closed reason ∉ told) ∨
      last = .closed ∧ ∃ earlier reason, told = earlier ++ [.closed reason] ∧
        ∀ other, .closed other ∉ earlier := by
  induction story with
  | silent => exact .inl ⟨running, fun _ => List.not_mem_nil⟩
  | @plain output told first last plain _ _ induction =>
      have harmless (reason : CloseReason) : Output.closed reason ≠ output := by
        rintro rfl
        cases plain
      rcases induction running with ⟨open_, unended⟩ | ⟨isOver, earlier, reason, rfl, unended⟩
      · refine .inl ⟨open_, fun reason => ?_⟩
        exact List.not_mem_cons_of_ne_of_not_mem (harmless reason) (unended reason)
      · refine .inr ⟨isOver, output :: earlier, reason, rfl, fun other => ?_⟩
        exact List.not_mem_cons_of_ne_of_not_mem (harmless other) (unended other)
  | @opens sessionId told last _ induction =>
      rcases induction nofun with ⟨open_, unended⟩ | ⟨isOver, earlier, reason, rfl, unended⟩
      · refine .inl ⟨open_, fun reason => ?_⟩
        exact List.not_mem_cons_of_ne_of_not_mem nofun (unended reason)
      · refine .inr ⟨isOver, .connected sessionId :: earlier, reason, rfl, fun other => ?_⟩
        exact List.not_mem_cons_of_ne_of_not_mem nofun (unended other)
  | @ends reason first _ => exact .inr ⟨rfl, [], reason, rfl, fun _ => List.not_mem_nil⟩

theorem unopened (story : Story first told last) (created : first ≠ .connecting)
    (sessionId : UInt32) : .connected sessionId ∉ told := by
  induction story with
  | silent => exact List.not_mem_nil
  | plain plain _ _ induction =>
      refine List.not_mem_cons_of_ne_of_not_mem ?_ (induction created)
      rintro rfl
      cases plain
  | opens => exact absurd rfl created
  | ends => exact List.not_mem_cons_of_ne_of_not_mem nofun List.not_mem_nil

end Story

/-- The session goes on, or ends, by what it tells. -/
structure Tells (session after : Session P) : Prop where
  limits : after.liveness.rebindLimits = session.liveness.rebindLimits
  outputs : ∃ told, after.outputs = session.outputs ++ told ∧
    Story session.phase told after.phase ∧
    (session.liveness.rebindLimits = none → dialedIn told = [])

variable {session middle after : Session P}

theorem Tells.refl (session : Session P) : Tells session session :=
  ⟨rfl, [], (List.append_nil _).symm, .silent _, fun _ => rfl⟩

theorem Tells.trans (earlier : Tells session middle) (later : Tells middle after) :
    Tells session after := by
  refine ⟨later.limits.trans earlier.limits, ?_⟩
  obtain ⟨told, outputs, story, undialed⟩ := earlier.outputs
  obtain ⟨told', outputs', story', undialed'⟩ := later.outputs
  refine ⟨told ++ told', ?_, story.append story', fun unpaced => ?_⟩
  · rw [outputs', outputs, List.append_assoc]
  · rw [dialedIn_append, undialed unpaced, undialed' (earlier.limits.trans unpaced)]
    rfl

private theorem tells_quiet (limits : after.liveness.rebindLimits = session.liveness.rebindLimits)
    (outputs : after.outputs = session.outputs) (phase : after.phase = session.phase) :
    Tells session after := by
  refine ⟨limits, [], ?_, ?_, fun _ => rfl⟩
  · rw [outputs, List.append_nil]
  · rw [phase]
    exact .silent _

/-! ## The parts of a step -/

private theorem tells_emit (running : session.phase ≠ .closed) {output : Output P}
    (plain : output.isPlain) (undialed : dialedIn [output] = []) :
    Tells session (session.emit output) :=
  ⟨rfl, [output], rfl, .plain plain running (.silent _), fun _ => undialed⟩

private theorem tells_terminate (running : session.phase ≠ .closed) (reason : CloseReason) :
    Tells session (session.terminate reason) := by
  rw [terminate_eq]
  exact ⟨rfl, [.closed reason], rfl, .ends running, fun _ => rfl⟩

private theorem tells_discard (session : Session P) (line : Option Line) :
    Tells session (session.discard line) := by
  rw [discard_eq]
  exact tells_quiet rfl rfl rfl

private theorem tells_flush (running : session.phase ≠ .closed) : Tells session session.flush := by
  unfold flush
  split
  · exact .refl session
  split
  · rw [foldl_sendOnCurrent]
    exact tells_quiet rfl rfl rfl
  · exact tells_terminate running _

private theorem tells_pushReliable (running : session.phase ≠ .closed) (body : ReliableBody P) :
    Tells session (session.pushReliable body).1 := by
  have numbered : Tells session { session with delivery := (session.delivery.push body).1 } :=
    tells_quiet rfl rfl rfl
  exact numbered.trans (tells_flush running)

private theorem tells_sendAck (session : Session P) : Tells session session.sendAck := by
  rw [sendAck_eq]
  exact tells_quiet rfl rfl rfl

private theorem tells_applyAction (session : Session P) (action : CloseAction) :
    Tells session (session.applyAction action) := by
  unfold applyAction
  split
  · exact .refl session
  · next running =>
      cases action with
      | sendFin => exact (tells_pushReliable running .fin).trans (tells_quiet rfl rfl rfl)
      | sendFinAck => exact (tells_pushReliable running .finAck).trans (tells_quiet rfl rfl rfl)
      | sendAck => exact tells_sendAck session
      | enter state =>
          have entered : Tells session (session.emit (.closeStateChanged state)) :=
            tells_emit running rfl rfl
          cases state with
          | closed =>
              have stillOpen : (session.emit (.closeStateChanged .closed)).phase ≠ .closed := running
              exact entered.trans (tells_terminate stillOpen .graceful)
          | timeWait => exact entered.trans (tells_quiet rfl rfl rfl)
          | _ => exact entered

private theorem tells_applyClose (session : Session P)
    (decision : CloseMachine × List CloseAction) :
    Tells session (session.applyClose decision) := by
  have folded (actions : List CloseAction) :
      ∀ session : Session P, Tells session (actions.foldl applyAction session) := by
    induction actions with
    | nil => exact .refl
    | cons action actions induction =>
        exact fun session => (tells_applyAction session action).trans (induction _)
  have moved : Tells session { session with closing := decision.1 } := tells_quiet rfl rfl rfl
  exact moved.trans (folded decision.2 _)

private theorem tells_removeAcked (session : Session P) (ack : UInt32) :
    Tells session (session.removeAcked ack) := by
  have retired : Tells session { session with delivery := (session.delivery.removeAcked ack).1 } :=
    tells_quiet rfl rfl rfl
  unfold removeAcked
  dsimp only
  split
  · exact retired
  · exact retired.trans (tells_applyClose _ _)

private theorem tells_resync (session : Session P) (ack : UInt32) :
    Tells session (session.resync ack) := by
  have acked := tells_removeAcked session ack
  unfold resync
  dsimp only
  split
  · exact acked
  · next running =>
      have rewound : Tells (session.removeAcked ack)
          { session.removeAcked ack with
            delivery := (session.removeAcked ack).delivery.rewindLine ack } :=
        tells_quiet rfl rfl rfl
      exact acked.trans (rewound.trans (tells_flush running))

private theorem tells_bindCurrent (session : Session P) (line : Line) :
    Tells session (session.bindCurrent line) := by
  rw [bindCurrent_eq]
  exact tells_quiet rfl rfl rfl

private theorem tells_dropLine (session : Session P) : Tells session session.dropLine := by
  rw [dropLine_eq]
  split
  · exact .refl session
  · exact tells_quiet rfl rfl rfl

private theorem tells_onDue (clock : UInt32) (session : Session P) {event : LivenessEvent}
    (paced : event = .rebindDue → session.liveness.rebindLimits.isSome) :
    Tells session (onDue clock session event) := by
  unfold onDue
  split
  · exact .refl session
  · next running =>
      cases event with
      | offlineExpired => exact tells_terminate running _
      | rebindDue =>
          dsimp only
          rw [startRebind_eq]
          refine ⟨rfl, _, rfl, .plain rfl running (.silent _), fun unpaced => ?_⟩
          rw [unpaced] at paced
          cases paced rfl
      | sendPing =>
          dsimp only
          rw [sendPing_eq]
          exact tells_quiet rfl rfl rfl
      | aliveWaitExpired => exact tells_dropLine session
      | timeWaitExpired => exact tells_applyClose session _

private theorem tells_due (clock : UInt32) (due : List LivenessEvent) (session : Session P)
    (paced : .rebindDue ∈ due → session.liveness.rebindLimits.isSome) :
    Tells session (due.foldl (onDue clock) session) := by
  induction due generalizing session with
  | nil => exact .refl session
  | cons event due induction =>
      have acted : Tells session (onDue clock session event) := by
        apply tells_onDue
        rintro rfl
        exact paced List.mem_cons_self
      apply acted.trans
      apply induction
      intro later
      rw [acted.limits]
      exact paced (List.mem_cons_of_mem _ later)

private theorem tells_update (session : Session P) (time : Duration) (clock : UInt32) :
    Tells session (session.update time clock) := by
  unfold update
  split
  · exact .refl session
  · obtain ⟨limits, due⟩ := session.liveness.tick_cases time
    have ticked : Tells session { session with liveness := (session.liveness.tick time).1 } :=
      tells_quiet limits rfl rfl
    have paced : .rebindDue ∈ (session.liveness.tick time).2 →
        (session.liveness.tick time).1.rebindLimits.isSome := by
      intro member
      rw [limits]
      rcases due with ⟨-, paced, -⟩ | ⟨undue, -⟩
      · exact paced
      · exact absurd member undue
    have acted := ticked.trans (tells_due clock _ _ paced)
    dsimp only
    split
    · exact acted.trans (tells_sendAck _)
    · exact acted

private theorem tells_created (middle : Session P) (line : Line) (sessionId : UInt32)
    (connecting : session.phase = .connecting) (outputs : middle.outputs = session.outputs)
    (limits : middle.liveness.rebindLimits = session.liveness.rebindLimits) :
    Tells session
      (flush (emit { middle.bindCurrent line with phase := .connected } (.connected sessionId))) := by
  have opened : Tells session
      (emit { middle.bindCurrent line with phase := .connected } (.connected sessionId)) := by
    rw [bindCurrent_eq]
    refine ⟨limits, [.connected sessionId], ?_, ?_, fun _ => rfl⟩
    · rw [emit, outputs]
    · rw [connecting]
      exact .opens (.silent _)
  have running : (emit { middle.bindCurrent line with phase := .connected }
      (.connected sessionId)).phase ≠ .closed := by
    simp [emit]
  exact opened.trans (tells_flush running)

/-! ## A step -/

private theorem BodyOutcome.tells {body : ReliableBody P} (running : session.phase ≠ .closed)
    (outcome : BodyOutcome session body after) : Tells session after := by
  cases outcome with
  | delivered => exact tells_emit running rfl rfl
  | fin | finAck => exact tells_applyClose session _
  | unexpectedFin | unexpectedFinAck => exact tells_terminate running _

private theorem PacketOutcome.tells {packet : Packet P} (running : session.phase ≠ .closed)
    (outcome : PacketOutcome session packet after) : Tells session after := by
  have taken (delivery : Delivery P) (ack : UInt32) :
      Tells session (removeAcked { session with delivery } ack) := by
    have counted : Tells session { session with delivery } := tells_quiet rfl rfl rfl
    exact counted.trans (tells_removeAcked _ ack)
  cases outcome with
  | gap | misplaced => exact tells_dropLine session
  | duplicate | unmeasured => exact .refl session
  | ended => exact taken _ _
  | taken _ open_ body => exact (taken _ _).trans (body.tells open_)
  | acked => exact tells_removeAcked session _
  | echoed =>
      rw [sendOnCurrent_eq]
      exact tells_quiet rfl rfl rfl
  | measured =>
      have confirmed :
          session.liveness.aliveConfirmed.rebindLimits = session.liveness.rebindLimits := by
        unfold Liveness.aliveConfirmed
        split <;> rfl
      exact ⟨confirmed, _, rfl, .plain rfl running (.silent _), fun _ => rfl⟩

private theorem Outcome.tells {input : Input P} (outcome : Outcome session input after) :
    Tells session after := by
  have running (connected : session.phase = .connected) : session.phase ≠ .closed := by
    simp [connected]
  have unpaired : Tells session { session with pending := none } := tells_quiet rfl rfl rfl
  cases outcome with
  | unchanged => exact .refl session
  | pushed running => exact tells_pushReliable running _
  | aborted connecting => exact tells_terminate (by simp [connecting]) _
  | closes => exact tells_applyClose session _
  | ended running => exact tells_terminate running _
  | elapsed => exact tells_update session _ _
  | dialed => exact (tells_discard session _).trans (tells_quiet rfl rfl rfl)
  | turnedAway => exact tells_discard session _
  | givenUp => exact unpaired.trans (tells_discard _ _)
  | @created line sessionId _ connecting =>
      exact tells_created { session with pending := none, sessionId } line sessionId connecting rfl
        rfl
  | @accepted line connecting =>
      exact tells_created
        { session.act (.send line.id (.createResponse session.sessionId)) with
          lastLineIndex := line.index }
        line session.sessionId connecting rfl rfl
  | @rebound line =>
      exact (unpaired.trans (tells_bindCurrent _ line)).trans (tells_resync _ _)
  | @resumed line =>
      have answered : Tells session
          { session.act (.send line.id (.rebindResponse session.delivery.lastRecvId)) with
            lastLineIndex := line.index } :=
        tells_quiet rfl rfl rfl
      exact (answered.trans (tells_bindCurrent _ line)).trans (tells_resync _ _)
  | @unresumable line _ _ _ connected =>
      apply (unpaired.trans (tells_discard _ (some line))).trans (tells_terminate _ _)
      rw [discard_eq]
      exact running connected
  | @rejected line _ _ connected =>
      apply (tells_discard session (some line)).trans (tells_terminate _ _)
      rw [discard_eq]
      exact running connected
  | unreachable _ connecting => exact unpaired.trans (tells_terminate (by simp [connecting]) _)
  | failed | lost | lostPending | lostCurrent => exact tells_quiet rfl rfl rfl
  | heard running _ arrives => exact arrives.tells running

/-- Whatever happens, a session goes on or ends by what it tells. -/
theorem tells_step (session : Session P) (input : Input P) : Tells session (session.step input) :=
  (session.outcome_step input).tells

theorem tells_run (session : Session P) (inputs : List (Input P)) :
    Tells session (session.run inputs) := by
  induction inputs generalizing session with
  | nil => exact .refl session
  | cons input inputs induction => exact (tells_step session input).trans (induction _)

end Session

end ResumableSession
