import ResumableSession.Proofs.Line.Ending
import ResumableSession.Proofs.Wire.Appending
import Mathlib.Data.List.Forall2

/-!
# What a line writes

At every moment the line owes the transport certain bytes: what the writer has encoded
and the transport has not accepted, and the frames of the packets that are still to be
encoded.  A step writes from the front of what is owed and never adds to it, so all that
a line writes is the beginning of what it owes when it starts; and it writes the whole
of that if nothing makes it stop before its flush is complete.  The end of the reader
does: it ends the line in the middle of a flush as well.
-/

namespace ResumableSession

variable {P : Type}

/-- The frames of the packets that come before the first close and before the first
packet that cannot be encoded. -/
def PacketCodec.framesIn (codec : PacketCodec P) : List (LineCommand P) → List Bytes
  | .send packet :: later =>
      match codec.encode packet with
      | .ok frame => frame :: framesIn codec later
      | .error _ => []
  | .close _ :: _ => []
  | [] => []

/-- The frame of the handshake, if it has one. -/
def PacketCodec.request (codec : PacketCodec P) (handshake : Handshake) : Bytes :=
  match codec.encode handshake.toPacket with
  | .ok request => request
  | .error _ => []

/-- A step in which the transport fails to accept bytes, or takes too long to. -/
def LineStep.thwarts : LineStep P → Bool
  | .moves (.accept 0) | .moves (.reject _) | .moves .flushTimeout => true
  | _ => false

/-- A packet that cannot be encoded, or a close: nothing behind it is written. -/
inductive PacketCodec.Bars (codec : PacketCodec P) : LineCommand P → Prop where
  | close {graceful : Bool} : Bars codec (.close graceful)
  | unencodable {packet : Packet P} {cause : CodecError}
      (refused : codec.encode packet = .error cause) : Bars codec (.send packet)

/-- Packets that can be encoded, and then a graceful close. -/
inductive PacketCodec.Graceful (codec : PacketCodec P) : List (LineCommand P) → Prop where
  | close {later : List (LineCommand P)} : Graceful codec (.close true :: later)
  | send {packet : Packet P} {frame : Bytes} {later : List (LineCommand P)}
      (encoded : codec.encode packet = .ok frame) (graceful : Graceful codec later) :
      Graceful codec (.send packet :: later)

namespace PacketCodec

variable {codec : PacketCodec P} {packets : List (Packet P)} {frames : List Bytes}
  {commands later : List (LineCommand P)}

private theorem framesIn_send {packet : Packet P} {frame : Bytes}
    (encoded : codec.encode packet = .ok frame) :
    codec.framesIn (.send packet :: later) = frame :: codec.framesIn later := by
  simp only [framesIn, encoded]

private theorem framesIn_barred {barrier : LineCommand P} (bars : codec.Bars barrier) :
    codec.framesIn (commands ++ barrier :: later) = codec.framesIn commands := by
  induction commands with
  | nil =>
      cases bars with
      | close => rfl
      | unencodable refused => simp only [List.nil_append, framesIn, refused]
  | cons command commands induction =>
      cases command with
      | send packet =>
          cases encoded : codec.encode packet with
          | ok frame => rw [List.cons_append, framesIn_send encoded, framesIn_send encoded, induction]
          | error cause => simp only [List.cons_append, framesIn, encoded]
      | close graceful => rfl

private theorem graceful_of_encoded
    (encoded : List.Forall₂ (fun packet frame => codec.encode packet = .ok frame) packets frames)
    (later : List (LineCommand P)) :
    codec.Graceful (packets.map .send ++ .close true :: later) ∧
      codec.framesIn (packets.map .send ++ .close true :: later) = frames := by
  induction encoded with
  | nil => exact ⟨.close, rfl⟩
  | cons encoded _ induction =>
      rw [List.map_cons, List.cons_append, framesIn_send encoded, induction.2]
      exact ⟨.send encoded induction.1, rfl⟩

end PacketCodec

namespace LineTask

variable {task next last : LineTask P} {move : LineMove} {step : LineStep P}
  {steps later : List (LineStep P)} {shown others : List (LineOutput P)}

/-- The commands that the writer gets: those that are left when the line opens, and those
that come later. -/
def heeded (task : LineTask P) : List (LineStep P) → List (LineCommand P)
  | [] => if task.isShaking then [] else if task.isEnded then [] else task.commands
  | step :: later =>
      if task.isShaking then
        match task.advance? step with
        | some (next, _) => next.heeded later
        | none => []
      else if task.isEnded then []
      else task.commands ++ commandsIn (step :: later)

private theorem heeded_shaking (shaking : task.isShaking)
    (advanced : task.advance? step = some (next, shown)) :
    task.heeded (step :: later) = next.heeded later := by
  simp only [heeded, shaking, advanced, if_true]

private theorem heeded_talking (talking : ¬task.isShaking) (unfinished : task.stage ≠ .ended) :
    task.heeded steps = task.commands ++ commandsIn steps := by
  have going : ¬task.isEnded := fun ended => unfinished (task.isEnded_iff.mp ended)
  cases steps with
  | nil => simp only [heeded, if_neg talking, if_neg going, commandsIn, List.flatMap_nil,
      List.append_nil]
  | cons step later => simp only [heeded, if_neg talking, if_neg going]

private theorem heeded_ended (ended : task.stage = .ended) : task.heeded steps = [] := by
  have talking : ¬task.isShaking := by simp [isShaking_iff, ended]
  cases steps with
  | nil => simp only [heeded, if_neg talking, if_pos (task.isEnded_iff.mpr ended)]
  | cons step later => simp only [heeded, if_neg talking, if_pos (task.isEnded_iff.mpr ended)]

private theorem heeded_running (running : task.stage = .running) :
    task.heeded steps = task.commands ++ commandsIn steps := by
  obtain ⟨talking, unfinished⟩ := talking_of_working (.inl running)
  exact heeded_talking talking unfinished

/-- The bytes that the line is still to write. -/
def owed (task : LineTask P) (steps : List (LineStep P)) : Bytes :=
  match task.stage with
  | .dialing =>
      task.codec.request task.handshake ++ (task.codec.framesIn (task.heeded steps)).flatten
  | .requesting | .awaiting | .running =>
      task.pending ++ (task.codec.framesIn (task.heeded steps)).flatten
  | .flushing => task.pending
  | .stopping _ | .ended => []

/-- The writer has stopped for good. -/
def HasStopped (task : LineTask P) : Prop :=
  task.stage = .ended ∨ ∃ reason, task.stage = .stopping reason

private theorem HasStopped.owed_eq (stopped : task.HasStopped) : task.owed steps = [] := by
  rcases stopped with stage | ⟨reason, stage⟩ <;> simp only [owed, stage]

private theorem owed_congr (silent : writtenIn shown = []) (codec : next.codec = task.codec)
    (handshake : next.handshake = task.handshake) (stage : next.stage = task.stage)
    (pending : next.pending = task.pending) (heeded : next.heeded later = task.heeded steps) :
    writtenIn shown ++ next.owed later = task.owed steps := by
  simp only [silent, owed, codec, handshake, stage, pending, heeded, List.nil_append]

private theorem owed_working (working : task.stage = .requesting ∨ task.stage = .awaiting ∨
      task.stage = .running) :
    task.owed steps = task.pending ++ (task.codec.framesIn (task.heeded steps)).flatten := by
  rcases working with stage | stage | stage <;> simp only [owed, stage]

private theorem owed_flushing (flushing : task.stage = .flushing) :
    task.owed steps = task.pending := by
  simp only [owed, flushing]

/-- Whether the line shakes hands or not, the writer gets the commands that come. -/
theorem heeded_step (advanced : task.advance? step = some (next, shown))
    (commands : next.commands = task.commands ++ step.commanded)
    (shaking : next.isShaking ↔ task.isShaking) (ended : next.stage = .ended ↔ task.stage = .ended) :
    next.heeded later = task.heeded (step :: later) := by
  by_cases shakes : task.isShaking
  · exact (heeded_shaking shakes advanced).symm
  by_cases isOver : task.stage = .ended
  · rw [heeded_ended isOver, heeded_ended (ended.mpr isOver)]
  · rw [heeded_talking shakes isOver, heeded_talking (mt shaking.mp shakes) (mt ended.mp isOver),
      commands, List.append_assoc]
    rfl

/-! ## A step -/

private theorem owed_writes {count : Nat} {stage : LineStage} (offers : task.offers)
    (stays : stage = task.stage ∨
      task.stage = .requesting ∧ stage = .awaiting ∧ task.pending.drop count = [])
    (next_eq : next = { task with pending := task.pending.drop count, stage })
    (same : next.heeded later = task.heeded steps) :
    task.pending.take count ++ next.owed later = task.owed steps := by
  have split : task.pending.take count ++ next.pending = task.pending := by
    rw [next_eq]
    exact List.take_append_drop count task.pending
  have codec : next.codec = task.codec := by rw [next_eq]
  have moved : next.stage = stage := by rw [next_eq]
  have working (now : next.stage = .requesting ∨ next.stage = .awaiting ∨ next.stage = .running)
      (before : task.stage = .requesting ∨ task.stage = .awaiting ∨ task.stage = .running) :
      task.pending.take count ++ next.owed later = task.owed steps := by
    rw [owed_working now, owed_working before, codec, same, ← List.append_assoc, split]
  rcases stays with rfl | ⟨requesting, rfl, -⟩
  · rcases offers_stage offers with stage | stage | stage
    · exact working (.inl (moved.trans stage)) (.inl stage)
    · exact working (.inr (.inr (moved.trans stage))) (.inr (.inr stage))
    · rw [owed_flushing (moved.trans stage), owed_flushing stage, split]
  · exact working (.inr (.inl moved)) (.inl requesting)

private theorem owed_change (behind : task.codec.payloads.WritesBehind)
    (stepped : task.step? move = some (next, shown)) (going : ¬next.HasStopped) :
    writtenIn shown ++ next.owed later = task.owed (.moves move :: later) := by
  have advanced : task.advance? (.moves move) = some (next, shown) := stepped
  cases change_of_step? stepped with
  | requests dialing encoded =>
      rw [owed_working (.inl rfl), ← heeded_shaking (by simp [isShaking_iff, dialing]) advanced]
      simp only [owed, dialing, PacketCodec.request, encoded]
      rfl
  | drops shaking queue =>
      exact owed_congr rfl rfl rfl rfl rfl (heeded_shaking shaking advanced).symm
  | opens awaiting found answers =>
      rw [owed_working (.inr (.inr rfl)), owed_working (.inr (.inl awaiting)),
        ← heeded_shaking (isShaking_of_awaiting awaiting) advanced]
      rfl
  | hears | reads | deafens =>
      exact owed_congr rfl rfl rfl rfl rfl
        (heeded_step advanced (List.append_nil _).symm .rfl .rfl)
  | @queues packet left pending running queue wrote =>
      obtain ⟨frame, encoded, rfl⟩ := (PacketCodec.write_adds behind packet).of_ok wrote
      have runs : ({ task with commands := left, pending := task.pending ++ frame } :
          LineTask P).stage = .running := running
      rw [owed_working (.inr (.inr runs)), owed_working (.inr (.inr running)),
        heeded_running runs, heeded_running running, queue, List.cons_append,
        PacketCodec.framesIn_send encoded, List.flatten_cons, ← List.append_assoc task.pending]
      rfl
  | flushes running queue =>
      rw [owed_flushing rfl, owed_working (.inr (.inr running)), heeded_running running, queue]
      exact (List.append_nil _).symm
  | writes offers some stays =>
      rw [writtenIn_wrote, writtenIn_nil, List.append_nil]
      refine owed_writes offers stays rfl (heeded_step advanced (List.append_nil _).symm ?_ ?_)
      · rcases stays with rfl | stays
        · exact .rfl
        · simp [isShaking_iff, stays.1, stays.2.1]
      · rcases stays with rfl | stays
        · exact .rfl
        · simp [stays.1, stays.2.1]
  | stops working stops => exact absurd (.inr ⟨_, rfl⟩) going
  | abandons | fails | concludes | cutOff => exact absurd (.inl rfl) going

private theorem owed_advance (behind : task.codec.payloads.WritesBehind)
    (advanced : task.advance? step = some (next, shown)) (going : ¬next.HasStopped) :
    writtenIn shown ++ next.owed later = task.owed (step :: later) := by
  cases advance_of_advance? advanced with
  | orders held => exact owed_congr rfl rfl rfl rfl rfl (heeded_step advanced rfl .rfl .rfl)
  | releases =>
      exact owed_congr rfl rfl rfl rfl rfl
        (heeded_step advanced (List.append_nil _).symm .rfl .rfl)
  | moves change => exact owed_change behind advanced going

private theorem written_stopping (advanced : task.advance? step = some (next, shown))
    (stopped : next.HasStopped) : writtenIn shown = [] := by
  cases advance_of_advance? advanced with
  | orders held => rfl
  | releases => rfl
  | moves change =>
      cases change with
      | writes offers some stays =>
          exfalso
          rcases stays with rfl | stays
          · rcases offers_stage offers with stage | stage | stage <;>
              simp [HasStopped, stage] at stopped
          · simp [HasStopped, stays.2.1] at stopped
      | _ => rfl

theorem codec_advance (advanced : task.advance? step = some (next, shown)) :
    next.codec = task.codec := by
  cases advance_of_advance? advanced with
  | orders held => rfl
  | releases => rfl
  | moves change => cases change <;> rfl

/-! ## A course -/

/-- Whatever happens, a line writes no more than it owes, and from its front. -/
theorem written_isPrefix (behind : task.codec.payloads.WritesBehind)
    (ran : task.run? steps = some (last, shown)) : writtenIn shown <+: task.owed steps := by
  induction steps generalizing task shown with
  | nil =>
      cases ran
      exact List.nil_prefix
  | cons step later induction =>
      obtain ⟨next, first, others, advanced, ranLater, rfl⟩ := run?_cons ran
      have behind' : next.codec.payloads.WritesBehind := by
        rw [codec_advance advanced]
        exact behind
      have writtenLater := induction behind' ranLater
      rw [writtenIn_append]
      by_cases stopped : next.HasStopped
      · rw [stopped.owed_eq, List.prefix_nil] at writtenLater
        rw [written_stopping advanced stopped, writtenLater]
        exact List.nil_prefix
      · rw [← owed_advance behind advanced stopped]
        exact (List.prefix_append_right_inj _).mpr writtenLater

/-! ## A graceful close -/

theorem HasStopped.advance (stopped : task.HasStopped)
    (advanced : task.advance? step = some (next, shown)) : next.HasStopped := by
  cases advance_of_advance? advanced with
  | orders held => exact stopped
  | releases => exact stopped
  | moves change =>
      rcases stopped with ended | ⟨reason, stopping⟩
      · rw [advance?, step?_ended ended] at advanced
        cases advanced
      · cases change with
        | abandons | fails | concludes | cutOff => exact .inl rfl
        | stops => exact .inr ⟨_, rfl⟩
        | drops | hears | reads | deafens => exact .inr ⟨reason, stopping⟩
        | requests held | opens held | queues held | flushes held => simp [stopping] at held
        | writes offers =>
            rcases offers_stage offers with stage | stage | stage <;> simp [stopping] at stage

theorem HasStopped.run (stopped : task.HasStopped)
    (ran : task.run? steps = some (last, shown)) : last.HasStopped := by
  induction steps generalizing task shown with
  | nil =>
      cases ran
      exact stopped
  | cons step later induction =>
      obtain ⟨next, first, others, advanced, ranLater, rfl⟩ := run?_cons ran
      exact induction (stopped.advance advanced) ranLater

/-- A line that flushes and has nothing left to flush has written all that it owed. -/
theorem written_drained (behind : task.codec.payloads.WritesBehind)
    (ran : task.run? steps = some (last, shown)) (flushing : last.stage = .flushing)
    (drained : last.pending = []) : writtenIn shown = task.owed steps := by
  induction steps generalizing task shown with
  | nil =>
      cases ran
      rw [owed_flushing flushing, drained]
      rfl
  | cons step later induction =>
      obtain ⟨next, first, others, advanced, ranLater, rfl⟩ := run?_cons ran
      have behindNext : next.codec.payloads.WritesBehind := by
        rw [codec_advance advanced]
        exact behind
      have going : ¬next.HasStopped := by
        intro stopped
        rcases stopped.run ranLater with ended | ⟨reason, stopping⟩
        · simp [flushing] at ended
        · simp [flushing] at stopping
      rw [writtenIn_append, induction behindNext ranLater, owed_advance behind advanced going]

private theorem reports_ended (ran : task.run? steps = some (last, shown))
    (ended : task.stage = .ended) :
    reportsIn shown = [] := by
  induction steps generalizing task shown with
  | nil =>
      cases ran
      rfl
  | cons step later induction =>
      obtain ⟨next, first, others, advanced, ranLater, rfl⟩ := run?_cons ran
      rw [reportsIn_append]
      cases step with
      | moves move =>
          rw [advance?, step?_ended ended] at advanced
          cases advanced
      | _ =>
          cases advance_of_advance? advanced
          exact induction ranLater ended

private theorem commandsIn_released (ran : task.run? steps = some (last, shown))
    (released : task.released) : commandsIn steps = [] := by
  induction steps generalizing task shown with
  | nil => rfl
  | cons step later induction =>
      obtain ⟨next, first, others, advanced, ranLater, rfl⟩ := run?_cons ran
      rw [commandsIn_cons]
      cases advance_of_advance? advanced with
      | orders held => exact absurd released held
      | releases => exact induction ranLater rfl
      | moves change =>
          have still : next.released := by
            cases change <;> exact released
          exact induction ranLater still

private theorem closed_notMem (advanced : task.advance? step = some (next, shown))
    (going : ¬next.HasStopped) (reason : LineEnd) : .closed reason ∉ reportsIn shown := by
  cases advance_of_advance? advanced with
  | orders held => exact List.not_mem_nil
  | releases => exact List.not_mem_nil
  | moves change =>
      cases change with
      | opens awaiting found answers =>
          intro member
          rw [← List.mem_singleton.mp member] at answers
          exact Handshake.answer?_ne_closed answers
      | hears reading found =>
          intro member
          cases List.mem_singleton.mp member
      | abandons | fails | concludes | cutOff => exact absurd (.inl rfl) going
      | _ => exact List.not_mem_nil

/-- What the writer still gets ends in a graceful close as long as it has not met it. -/
theorem graceful_advance (advanced : task.advance? step = some (next, shown))
    (going : ¬next.HasStopped)
    (graceful : task.stage ≠ .flushing → task.codec.Graceful (task.heeded (step :: later)))
    (unflushed : next.stage ≠ .flushing) : next.codec.Graceful (next.heeded later) := by
  cases advance_of_advance? advanced with
  | orders held =>
      rw [heeded_step advanced rfl .rfl .rfl]
      exact graceful unflushed
  | releases =>
      rw [heeded_step advanced (List.append_nil _).symm .rfl .rfl]
      exact graceful unflushed
  | moves change =>
      cases change with
      | requests dialing encoded =>
          rw [← heeded_shaking (by simp [isShaking_iff, dialing]) advanced]
          exact graceful (by simp [dialing])
      | drops shaking queue =>
          rw [← heeded_shaking shaking advanced]
          exact graceful unflushed
      | opens awaiting found answers =>
          rw [← heeded_shaking (isShaking_of_awaiting awaiting) advanced]
          exact graceful (by simp [awaiting])
      | hears | reads | deafens =>
          rw [heeded_step advanced (List.append_nil _).symm .rfl .rfl]
          exact graceful unflushed
      | @queues packet left pending running queue wrote =>
          have runs : ({ task with commands := left, pending } : LineTask P).stage = .running :=
            running
          have whole := graceful (by simp [running])
          rw [heeded_running running, queue] at whole
          rw [heeded_running runs]
          cases whole with
          | send encoded rest => exact rest
      | flushes running queue => exact absurd rfl unflushed
      | @writes count stage offers some stays =>
          rcases stays with rfl | ⟨requesting, rfl, -⟩
          · rw [heeded_step advanced (List.append_nil _).symm .rfl .rfl]
            exact graceful unflushed
          · rw [← heeded_shaking (by simp [isShaking_iff, requesting]) advanced]
            exact graceful (by simp [requesting])
      | stops working stops => exact absurd (.inr ⟨_, rfl⟩) going
      | abandons | fails | concludes | cutOff => exact absurd (.inl rfl) going

/-- If the close is graceful and the line is closed by it, then nothing was owed any more
when the writer stopped. -/
theorem owed_stopping (behind : task.codec.payloads.WritesBehind)
    (advanced : task.advance? step = some (next, shown)) (stopped : next.HasStopped)
    (working : ¬task.HasStopped) (foreign : task.readerEnd ≠ some .closedLocally)
    (graceful : task.stage ≠ .flushing → task.codec.Graceful (task.heeded (step :: later)))
    (ran : next.run? later = some (last, others))
    (closed : .closed .closedLocally ∈ reportsIn (shown ++ others)) (unthwarted : ¬step.thwarts) :
    task.owed (step :: later) = [] := by
  cases advance_of_advance? advanced with
  | orders held => exact absurd stopped working
  | releases => exact absurd stopped working
  | moves change =>
      cases change with
      | drops | hears | reads | deafens | queues => exact absurd stopped working
      | requests | opens | flushes => simp [HasStopped] at stopped
      | writes offers some stays =>
          rcases stays with rfl | ⟨requesting, rfl, -⟩
          · exact absurd stopped working
          · simp [HasStopped] at stopped
      | abandons shaking | fails shaking =>
          have whole := graceful (by rintro flushing; simp [isShaking_iff, flushing] at shaking)
          rw [heeded_shaking shaking advanced, heeded_ended rfl] at whole
          cases whole
      | stops running stops =>
          cases stops with
          | unencodable running queue refused =>
              have whole := graceful (by simp [running])
              rw [heeded_running running, queue] at whole
              cases whole with
              | send encoded rest =>
                  rw [(PacketCodec.write_adds behind _).of_error refused] at encoded
                  cases encoded
          | closed running queue =>
              have whole := graceful (by simp [running])
              rw [heeded_running running, queue] at whole
              cases whole
          | released running none released =>
              have whole := graceful (by simp [running])
              rw [heeded_running running, none, commandsIn_cons,
                commandsIn_released ran released] at whole
              cases whole
          | rejected rejects =>
              rcases rejects with rfl | ⟨cause, rfl⟩ <;> exact absurd rfl unthwarted
          | flushed flushing empty => rw [owed_flushing flushing, empty]
          | timedOut flushing => exact absurd rfl unthwarted
      | concludes stopping => exact absurd (.inr ⟨_, stopping⟩) working
      | @cutOff reason working isOver =>
          rw [reportsIn_append, reports_ended ran rfl, List.append_nil] at closed
          cases List.mem_singleton.mp closed
          exact absurd isOver foreign

private theorem foreign_advance (foreign : task.readerEnd ≠ some .closedLocally)
    (advanced : task.advance? step = some (next, shown)) :
    next.readerEnd ≠ some .closedLocally := by
  cases advance_of_advance? advanced with
  | orders held => exact foreign
  | releases => exact foreign
  | moves change =>
      cases change with
      | deafens reading other => exact fun same => other (Option.some.inj same)
      | _ => exact foreign

/-- A line that is closed by a graceful close, and by nothing before its flush is
complete, has written all that it owed. -/
theorem written_whole (behind : task.codec.payloads.WritesBehind)
    (ran : task.run? steps = some (last, shown)) (foreign : task.readerEnd ≠ some .closedLocally)
    (graceful : task.stage ≠ .flushing → task.codec.Graceful (task.heeded steps))
    (closed : .closed .closedLocally ∈ reportsIn shown)
    (unthwarted : ∀ step ∈ steps, ¬step.thwarts) : writtenIn shown = task.owed steps := by
  induction steps generalizing task shown with
  | nil =>
      cases ran
      cases closed
  | cons step later induction =>
      obtain ⟨next, first, others, advanced, ranLater, rfl⟩ := run?_cons ran
      have behindNext : next.codec.payloads.WritesBehind := by
        rw [codec_advance advanced]
        exact behind
      by_cases working : task.HasStopped
      · have written := written_isPrefix behind ran
        rw [working.owed_eq] at written ⊢
        exact List.prefix_nil.mp written
      by_cases stopped : next.HasStopped
      · have written := written_isPrefix behind ran
        rw [owed_stopping behind advanced stopped working foreign graceful ranLater closed
          (unthwarted step List.mem_cons_self)] at written ⊢
        exact List.prefix_nil.mp written
      · have closedLater : .closed .closedLocally ∈ reportsIn others := by
          rw [reportsIn_append, List.mem_append] at closed
          exact closed.resolve_left (closed_notMem advanced stopped _)
        have writtenLater := induction behindNext ranLater (foreign_advance foreign advanced)
          (graceful_advance advanced stopped graceful) closedLater
          fun step member => unthwarted step (List.mem_cons_of_mem _ member)
        rw [writtenIn_append, writtenLater, owed_advance behind advanced stopped]

/-! ## From the start -/

private theorem Stops.commands_eq {task : LineTask P} {move : LineMove}
    {left : List (LineCommand P)}
    {reason : LineEnd} (stops : task.Stops move left reason) : left <:+ task.commands := by
  cases stops with
  | unencodable running next refused => exact ⟨[_], next.symm⟩
  | closed running next => exact ⟨[_], next.symm⟩
  | _ => exact List.suffix_rfl

private theorem commands_advance (advanced : task.advance? step = some (next, shown)) :
    next.commands <:+ task.commands ++ step.commanded := by
  cases advance_of_advance? advanced with
  | orders held => exact List.suffix_rfl
  | releases => exact ⟨[], (List.append_nil _).symm⟩
  | moves change =>
      rw [show (LineStep.moves _ : LineStep P).commanded = [] from rfl, List.append_nil]
      cases change with
      | drops shaking queue => exact ⟨[_], queue.symm⟩
      | queues running queue wrote => exact ⟨[_], queue.symm⟩
      | flushes running queue => exact ⟨[_], queue.symm⟩
      | stops working stops => exact stops.commands_eq
      | _ => exact List.suffix_rfl

private theorem heeded_isSuffix (ran : task.run? steps = some (last, shown)) :
    task.heeded steps <:+ task.commands ++ commandsIn steps := by
  induction steps generalizing task shown with
  | nil =>
      rw [heeded]
      split
      · exact List.nil_suffix
      · split
        · exact List.nil_suffix
        · exact ⟨[], (List.append_nil _).symm⟩
  | cons step later induction =>
      obtain ⟨next, first, others, advanced, ranLater, rfl⟩ := run?_cons ran
      by_cases shaking : task.isShaking
      · rw [heeded_shaking shaking advanced, commandsIn_cons, ← List.append_assoc]
        apply (induction ranLater).trans
        exact List.suffix_append_self_iff.mpr (commands_advance advanced)
      by_cases ended : task.stage = .ended
      · rw [heeded_ended ended]
        exact List.nil_suffix
      · exact ⟨[], heeded_talking shaking ended⟩

end LineTask

namespace LineStart

/-- The bytes that precede all packets of the owner. -/
def request : LineStart P → Bytes
  | .accepted .. => []
  | .dialed codec handshake => codec.request handshake

/-- The commands that the writer gets. -/
def heeded : LineStart P → List (LineStep P) → List (LineCommand P)
  | .accepted .., steps => commandsIn steps
  | .dialed codec handshake, steps => (LineTask.dialed codec handshake).heeded steps

variable {start : LineStart P} {steps : List (LineStep P)}

private theorem heeded_eq (start : LineStart P) (steps : List (LineStep P)) :
    start.task.heeded steps = start.heeded steps := by
  cases start with
  | accepted codec handshake inbox => exact LineTask.heeded_running rfl
  | dialed codec handshake => rfl

private theorem owed_start (start : LineStart P) (steps : List (LineStep P)) :
    start.task.owed steps =
      start.request ++ (start.task.codec.framesIn (start.heeded steps)).flatten := by
  rw [← heeded_eq]
  cases start with
  | accepted codec handshake inbox => rfl
  | dialed codec handshake => rfl

/-- A line whose graceful close has come to its flush, and that has nothing left to flush,
has written its handshake and every frame before the close.  Nothing that ends the line
from there on, the reader's end included, can leave one out. -/
theorem run_drained (start : LineStart P) (behind : start.task.codec.payloads.WritesBehind)
    {steps : List (LineStep P)} {last : LineTask P} {shown : List (LineOutput P)}
    (ran : start.task.run? steps = some (last, shown)) (flushing : last.stage = .flushing)
    (drained : last.pending = []) :
    writtenIn shown =
      start.request ++ (start.task.codec.framesIn (start.heeded steps)).flatten := by
  rw [← owed_start]
  exact LineTask.written_drained behind ran flushing drained

/-- A line writes its handshake, if it has to send one, and then the frames of the packets
that its writer gets, each once and in order, up to the first close and the first packet
that cannot be encoded.  A graceful close that ends the line, with the transport taking
everything in time, leaves none of them out.  If it is the reader's end that ends the line,
in the middle of the flush, then what was not written yet is lost, and no more than the
prefix is promised; a flush with nothing left has lost nothing (`run_drained`). -/
theorem run_writes (start : LineStart P) (behind : start.task.codec.payloads.WritesBehind)
    {steps : List (LineStep P)} {last : LineTask P} {shown : List (LineOutput P)}
    (ran : start.task.run? steps = some (last, shown)) :
    start.heeded steps <:+ commandsIn steps ∧
    writtenIn shown <+:
      start.request ++ (start.task.codec.framesIn (start.heeded steps)).flatten ∧
    (∀ before barrier after, start.heeded steps = before ++ barrier :: after →
      start.task.codec.Bars barrier →
      writtenIn shown <+: start.request ++ (start.task.codec.framesIn before).flatten) ∧
    (∀ packets frames after, start.heeded steps = packets.map .send ++ .close true :: after →
      List.Forall₂ (fun packet frame => start.task.codec.encode packet = .ok frame)
        packets frames →
      .closed .closedLocally ∈ reportsIn shown → (∀ step ∈ steps, ¬step.thwarts) →
      writtenIn shown = start.request ++ frames.flatten) := by
  have written := LineTask.written_isPrefix behind ran
  rw [owed_start] at written
  refine ⟨?_, written, ?_, ?_⟩
  · have commands : start.task.commands = [] := by cases start <;> rfl
    have suffix := LineTask.heeded_isSuffix ran
    rw [heeded_eq, commands] at suffix
    exact suffix
  · intro before barrier after split bars
    rw [split, PacketCodec.framesIn_barred bars] at written
    exact written
  · intro packets frames after split encoded closed unthwarted
    obtain ⟨graceful, whole⟩ := PacketCodec.graceful_of_encoded encoded after
    have foreign : start.task.readerEnd ≠ some .closedLocally := by cases start <;> nofun
    have all := LineTask.written_whole behind ran foreign
      (fun _ => by rw [heeded_eq, split]; exact graceful) closed unthwarted
    rw [all, owed_start, split, whole]

/-- The transport takes the first frame in two parts.  Between them a close is asked for,
and then a packet that is not written any more. -/
theorem accepted_writes :
    let start : LineStart Bytes :=
      .accepted { payloads := .raw, limit := 16 } (.create "") {}
    let packets : List (Packet Bytes) := [.ack 9, .reliable ⟨1, 0, .data [5]⟩]
    let frames : List Bytes := [[2, 0, 0, 0, 4, 9], [5, 0, 0, 0, 5, 1, 0, 1, 5]]
    let steps : List (LineStep Bytes) :=
      [.orders (.send (.ack 9)), .moves .takeCommand, .moves (.accept 4),
        .orders (.send (.reliable ⟨1, 0, .data [5]⟩)), .orders (.close true),
        .orders (.send (.ack 7)), .moves .takeCommand, .moves .takeCommand,
        .moves (.accept 11), .moves .finishFlush, .moves .conclude]
    ∃ last shown, start.task.run? steps = some (last, shown) ∧
      start.task.codec.payloads.WritesBehind ∧
      List.Forall₂ (fun packet frame => start.task.codec.encode packet = .ok frame)
        packets frames ∧
      start.heeded steps = packets.map .send ++ .close true :: [.send (.ack 7)] ∧
      .closed .closedLocally ∈ reportsIn shown ∧ (∀ step ∈ steps, ¬step.thwarts) ∧
      writtenIn shown = frames.flatten := by
  intro start packets frames steps
  have behind : start.task.codec.payloads.WritesBehind := PayloadCodec.raw_writesBehind
  have encoded : List.Forall₂ (fun packet frame => start.task.codec.encode packet = .ok frame)
      packets frames :=
    .cons (by decide +kernel) (.cons (by decide +kernel) .nil)
  have ran : (start.task.run? steps).map (fun (_, shown) => reportsIn shown) =
      some [.closed .closedLocally] := by decide +kernel
  obtain ⟨⟨last, shown⟩, ran, reports⟩ := Option.map_eq_some_iff.mp ran
  have reports : reportsIn shown = [.closed .closedLocally] := reports
  have closed : .closed .closedLocally ∈ reportsIn shown := by
    rw [reports]
    exact List.mem_singleton_self _
  have unthwarted : ∀ step ∈ steps, ¬step.thwarts := by simp [steps, LineStep.thwarts]
  obtain ⟨_, _, _, whole⟩ := run_writes start behind ran
  exact ⟨last, shown, ran, behind, encoded, rfl, closed, unthwarted,
    whole packets frames [.send (.ack 7)] rfl encoded closed unthwarted⟩

end LineStart

end ResumableSession
