import ResumableSession.Proofs.Line.Writing

/-!
# Lines that can encode all they are given

A line reports that something cannot be encoded only if it met such a packet among the
commands of its owner.  Whatever else goes wrong has another name.
-/

namespace ResumableSession

variable {P : Type}

/-- The packet is encoded, whatever was written before it. -/
def PacketCodec.Encodes (codec : PacketCodec P) (packet : Packet P) : Prop :=
  ∀ buffer, ∃ frame, codec.write packet buffer = .ok () (buffer ++ frame)

/-- That something cannot be encoded. -/
def LineEnd.isUnencodable : LineEnd → Bool
  | .unencodable _ => true
  | _ => false

/-- A report that something cannot be encoded. -/
def LineEvent.isUnencodable : LineEvent P → Bool
  | .closed reason => reason.isUnencodable
  | _ => false

namespace LineTask

variable {task next last : LineTask P} {step : LineStep P} {steps : List (LineStep P)}
  {shown : List (LineOutput P)} {result : LineTask P × List (LineOutput P)}

/-- All that is queued can be encoded, and so could all that was. -/
structure Faultless (task : LineTask P) : Prop where
  queued : ∀ packet, .send packet ∈ task.commands → task.codec.Encodes packet
  writing : ∀ reason, task.stage = .stopping reason → reason.isUnencodable = false
  reading : ∀ reason, task.readerEnd = some reason → reason.isUnencodable = false

/-- What comes of a step in which nothing turned out to be unencodable. -/
structure Unharmed (result : LineTask P × List (LineOutput P)) : Prop
    extends Faultless result.1 where
  silent : ∀ event ∈ reportsIn result.2, event.isUnencodable = false

namespace Faultless

variable (faultless : task.Faultless)

include faultless

private theorem silently : Unharmed (task, []) where
  toFaultless := faultless
  silent := nofun

theorem finish {reason : LineEnd} (foreign : reason.isUnencodable = false) :
    Unharmed (task.finish reason) where
  queued := faultless.queued
  writing := nofun
  reading := faultless.reading
  silent := by
    simpa [LineTask.finish, reportsIn, LineOutput.reported, LineEvent.isUnencodable] using foreign

theorem stop {reason : LineEnd} (foreign : reason.isUnencodable = false) :
    Unharmed (task.stop reason) where
  queued := faultless.queued
  writing := by
    rintro other same
    cases same
    exact foreign
  reading := faultless.reading
  silent := nofun

theorem endReading {reason : LineEnd} (foreign : reason.isUnencodable = false) :
    Unharmed (task.endReading reason) := by
  unfold LineTask.endReading
  split
  · exact faultless.finish foreign
  · refine silently ⟨faultless.queued, faultless.writing, ?_⟩
    rintro other same
    cases same
    exact foreign

theorem moved {stage : LineStage} {commands : List (LineCommand P)} {inbox : Inbox}
    {pending : Bytes} (further : ∀ reason, stage ≠ .stopping reason)
    (left : commands ⊆ task.commands) :
    Faultless { task with stage, commands, inbox, pending } where
  queued := fun packet member => faultless.queued packet (left member)
  writing := fun reason same => absurd same (further reason)
  reading := faultless.reading

theorem kept {commands : List (LineCommand P)} {inbox : Inbox} {pending : Bytes}
    (left : commands ⊆ task.commands) : Faultless { task with commands, inbox, pending } where
  queued := fun packet member => faultless.queued packet (left member)
  writing := faultless.writing
  reading := faultless.reading

theorem takeCommand (took : task.takeCommand = some result) : Unharmed result := by
  have later {command : LineCommand P} {rest : List (LineCommand P)}
      (commands : task.commands = command :: rest) : rest ⊆ task.commands := by
    rw [commands]
    exact List.subset_cons_self command rest
  unfold LineTask.takeCommand takeEarly takeRunning at took
  split at took
  · split at took
    · next rest commands =>
        cases took
        exact (faultless.kept (later commands)).silently
    · cases took
      exact faultless.finish rfl
    · split at took
      · cases took
        exact faultless.finish rfl
      · cases took
  · split at took
    · split at took
      · next packet rest commands =>
          have queued : .send packet ∈ task.commands := by
            rw [commands]
            exact List.mem_cons_self
          obtain ⟨frame, wrote⟩ := faultless.queued packet queued task.pending
          simp only [wrote] at took
          cases took
          exact (faultless.kept (later commands)).silently
      · next rest commands =>
          cases took
          refine (faultless.moved ?_ (later commands)).silently
          intro reason same
          cases same
      · next rest commands =>
          cases took
          exact (faultless.kept (later commands)).stop rfl
      · split at took
        · cases took
          exact faultless.stop rfl
        · cases took
    · cases took

theorem decode (decoded : task.decode = some result) : Unharmed result := by
  have rest (bytes : Bytes) :
      Faultless { task with inbox := { task.inbox with bytes } } :=
    faultless.kept (List.Subset.refl _)
  unfold LineTask.decode at decoded
  split at decoded
  · cases decoded
  · next packet left found =>
      dsimp only at decoded
      split at decoded
      · rw [onAnswer_eq] at decoded
        split at decoded
        · next event answers =>
            cases decoded
            refine ⟨(rest left).moved nofun (List.Subset.refl _), fun told member => ?_⟩
            cases List.mem_singleton.mp member
            cases event with
            | closed reason => exact absurd answers Handshake.answer?_ne_closed
            | _ => rfl
        · cases decoded
          exact (rest left).finish rfl
      · split at decoded
        · cases decoded
          refine ⟨rest left, fun told member => ?_⟩
          cases List.mem_singleton.mp member
          rfl
        · cases decoded
  · next cause left found =>
      dsimp only at decoded
      split at decoded
      · cases decoded
        exact (rest left).finish rfl
      · split at decoded
        · cases decoded
          refine silently ⟨faultless.queued, faultless.writing, ?_⟩
          rintro other same
          cases same
          rfl
        · cases decoded

theorem arrive {arrival : Arrival} (arrived : task.arrive arrival = some result) :
    Unharmed result := by
  unfold LineTask.arrive at arrived
  split at arrived
  · split at arrived
    · cases arrived
      exact faultless.endReading rfl
    · have foreign : task.streamEnd.isUnencodable = false := by
        unfold streamEnd
        split
        · split <;> rfl
        · rfl
      cases arrived
      exact faultless.endReading foreign
    · cases arrived
      exact (faultless.kept (List.Subset.refl _)).silently
  · cases arrived

theorem onRejected (cause : TransportError) : Unharmed (task.onRejected cause) := by
  unfold LineTask.onRejected
  split
  · exact faultless.finish rfl
  · exact faultless.stop rfl
  · exact faultless.stop rfl

theorem onAccepted {count : Nat} (accepted : task.onAccepted count = some result) :
    Unharmed result := by
  unfold LineTask.onAccepted at accepted
  split at accepted
  · split at accepted
    · cases accepted
      exact faultless.onRejected _
    · dsimp only at accepted
      split at accepted
      · cases accepted
        refine ⟨⟨faultless.queued, ?_, faultless.reading⟩, nofun⟩
        dsimp only
        split
        · exact nofun
        · exact faultless.writing
      · cases accepted
  · cases accepted

theorem conclude (concluded : task.conclude = some result) : Unharmed result := by
  unfold LineTask.conclude at concluded
  split at concluded
  · next _ reason stage =>
      cases concluded
      exact faultless.finish (faultless.writing reason stage)
  · next reason stage isOver =>
      cases concluded
      exact faultless.finish (faultless.reading reason isOver)
  · next reason stage isOver =>
      cases concluded
      exact faultless.finish (faultless.reading reason isOver)
  · cases concluded

theorem step? {move : LineMove} (stepped : task.step? move = some result) : Unharmed result := by
  cases move with
  | connect =>
      simp only [LineTask.step?, Option.ite_none_right_eq_some, Option.some.injEq] at stepped
      obtain ⟨dialing, rfl⟩ := stepped
      unfold onConnected
      split
      · refine (faultless.moved ?_ (List.Subset.refl _)).silently
        intro reason same
        cases same
      · exact faultless.finish rfl
  | refuse cause =>
      simp only [LineTask.step?, Option.ite_none_right_eq_some, Option.some.injEq] at stepped
      obtain ⟨dialing, rfl⟩ := stepped
      exact faultless.finish rfl
  | takeCommand => exact faultless.takeCommand stepped
  | decode => exact faultless.decode stepped
  | arrive arrival => exact faultless.arrive stepped
  | accept count => exact faultless.onAccepted stepped
  | reject cause =>
      simp only [LineTask.step?, Option.ite_none_right_eq_some, Option.some.injEq] at stepped
      obtain ⟨offers, rfl⟩ := stepped
      exact faultless.onRejected cause
  | finishFlush =>
      simp only [LineTask.step?, Option.ite_none_right_eq_some, Option.some.injEq] at stepped
      obtain ⟨flushed, rfl⟩ := stepped
      exact faultless.stop rfl
  | flushTimeout =>
      simp only [LineTask.step?, Option.ite_none_right_eq_some, Option.some.injEq] at stepped
      obtain ⟨flushing, rfl⟩ := stepped
      exact faultless.stop rfl
  | conclude => exact faultless.conclude stepped

theorem advance? (given : ∀ packet, .send packet ∈ step.commanded → task.codec.Encodes packet)
    (advanced : task.advance? step = some result) : Unharmed result := by
  cases step with
  | orders command =>
      simp only [LineTask.advance?, Option.ite_none_left_eq_some, Option.some.injEq] at advanced
      obtain ⟨held, rfl⟩ := advanced
      refine silently ⟨fun packet member => ?_, faultless.writing, faultless.reading⟩
      rcases List.mem_append.mp member with old | new
      · exact faultless.queued packet old
      · exact given packet new
  | releases =>
      cases advanced
      exact silently ⟨faultless.queued, faultless.writing, faultless.reading⟩
  | moves move => exact faultless.step? advanced

end Faultless

/-- As long as its owner sends what can be encoded, a line reports nothing else. -/
theorem Faultless.run? (faultless : task.Faultless)
    (given : ∀ packet, .send packet ∈ commandsIn steps → task.codec.Encodes packet)
    (ran : task.run? steps = some (last, shown)) :
    ∀ event ∈ reportsIn shown, event.isUnencodable = false := by
  induction steps generalizing task shown with
  | nil =>
      cases ran
      exact nofun
  | cons step later induction =>
      obtain ⟨next, first, others, advanced, ranLater, rfl⟩ := run?_cons ran
      rw [commandsIn_cons] at given
      have unharmed := faultless.advance?
        (fun packet member => given packet (List.mem_append_left _ member)) advanced
      have codec := codec_advance advanced
      have following := induction unharmed.toFaultless (fun packet member => by
        rw [codec]
        exact given packet (List.mem_append_right _ member)) ranLater
      intro event member
      rw [reportsIn_append] at member
      rcases List.mem_append.mp member with early | late
      · exact unharmed.silent event early
      · exact following event late

end LineTask

theorem LineStart.faultless (start : LineStart P) : start.task.Faultless := by
  cases start <;> exact ⟨nofun, nofun, nofun⟩

end ResumableSession
