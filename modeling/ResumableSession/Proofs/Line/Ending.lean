import ResumableSession.Proofs.Line.Course

/-!
# How a line comes to its end

Once the owner closes a line or lets go of it, or its transport ends or fails, nothing
that is still to come from outside is needed: the line ends by moves of its own.  An
ended line does not move any more.
-/

namespace ResumableSession

variable {P : Type}

/-- A move that neither the peer nor the transport has a part in. -/
def LineMove.isOwn : LineMove → Bool
  | .takeCommand | .flushTimeout | .conclude => true
  | _ => false

/-- A step after which the line is not to go on. -/
def LineStep.dismisses : LineStep P → Bool
  | .orders (.close _) | .releases => true
  | .moves (.refuse _) | .moves (.arrive (.failure _)) | .moves (.arrive (.bytes [])) => true
  | .moves (.accept 0) | .moves (.reject _) => true
  | _ => false

namespace LineTask

variable {task next last : LineTask P} {move : LineMove} {step : LineStep P}
  {steps : List (LineStep P)} {shown : List (LineOutput P)}

theorem step?_ended (ended : task.stage = .ended) (move : LineMove) : task.step? move = none := by
  apply Option.eq_none_iff_forall_ne_some.mpr
  rintro ⟨next, shown⟩ stepped
  have shaking : ¬task.isShaking := by simp [isShaking_iff, ended]
  have reading : ¬task.isReading := by simp [isReading_iff, ended]
  cases change_of_step? stepped with
  | requests dialing encoded => simp [ended] at dialing
  | drops shook next | abandons shook | fails shook => exact shaking shook
  | opens awaiting found answers => simp [ended] at awaiting
  | hears listening found | deafens listening foreign => exact reading listening
  | reads listening some => exact listening.elim (by simp [ended]) reading
  | queues running next wrote | flushes running next => simp [ended] at running
  | writes offers some stays => simpa [ended] using offers_stage offers
  | stops working stops | cutOff working isOver => simp [ended] at working
  | concludes stopping => simp [ended] at stopping

/-- The owner, the peer or the transport has said that the line is not to go on. -/
inductive Dismissed (task : LineTask P) : Prop where
  | released (released : task.released)
  | closing {graceful : Bool} (queued : .close graceful ∈ task.commands)
  | deaf (talking : ¬task.isShaking) (isOver : task.readerEnd.isSome)
  | leaving (leaving : task.stage = .flushing ∨ (∃ reason, task.stage = .stopping reason) ∨
      task.stage = .ended)

theorem Dismissed.change (dismissed : task.Dismissed) (change : task.Change move next shown) :
    next.Dismissed := by
  cases dismissed with
  | released released => cases change <;> exact .released released
  | leaving leaving =>
      apply Dismissed.leaving
      cases change with
      | writes offers some stays =>
          rcases stays with stays | stays
          · rw [← stays] at leaving
            exact leaving
          · simp [stays.1] at leaving
      | requests dialing encoded => simp [dialing] at leaving
      | opens awaiting found answers => simp [awaiting] at leaving
      | queues running next wrote => simp [running] at leaving
      | flushes running next => exact .inl rfl
      | stops working stops => exact .inr (.inl ⟨_, rfl⟩)
      | abandons | fails | concludes | cutOff => exact .inr (.inr rfl)
      | drops | hears | reads | deafens => exact leaving
  | closing queued =>
      cases change with
      | drops shaking next | queues running next =>
          rw [next, List.mem_cons] at queued
          exact .closing (queued.resolve_left nofun)
      | flushes running next => exact .leaving (.inl rfl)
      | stops working stops => exact .leaving (.inr (.inl ⟨_, rfl⟩))
      | abandons | fails | concludes | cutOff => exact .leaving (.inr (.inr rfl))
      | requests | opens | hears | reads | deafens | writes => exact .closing queued
  | deaf talking isOver =>
      cases change with
      | abandons | fails | concludes | cutOff => exact .leaving (.inr (.inr rfl))
      | flushes running next => exact .leaving (.inl rfl)
      | stops working stops => exact .leaving (.inr (.inl ⟨_, rfl⟩))
      | deafens => exact .deaf talking rfl
      | drops | hears | reads | queues => exact .deaf talking isOver
      | requests dialing encoded => exact absurd (task.isShaking_iff.mpr (.inl dialing)) talking
      | opens awaiting found answers => exact absurd (isShaking_of_awaiting awaiting) talking
      | writes offers some stays =>
          rcases stays with rfl | stays
          · exact .deaf talking isOver
          · exact absurd (task.isShaking_iff.mpr (.inr (.inl stays.1))) talking

theorem Dismissed.advance (dismissed : task.Dismissed)
    (advanced : task.advance? step = some (next, shown)) : next.Dismissed := by
  cases advance_of_advance? advanced with
  | orders held =>
      cases dismissed with
      | released released => exact absurd released held
      | closing queued => exact .closing (List.mem_append_left _ queued)
      | deaf talking isOver => exact .deaf talking isOver
      | leaving leaving => exact .leaving leaving
  | releases => exact .released rfl
  | moves change => exact dismissed.change change

private theorem dismissed_of_dismisses (dismisses : step.dismisses)
    (advanced : task.advance? step = some (next, shown)) : next.Dismissed := by
  cases advance_of_advance? advanced with
  | @orders command held =>
      cases command with
      | send packet => cases dismisses
      | close graceful => exact .closing List.mem_concat_self
  | releases => exact .released rfl
  | moves change =>
      cases change with
      | fails shaking => exact .leaving (.inr (.inr rfl))
      | stops working stops => exact .leaving (.inr (.inl ⟨_, rfl⟩))
      | deafens reading foreign => exact .deaf (task.isReading_iff.mp reading).1 rfl
      | @reads bytes listening some =>
          cases bytes with
          | nil => exact absurd rfl some
          | cons byte bytes => cases dismisses
      | @writes count stage offers some stays =>
          cases count with
          | zero => exact absurd rfl some
          | succ count => cases dismisses
      | _ => cases dismisses

theorem Dismissed.run (ran : task.run? steps = some (last, shown))
    (dismissed : task.Dismissed ∨ ∃ step ∈ steps, step.dismisses) : last.Dismissed := by
  induction steps generalizing task shown with
  | nil =>
      cases ran
      simpa using dismissed
  | cons step later induction =>
      obtain ⟨next, first, others, advanced, ranLater, rfl⟩ := run?_cons ran
      apply induction ranLater
      rcases dismissed with dismissed | ⟨step', member, dismisses⟩
      · exact .inl (dismissed.advance advanced)
      · rcases List.mem_cons.mp member with rfl | member
        · exact .inl (dismissed_of_dismisses dismisses advanced)
        · exact .inr ⟨step', member, dismisses⟩

/-! ## The way to the end -/

/-- A bound on the moves of its own that a line has left: every command is taken once. -/
def toGo (task : LineTask P) : Nat :=
  task.commands.length +
    match task.stage with
    | .ended => 0
    | .stopping _ => 1
    | .flushing => 2
    | _ => 3

/-- A move of its own brings the line nearer to its end. -/
def Nears (task : LineTask P) : Prop :=
  ∃ move next shown, LineMove.isOwn move ∧ task.step? move = some (next, shown) ∧
    next.toGo < task.toGo

private theorem Dismissed.nears_shaking (dismissed : task.Dismissed) (shaking : task.isShaking) :
    task.Nears := by
  have stepped : task.step? .takeCommand = task.takeEarly := by
    simp only [step?, takeCommand, shaking, if_true]
  have far : task.toGo = task.commands.length + 3 := by
    rcases task.isShaking_iff.mp shaking with stage | stage | stage <;> simp only [toGo, stage]
  refine ⟨.takeCommand, ?_⟩
  rw [stepped, far, takeEarly]
  cases queue : task.commands with
  | nil =>
      have released : task.released := by
        cases dismissed with
        | released released => exact released
        | closing queued => simp [queue] at queued
        | deaf talking isOver => exact absurd shaking talking
        | leaving leaving =>
            rcases task.isShaking_iff.mp shaking with stage | stage | stage <;>
              simp [stage] at leaving
      refine ⟨_, _, rfl, if_pos released, ?_⟩
      simp [toGo, queue]
  | cons command later =>
      cases command with
      | send packet =>
          refine ⟨_, _, rfl, rfl, ?_⟩
          rcases task.isShaking_iff.mp shaking with stage | stage | stage <;> simp [toGo, stage]
      | close graceful =>
          refine ⟨_, _, rfl, rfl, ?_⟩
          simp [toGo, queue]

private theorem Dismissed.nears_running (dismissed : task.Dismissed)
    (running : task.stage = .running) :
    task.Nears := by
  have talking : ¬task.isShaking := by simp [isShaking_iff, running]
  have stepped : task.step? .takeCommand = task.takeRunning := by
    simp only [step?, takeCommand, if_neg talking, if_pos running]
  have far : task.toGo = task.commands.length + 3 := by simp only [toGo, running]
  cases queue : task.commands with
  | nil =>
      cases dismissed with
      | released released =>
          have stopped : task.step? .takeCommand = some (task.stop .closedLocally) := by
            rw [stepped, takeRunning, queue]
            exact if_pos released
          exact ⟨_, _, _, rfl, stopped, by simp [toGo, running]⟩
      | deaf talking isOver =>
          obtain ⟨reason, isOver⟩ := Option.isSome_iff_exists.mp isOver
          have concluded : task.step? .conclude = some (task.finish reason) := by
            simp only [step?, conclude, running, isOver]
          exact ⟨_, _, _, rfl, concluded, by simp [toGo, running]⟩
      | closing queued => simp [queue] at queued
      | leaving leaving => simp [running] at leaving
  | cons command later =>
      refine ⟨.takeCommand, ?_⟩
      rw [stepped, far, takeRunning, queue]
      cases command with
      | send packet =>
          dsimp only
          cases task.codec.write packet task.pending with
          | ok _ pending =>
              refine ⟨_, _, rfl, rfl, ?_⟩
              simp [toGo, running]
          | error cause left =>
              refine ⟨_, _, rfl, rfl, ?_⟩
              simp only [toGo, List.length_cons]
              omega
      | close graceful =>
          cases graceful with
          | true =>
              refine ⟨_, _, rfl, rfl, ?_⟩
              simp only [toGo, List.length_cons]
              omega
          | false =>
              refine ⟨_, _, rfl, rfl, ?_⟩
              simp only [toGo, List.length_cons]
              omega

private theorem Dismissed.nears (dismissed : task.Dismissed) (unfinished : task.stage ≠ .ended) :
    task.Nears := by
  cases stage : task.stage with
  | dialing => exact dismissed.nears_shaking (task.isShaking_iff.mpr (.inl stage))
  | requesting => exact dismissed.nears_shaking (task.isShaking_iff.mpr (.inr (.inl stage)))
  | awaiting => exact dismissed.nears_shaking (isShaking_of_awaiting stage)
  | running => exact dismissed.nears_running stage
  | flushing =>
      exact ⟨.flushTimeout, _, _, rfl, if_pos stage, by simp [toGo, stage]⟩
  | stopping reason =>
      have concluded : task.step? .conclude = some (task.finish reason) := by
        simp only [step?, conclude, stage]
      exact ⟨_, _, _, rfl, concluded, by simp [toGo, stage]⟩
  | ended => exact absurd stage unfinished

/-- A dismissed line ends by moves of its own. -/
theorem Dismissed.ends (dismissed : task.Dismissed) :
    ∃ (moves : List LineMove) (last : LineTask P) (shown : List (LineOutput P)),
      (∀ move ∈ moves, move.isOwn) ∧ task.run? (moves.map .moves) = some (last, shown) ∧
        last.isEnded := by
  induction left : task.toGo using Nat.strongRecOn generalizing task with
  | ind left' induction =>
      subst left
      by_cases ended : task.stage = .ended
      · exact ⟨[], task, [], nofun, rfl, task.isEnded_iff.mpr ended⟩
      · obtain ⟨move, next, shown, own, stepped, nearer⟩ := dismissed.nears ended
        obtain ⟨moves, last, others, allOwn, ran, isOver⟩ :=
          induction next.toGo nearer (dismissed.change (change_of_step? stepped)) rfl
        refine ⟨move :: moves, last, shown ++ others, ?_, ?_, isOver⟩
        · exact List.forall_mem_cons.mpr ⟨own, allOwn⟩
        · simp only [List.map_cons, run?, advance?, stepped, ran, Option.bind_eq_bind,
            Option.bind_some, Option.pure_def]

end LineTask

end ResumableSession
