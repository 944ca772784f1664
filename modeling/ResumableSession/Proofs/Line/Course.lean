import ResumableSession.Line.Task

/-!
# The course of a line

Three things happen to a line: its owner gives a command, its owner lets go of it, and
the line moves.  A course is any sequence of them in which every move is possible where
it is made; what is shown on the way adds up.
-/

namespace ResumableSession

variable {P : Type}

/-- The event that a packet is reported as if it is the answer to the handshake. -/
def Handshake.answer? (handshake : Handshake) (packet : Packet P) : Option (LineEvent P) :=
  match handshake, packet with
  | .create _, .createResponse sessionId => some (.created sessionId)
  | .rebind .., .rebindResponse serverAck => some (.rebound serverAck)
  | _, _ => none

theorem Handshake.answer?_ne_closed {handshake : Handshake} {packet : Packet P} {reason : LineEnd} :
    handshake.answer? packet ≠ some (.closed reason) := by
  cases handshake <;> cases packet <;> nofun

/-- The bytes that a move gets from the transport. -/
def LineMove.arrived : LineMove → Bytes
  | .arrive (.bytes bytes) => bytes
  | _ => []

/-- One thing that happens to a line. -/
inductive LineStep (P : Type) where
  | orders (command : LineCommand P)
  | releases
  | moves (move : LineMove)

namespace LineStep

/-- The command that is given. -/
def commanded : LineStep P → List (LineCommand P)
  | .orders command => [command]
  | _ => []

/-- The bytes that arrive. -/
def arrived : LineStep P → Bytes
  | .moves move => move.arrived
  | _ => []

end LineStep

/-- The commands that the owner gives, in order. -/
def commandsIn (steps : List (LineStep P)) : List (LineCommand P) := steps.flatMap LineStep.commanded

/-- The bytes that arrive, in order. -/
def arrivedIn (steps : List (LineStep P)) : Bytes := steps.flatMap LineStep.arrived

namespace LineOutput

/-- The event that is reported. -/
def reported : LineOutput P → List (LineEvent P)
  | .report event => [event]
  | .wrote _ => []

/-- The bytes that the transport accepts. -/
def written : LineOutput P → Bytes
  | .report _ => []
  | .wrote bytes => bytes

end LineOutput

/-- The events that the owner is told, in order. -/
def reportsIn (shown : List (LineOutput P)) : List (LineEvent P) := shown.flatMap LineOutput.reported

/-- The bytes that the transport accepts, in order. -/
def writtenIn (shown : List (LineOutput P)) : Bytes := shown.flatMap LineOutput.written

section Collecting

variable (steps later : List (LineStep P)) (shown others : List (LineOutput P))

@[simp] theorem commandsIn_cons (step : LineStep P) :
    commandsIn (step :: later) = step.commanded ++ commandsIn later := List.flatMap_cons

@[simp] theorem arrivedIn_cons (step : LineStep P) :
    arrivedIn (step :: later) = step.arrived ++ arrivedIn later := List.flatMap_cons

@[simp] theorem reportsIn_append :
    reportsIn (shown ++ others) = reportsIn shown ++ reportsIn others := List.flatMap_append

@[simp] theorem writtenIn_append :
    writtenIn (shown ++ others) = writtenIn shown ++ writtenIn others := List.flatMap_append

@[simp] theorem writtenIn_wrote (bytes : Bytes) :
    writtenIn (.wrote bytes :: shown) = bytes ++ writtenIn shown := List.flatMap_cons

@[simp] theorem writtenIn_nil : writtenIn ([] : List (LineOutput P)) = [] := rfl

@[simp] theorem reportsIn_nil : reportsIn ([] : List (LineOutput P)) = [] := rfl

end Collecting

/-- How a line begins. -/
inductive LineStart (P : Type) where
  /-- It is accepted with this handshake, beyond which the inbox was read. -/
  | accepted (codec : PacketCodec P) (handshake : Handshake) (inbox : Inbox)
  /-- It is dialed, to send this handshake. -/
  | dialed (codec : PacketCodec P) (handshake : Handshake)

namespace LineStart

def task : LineStart P → LineTask P
  | .accepted codec handshake inbox => .accepted codec handshake inbox
  | .dialed codec handshake => .dialed codec handshake

/-- The events that precede all that the line reports itself. -/
def reports : LineStart P → List (LineEvent P)
  | .accepted _ handshake _ => [.accepted handshake]
  | .dialed .. => []

end LineStart

namespace LineTask

/-- What a step makes of a line, and what it shows; `none` if it is not possible.
Nobody gives a command after letting go. -/
def advance? (task : LineTask P) : LineStep P → Option (LineTask P × List (LineOutput P))
  | .orders command => if task.released then none else some (task.command command, [])
  | .releases => some (task.release, [])
  | .moves move => task.step? move

/-- What a course makes of a line, and all that it shows. -/
def run? (task : LineTask P) : List (LineStep P) → Option (LineTask P × List (LineOutput P))
  | [] => some (task, [])
  | step :: later => do
      let (next, shown) ← task.advance? step
      let (last, shownLater) ← next.run? later
      return (last, shown ++ shownLater)

theorem run?_cons {task last : LineTask P} {step : LineStep P} {later : List (LineStep P)}
    {shown : List (LineOutput P)} (ran : task.run? (step :: later) = some (last, shown)) :
    ∃ next first others, task.advance? step = some (next, first) ∧
      next.run? later = some (last, others) ∧ shown = first ++ others := by
  simp only [run?, Option.bind_eq_bind, Option.bind_eq_some_iff, Option.pure_def,
    Option.some.injEq, Prod.mk.injEq, Prod.exists] at ran
  obtain ⟨next, first, advanced, last', others, ranLater, rfl, rfl⟩ := ran
  exact ⟨next, first, others, advanced, ranLater, rfl⟩

/-! ## What steps do -/

/-- Why the writer stops, and the commands that it leaves. -/
inductive Stops (task : LineTask P) : LineMove → List (LineCommand P) → LineEnd → Prop where
  | unencodable {packet : Packet P} {later : List (LineCommand P)} {cause : CodecError}
      {left : Bytes} (running : task.stage = .running)
      (next : task.commands = .send packet :: later)
      (refused : task.codec.write packet task.pending = .error cause left) :
      Stops task .takeCommand later (.unencodable cause)
  | closed {later : List (LineCommand P)} (running : task.stage = .running)
      (next : task.commands = .close false :: later) :
      Stops task .takeCommand later .closedLocally
  | released (running : task.stage = .running) (none : task.commands = [])
      (released : task.released) : Stops task .takeCommand task.commands .closedLocally
  | rejected {move : LineMove} {reason : LineEnd}
      (rejects : move = .accept 0 ∨ ∃ cause, move = .reject cause) :
      Stops task move task.commands reason
  | flushed (flushing : task.stage = .flushing) (empty : task.pending = []) :
      Stops task .finishFlush task.commands .closedLocally
  | timedOut (flushing : task.stage = .flushing) :
      Stops task .flushTimeout task.commands .closedLocally

/-- What a move makes of a line, and what it shows. -/
inductive Change (task : LineTask P) : LineMove → LineTask P → List (LineOutput P) → Prop where
  | requests {request : Bytes} (dialing : task.stage = .dialing)
      (encoded : task.codec.encode task.handshake.toPacket = .ok request) :
      Change task .connect { task with stage := .requesting, pending := request } []
  | drops {packet : Packet P} {later : List (LineCommand P)} (shaking : task.isShaking)
      (next : task.commands = .send packet :: later) :
      Change task .takeCommand { task with commands := later } []
  | abandons (shaking : task.isShaking) :
      Change task .takeCommand { task with stage := .ended } [.report (.closed .closedLocally)]
  | fails {move : LineMove} {inbox : Inbox} {reason : LineEnd} (shaking : task.isShaking) :
      Change task move { task with inbox, stage := .ended } [.report (.closed reason)]
  | opens {packet : Packet P} {rest : Bytes} {event : LineEvent P}
      (awaiting : task.stage = .awaiting)
      (found : task.codec.read task.inbox.bytes = .ok (some packet) rest)
      (answers : task.handshake.answer? packet = some event) :
      Change task .decode
        { task with inbox := { task.inbox with bytes := rest }, stage := .running }
        [.report event]
  | hears {packet : Packet P} {rest : Bytes} (reading : task.isReading)
      (found : task.codec.read task.inbox.bytes = .ok (some packet) rest) :
      Change task .decode { task with inbox := { task.inbox with bytes := rest } }
        [.report (.received packet)]
  | reads {bytes : Bytes} (listening : task.stage = .awaiting ∨ task.isReading)
      (some : bytes ≠ []) :
      Change task (.arrive (.bytes bytes))
        { task with inbox := task.inbox.makeRoom.add bytes } []
  | deafens {move : LineMove} {inbox : Inbox} {reason : LineEnd} (reading : task.isReading)
      (foreign : reason ≠ .closedLocally) :
      Change task move { task with inbox, readerEnd := some reason } []
  | queues {packet : Packet P} {later : List (LineCommand P)} {pending : Bytes}
      (running : task.stage = .running) (next : task.commands = .send packet :: later)
      (wrote : task.codec.write packet task.pending = .ok () pending) :
      Change task .takeCommand { task with commands := later, pending } []
  | flushes {later : List (LineCommand P)} (running : task.stage = .running)
      (next : task.commands = .close true :: later) :
      Change task .takeCommand { task with commands := later, stage := .flushing } []
  | writes {count : Nat} {stage : LineStage} (offers : task.offers) (some : count ≠ 0)
      (stays : stage = task.stage ∨
        task.stage = .requesting ∧ stage = .awaiting ∧ task.pending.drop count = []) :
      Change task (.accept count) { task with pending := task.pending.drop count, stage }
        [.wrote (task.pending.take count)]
  | stops {move : LineMove} {left : List (LineCommand P)} {reason : LineEnd}
      (working : task.stage = .running ∨ task.stage = .flushing)
      (stops : task.Stops move left reason) :
      Change task move { task with commands := left, stage := .stopping reason } []
  | concludes {reason : LineEnd} (stopping : task.stage = .stopping reason) :
      Change task .conclude { task with stage := .ended } [.report (.closed reason)]
  | cutOff {reason : LineEnd} (working : task.stage = .running ∨ task.stage = .flushing)
      (isOver : task.readerEnd = some reason) :
      Change task .conclude { task with stage := .ended } [.report (.closed reason)]

/-- What a step makes of a line, and what it shows. -/
inductive Advance (task : LineTask P) :
    LineStep P → LineTask P → List (LineOutput P) → Prop where
  | orders {command : LineCommand P} (held : ¬task.released) :
      Advance task (.orders command) (task.command command) []
  | releases : Advance task .releases task.release []
  | moves {move : LineMove} {next : LineTask P} {shown : List (LineOutput P)}
      (change : task.Change move next shown) : Advance task (.moves move) next shown

variable {task next : LineTask P} {move : LineMove} {step : LineStep P}
  {shown : List (LineOutput P)}

theorem isShaking_iff (task : LineTask P) :
    task.isShaking ↔
      task.stage = .dialing ∨ task.stage = .requesting ∨ task.stage = .awaiting := by
  simp only [isShaking, Bool.or_eq_true, beq_iff_eq, or_assoc]

theorem isEnded_iff (task : LineTask P) : task.isEnded ↔ task.stage = .ended := by
  simp only [isEnded, beq_iff_eq]

theorem isReading_iff (task : LineTask P) :
    task.isReading ↔ ¬task.isShaking ∧ task.stage ≠ .ended ∧ task.readerEnd = none := by
  simp only [isReading, isEnded, Bool.and_eq_true, Bool.not_eq_true', Bool.not_eq_true,
    beq_eq_false_iff_ne, Option.isNone_iff_eq_none, and_assoc]

theorem isShaking_of_awaiting (awaiting : task.stage = .awaiting) : task.isShaking :=
  task.isShaking_iff.mpr (.inr (.inr awaiting))

theorem talking_of_working (working : task.stage = .running ∨ task.stage = .flushing) :
    ¬task.isShaking ∧ task.stage ≠ .ended := by
  rcases working with stage | stage <;> simp [isShaking_iff, stage]

theorem onAnswer_eq (task : LineTask P) (packet : Packet P) :
    task.onAnswer packet =
      match task.handshake.answer? packet with
      | some event => ({ task with stage := .running }, [.report event])
      | none => task.finish (.failed (.handshakeRejected (.unexpected packet.kind))) := by
  unfold onAnswer Handshake.answer?
  cases task.handshake <;> cases packet <;> rfl

private theorem change_of_takeEarly (shaking : task.isShaking)
    (took : task.takeEarly = some (next, shown)) : Change task .takeCommand next shown := by
  unfold takeEarly at took
  split at took
  · next packet later commands =>
      cases took
      exact .drops shaking commands
  · cases took
    exact .abandons shaking
  · split at took
    · cases took
      exact .abandons shaking
    · cases took

private theorem change_of_takeRunning (running : task.stage = .running)
    (took : task.takeRunning = some (next, shown)) : Change task .takeCommand next shown := by
  unfold takeRunning at took
  split at took
  · next packet later commands =>
      dsimp only at took
      split at took
      · next wrote =>
          cases took
          exact .queues running commands wrote
      · next refused =>
          cases took
          exact .stops (.inl running) (.unencodable running commands refused)
  · next later commands =>
      cases took
      exact .flushes running commands
  · next later commands =>
      cases took
      exact .stops (.inl running) (.closed running commands)
  · next commands =>
      split at took
      · next released =>
          cases took
          exact .stops (.inl running) (.released running commands released)
      · cases took

private theorem change_of_decode (decoded : task.decode = some (next, shown)) :
    Change task .decode next shown := by
  unfold decode at decoded
  split at decoded
  · cases decoded
  · next packet rest found =>
      dsimp only at decoded
      split at decoded
      · next awaiting =>
          rw [onAnswer_eq, Option.some.injEq] at decoded
          split at decoded
          · next event answers =>
              cases decoded
              exact .opens awaiting found answers
          · cases decoded
            exact .fails (isShaking_of_awaiting awaiting)
      · split at decoded
        · next reading =>
            cases decoded
            exact .hears reading found
        · cases decoded
  · dsimp only at decoded
    split at decoded
    · next awaiting =>
        cases decoded
        exact .fails (isShaking_of_awaiting awaiting)
    · split at decoded
      · next reading =>
          cases decoded
          exact .deafens reading nofun
      · cases decoded

private theorem change_of_endReading {reason : LineEnd} (foreign : reason ≠ .closedLocally)
    (listening : task.stage = .awaiting ∨ task.isReading)
    (ended : task.endReading reason = (next, shown)) : Change task move next shown := by
  unfold endReading at ended
  split at ended
  · next awaiting =>
      cases ended
      exact .fails (isShaking_of_awaiting awaiting)
  · next other =>
      cases ended
      exact .deafens (listening.resolve_left other) foreign

private theorem streamEnd_ne_closedLocally (task : LineTask P) :
    task.streamEnd ≠ .closedLocally := by
  unfold streamEnd
  split
  · split <;> nofun
  · nofun

private theorem change_of_arrive {arrival : Arrival}
    (arrived : task.arrive arrival = some (next, shown)) :
    Change task (.arrive arrival) next shown := by
  unfold arrive at arrived
  split at arrived
  · next needs =>
      have listening : task.stage = .awaiting ∨ task.isReading := by
        simp only [needsBytes, Bool.and_eq_true, Bool.or_eq_true, beq_iff_eq] at needs
        exact needs.1
      split at arrived
      · exact change_of_endReading (by nofun) listening (Option.some.inj arrived)
      · exact change_of_endReading task.streamEnd_ne_closedLocally listening
          (Option.some.inj arrived)
      · next bytes some =>
          cases arrived
          exact .reads listening some
  · cases arrived

theorem offers_stage (offers : task.offers) :
    task.stage = .requesting ∨ task.stage = .running ∨ task.stage = .flushing := by
  simp only [LineTask.offers, Bool.and_eq_true] at offers
  cases stage : task.stage <;> simp_all

private theorem change_of_onRejected {cause : TransportError} (offers : task.offers)
    (rejects : move = .accept 0 ∨ ∃ cause, move = .reject cause)
    (rejected : task.onRejected cause = (next, shown)) : Change task move next shown := by
  rcases offers_stage offers with stage | stage | stage
  · simp only [onRejected, stage] at rejected
    cases rejected
    exact .fails (task.isShaking_iff.mpr (.inr (.inl stage)))
  · simp only [onRejected, stage] at rejected
    cases rejected
    exact .stops (.inl stage) (.rejected rejects)
  · simp only [onRejected, stage] at rejected
    cases rejected
    exact .stops (.inr stage) (.rejected rejects)

private theorem change_of_onAccepted {count : Nat}
    (accepted : task.onAccepted count = some (next, shown)) :
    Change task (.accept count) next shown := by
  unfold onAccepted at accepted
  split at accepted
  · next offers =>
      split at accepted
      · next none =>
          subst none
          exact change_of_onRejected offers (.inl rfl) (Option.some.inj accepted)
      · next some =>
          dsimp only at accepted
          split at accepted
          · cases accepted
            apply Change.writes offers some
            split
            · next last => exact .inr ⟨last.1, rfl, List.isEmpty_iff.mp last.2⟩
            · exact .inl rfl
          · cases accepted
  · cases accepted

private theorem change_of_conclude (concluded : task.conclude = some (next, shown)) :
    Change task .conclude next shown := by
  unfold conclude at concluded
  split at concluded
  · next stopping =>
      cases concluded
      exact .concludes stopping
  · next running isOver =>
      cases concluded
      exact .cutOff (.inl running) isOver
  · next flushing isOver =>
      cases concluded
      exact .cutOff (.inr flushing) isOver
  · cases concluded

theorem change_of_step? (stepped : task.step? move = some (next, shown)) :
    Change task move next shown := by
  cases move with
  | connect =>
      simp only [step?, Option.ite_none_right_eq_some, Option.some.injEq] at stepped
      obtain ⟨dialing, connected⟩ := stepped
      unfold onConnected at connected
      split at connected
      · next encoded =>
          cases connected
          exact .requests dialing encoded
      · cases connected
        exact .fails (task.isShaking_iff.mpr (.inl dialing))
  | refuse cause =>
      simp only [step?, Option.ite_none_right_eq_some, Option.some.injEq] at stepped
      obtain ⟨dialing, refused⟩ := stepped
      cases refused
      exact .fails (task.isShaking_iff.mpr (.inl dialing))
  | takeCommand =>
      simp only [step?, takeCommand] at stepped
      split at stepped
      · next shaking => exact change_of_takeEarly shaking stepped
      · split at stepped
        · next running => exact change_of_takeRunning running stepped
        · cases stepped
  | decode => exact change_of_decode stepped
  | arrive arrival => exact change_of_arrive stepped
  | accept count => exact change_of_onAccepted stepped
  | reject cause =>
      simp only [step?, Option.ite_none_right_eq_some, Option.some.injEq] at stepped
      obtain ⟨offers, rejected⟩ := stepped
      exact change_of_onRejected offers (.inr ⟨cause, rfl⟩) rejected
  | finishFlush =>
      simp only [step?, Option.ite_none_right_eq_some, Option.some.injEq] at stepped
      obtain ⟨⟨flushing, empty⟩, flushed⟩ := stepped
      cases flushed
      exact .stops (.inr flushing) (.flushed flushing (List.isEmpty_iff.mp empty))
  | flushTimeout =>
      simp only [step?, Option.ite_none_right_eq_some, Option.some.injEq] at stepped
      obtain ⟨flushing, timedOut⟩ := stepped
      cases timedOut
      exact .stops (.inr flushing) (.timedOut flushing)
  | conclude => exact change_of_conclude stepped

theorem advance_of_advance? (advanced : task.advance? step = some (next, shown)) :
    task.Advance step next shown := by
  cases step with
  | orders command =>
      simp only [advance?, Option.ite_none_left_eq_some, Option.some.injEq] at advanced
      obtain ⟨held, advanced⟩ := advanced
      cases advanced
      exact .orders held
  | releases =>
      cases advanced
      exact .releases
  | moves move => exact .moves (change_of_step? advanced)

end LineTask

end ResumableSession
