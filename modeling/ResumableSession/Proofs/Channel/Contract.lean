import ResumableSession.Proofs.Channel.Acting
import ResumableSession.Proofs.Exchange.System

/-!
# What a driver owes its session and its application

A driver gives its session one thing at a time, and the lines that it asks for before
anything else.  What the application is told, what the one who asked for the session is
answered and what the driver returns are the outputs of a session that is given the same
inputs and whose outputs nobody takes away.
-/

namespace ResumableSession

variable {P : Type}

/-- The line that was dialed for the session, if the input is one. -/
def Input.dialed? : Input P → Option Line
  | .bindPending line => some line
  | _ => none

/-- What the report of a line is to a session.  A packet that cannot be encoded would fail
again on the next line, so it ends the session as well. -/
def Input.ofEvent (line : LineId) (clock : UInt32) : LineEvent P → List (Input P)
  | .closed (.unencodable _) => [.lineClosed line, .closeImmediately .unencodable]
  | event => [.ofReport line clock event]

/-- What a command is to a session. -/
def ChannelCommand.toInput : ChannelCommand P → Input P
  | .send payload => .send payload
  | .close => .close
  | .abort => .closeImmediately .aborted

/-- How a channel comes into being. -/
inductive ChannelStart where
  | connecting (settings : ClientSettings) (token : String)
  | accepting (sessionId : UInt32) (settings : SessionSettings)

/-- The driver of a new channel. -/
def ChannelStart.driver : ChannelStart → ChannelDriver P
  | .connecting settings token => (ChannelDriver.initiator settings token).1
  | .accepting sessionId settings => .responder sessionId settings

namespace ChannelDriver

/-- What a pick is to the session. -/
def picked (driver : ChannelDriver P) : ChannelPick P → List (Input P)
  | .tick time clock => [.update time clock]
  | .lineEvent line event clock => Input.ofEvent line clock event
  | .command command => if driver.held then [command.toInput] else []
  | .released => if driver.held then [.close] else []
  | .shutdown => if driver.watchesShutdown then [.close] else []

/-- What a step gives the session: what was picked, and then each line that the session
asked for. -/
def gives (driver : ChannelDriver P) (next : ChannelPick P) : List (Input P) :=
  if driver.isFinished then []
  else
    let inputs := driver.picked next
    inputs ++ bindings (linesFor driver.nextLine (dialedIn (driver.session.run inputs).outputs))

/-- What a run gives the session. -/
def givesAll (driver : ChannelDriver P) : List (ChannelPick P) → List (Input P)
  | [] => []
  | next :: picks => driver.gives next ++ (driver.step next).1.givesAll picks

variable {driver : ChannelDriver P}

private theorem dialed_bindings (lines : List (Line × Handshake)) :
    (bindings (P := P) lines).filterMap Input.dialed? = lines.map Prod.fst := by
  rw [bindings, List.filterMap_map]
  exact congrFun List.filterMap_eq_map lines

private theorem dialed_ofEvent (line : LineId) (clock : UInt32) (event : LineEvent P) :
    (Input.ofEvent line clock event).filterMap Input.dialed? = [] := by
  cases event with
  | accepted handshake => cases handshake <;> rfl
  | closed reason => cases reason <;> rfl
  | _ => rfl

private theorem dialed_picked (driver : ChannelDriver P) (next : ChannelPick P) :
    (driver.picked next).filterMap Input.dialed? = [] := by
  cases next with
  | tick => rfl
  | lineEvent line event clock => exact dialed_ofEvent line clock event
  | command command =>
      simp only [picked]
      split
      · cases command <;> rfl
      · rfl
  | released | shutdown =>
      simp only [picked]
      split <;> rfl

private theorem run_ofEvent (session : Session P) (line : LineId) (clock : UInt32)
    (event : LineEvent P) :
    session.run (Input.ofEvent line clock event) = onLineEvent session line clock event := by
  cases event with
  | accepted handshake => cases handshake <;> rfl
  | closed reason => cases reason <;> rfl
  | _ => rfl

private theorem session_pick (driver : ChannelDriver P) (next : ChannelPick P) :
    (driver.pick next).session = driver.session.run (driver.picked next) := by
  cases next with
  | tick => rfl
  | lineEvent line event clock => exact (run_ofEvent driver.session line clock event).symm
  | command command =>
      simp only [pick, picked]
      split
      · cases command <;> rfl
      · rfl
  | released | shutdown =>
      simp only [pick, picked]
      split <;> rfl

private theorem acts_pick (driver : ChannelDriver P) (next : ChannelPick P) :
    Acts driver [] (driver.pick next) [] := by
  cases next with
  | tick | lineEvent => exact .still rfl rfl rfl rfl rfl
  | command | released | shutdown =>
      simp only [pick]
      split <;> exact .still rfl rfl rfl rfl rfl

/-! ## A run -/

/-- Between two picks nothing is left to act on, only a side that can dial asks for lines,
and the driver has returned if its session has ended. -/
structure Settled (driver : ChannelDriver P) : Prop where
  drained : driver.session.outputs = []
  unpaced : driver.dials = false → driver.session.liveness.rebindLimits = none
  returned : driver.result.isSome ↔ driver.session.phase = .closed

/-- A session that nobody takes outputs from is given the same inputs, and tells what was
acted on. -/
structure Serves (driver : ChannelDriver P) (inputs : List (Input P)) (told : List (Output P))
    (after : ChannelDriver P) (effects : List (ChannelEffect P)) : Prop
    extends Acts driver told after effects, Settled after where
  session : driver.session.run inputs = after.session.restore told
  bound : inputs.filterMap Input.dialed? =
    (linesFor driver.nextLine (dialedIn told)).map Prod.fst

theorem Serves.trans {middle after : ChannelDriver P} {inputs inputs' : List (Input P)}
    {told told' : List (Output P)} {effects effects' : List (ChannelEffect P)}
    (earlier : Serves driver inputs told middle effects)
    (later : Serves middle inputs' told' after effects') :
    Serves driver (inputs ++ inputs') (told ++ told') after (effects ++ effects') where
  toActs := earlier.toActs.trans later.toActs
  toSettled := later.toSettled
  session := by
    rw [Session.run_append, earlier.session, Session.run_restore, later.session,
      Session.restore_restore]
  bound := by
    rw [List.filterMap_append, earlier.bound, later.bound, earlier.nextLine, dialedIn_append,
      linesFor_append, List.map_append]

private theorem serves_finished (settled : Settled driver) (finished : driver.isFinished)
    (next : ChannelPick P) :
    Serves driver (driver.gives next) [] (driver.step next).1 (driver.step next).2 := by
  obtain ⟨held, kept⟩ : ∃ held, driver.afterEnd next = { driver with held } := by
    cases next <;> exact ⟨_, rfl⟩
  rw [gives, step, if_pos finished, if_pos finished, kept]
  exact
    { toActs := .still rfl rfl rfl rfl rfl
      toSettled := ⟨settled.drained, settled.unpaced, settled.returned⟩
      session := rfl
      bound := rfl }

/-- A step lets the session act on a pick, and drains what comes of it. -/
theorem serves_step (settled : Settled driver) (next : ChannelPick P) :
    ∃ told, Serves driver (driver.gives next) told (driver.step next).1 (driver.step next).2 := by
  by_cases finished : driver.isFinished
  · exact ⟨[], serves_finished settled finished next⟩
  have running : driver.result = none := by
    rw [← Option.not_isSome_iff_eq_none]
    exact finished
  have open_ : driver.session.phase ≠ .closed := fun isOver => finished (settled.returned.mpr isOver)
  obtain ⟨told, outputs, story, undialed⟩ :=
    (Session.tells_run driver.session (driver.picked next)).outputs
  rw [settled.drained, List.nil_append] at outputs
  have gives : driver.gives next =
      driver.picked next ++ bindings (linesFor driver.nextLine (dialedIn told)) := by
    rw [ChannelDriver.gives, if_neg finished, ← outputs]
  have stepped : driver.step next = (driver.pick next).drain := if_neg finished
  rw [← session_pick] at outputs story
  have picked := acts_pick driver next
  have dialable (unable : (driver.pick next).dials = false) : dialedIn told = [] :=
    undialed (settled.unpaced (picked.dials.symm.trans unable))
  have unfinished : (driver.pick next).result = none := by
    rw [picked.result, running]
    rfl
  obtain ⟨acts, session, drained, phase⟩ := drain_spec outputs story unfinished dialable
  rw [← stepped] at acts session drained phase
  have served := picked.trans acts
  have nextLine : (driver.pick next).nextLine = driver.nextLine := picked.nextLine
  have run : driver.session.run (driver.gives next) = (driver.step next).1.session.restore told := by
    rw [gives, Session.run_append, ← session_pick, ← nextLine, session]
  refine ⟨told,
    { toActs := served
      toSettled := ⟨drained, fun unable => ?_, ?_⟩
      session := run
      bound := ?_ }⟩
  · have limits := (Session.tells_run driver.session (driver.gives next)).limits
    rw [run] at limits
    exact limits.trans (settled.unpaced (served.dials.symm.trans unable))
  · rw [served.result, running, phase]
    exact story.ended_iff open_
  · rw [gives, List.filterMap_append, dialed_picked, dialed_bindings]
    rfl

private theorem serves_run (settled : Settled driver) (picks : List (ChannelPick P)) :
    ∃ told, Serves driver (driver.givesAll picks) told (driver.run picks).1
      (driver.run picks).2 := by
  induction picks generalizing driver with
  | nil =>
      exact ⟨[],
        { toActs := .still rfl rfl rfl rfl rfl
          toSettled := settled
          session := rfl
          bound := rfl }⟩
  | cons next picks induction =>
      obtain ⟨told, served⟩ := serves_step settled next
      obtain ⟨told', later⟩ := induction served.toSettled
      exact ⟨told ++ told', served.trans later⟩

/-! ## The contract -/

/-- What a driver owes, whatever it picks: `core` is a session that was given the same
inputs and that still has all its outputs. -/
structure Contract (driver : ChannelDriver P) (inputs : List (Input P)) (core : Session P)
    (last : ChannelDriver P) (effects : List (ChannelEffect P)) : Prop where
  /-- No output is left when the next thing is picked. -/
  drained : last.session.outputs = []
  /-- Its outputs apart, the session of the driver is the one that keeps them. -/
  session : core = last.session.restore core.outputs
  /-- A line is dialed for each one that was asked for. -/
  dialed : (dialsIn effects).map Prod.snd = dialedIn core.outputs
  /-- The session has been handed every line that was dialed. -/
  bound : inputs.filterMap Input.dialed? = (dialsIn effects).map Prod.fst
  /-- The application is told what the session tells, in order. -/
  events : eventsIn effects = core.outputs.filterMap Output.event?
  status : last.status = core.outputs.foldl ChannelStatus.note driver.status
  /-- The driver has returned if its session has ended. -/
  finished : last.isFinished ↔ core.phase = .closed
  /-- Before that no end is told. -/
  running : last.result = none → ∀ reason, .closed reason ∉ eventsIn effects
  /-- The end is the last output, and telling it is the last effect: the reason is the one
  that the driver returns, and the status that was published before shows it. -/
  ending : ∀ reason, last.result = some reason →
    last.status.closed = some reason ∧
      (∃ told, core.outputs = told ++ [.closed reason] ∧ ∀ other, .closed other ∉ told) ∧
      ∃ earlier answers,
        effects = earlier ++ .publish last.status :: List.map .answer answers ++
          [.deliver (.closed reason)] ∧
        ∀ other, .closed other ∉ eventsIn earlier
  /-- Nobody is answered who does not wait. -/
  unawaited : driver.awaited = false → answersIn effects = []
  /-- Who waits is answered with the id, and once, if and only if the session was created. -/
  answered : driver.awaited → ∀ sessionId,
    answersIn effects = [.ok sessionId] ↔ .connected sessionId ∈ core.outputs
  /-- If it was not created, who waits is told so when it has ended. -/
  refused : driver.awaited → (∀ sessionId, .connected sessionId ∉ core.outputs) →
    answersIn effects =
      (last.result.map fun reason => .error (.connectFailed (.ended reason))).toList

private theorem settled_start (start : ChannelStart) :
    Settled (start.driver : ChannelDriver P) := by
  cases start with
  | connecting => exact ⟨rfl, nofun, nofun, nofun⟩
  | accepting => exact ⟨rfl, fun _ => rfl, nofun, nofun⟩

private theorem closed_mem_events {told : List (Output P)} {reason : CloseReason} :
    .closed reason ∈ told.filterMap Output.event? ↔ .closed reason ∈ told := by
  rw [List.mem_filterMap]
  constructor
  · rintro ⟨output, member, event⟩
    cases output <;> cases event
    exact member
  · exact fun member => ⟨_, member, rfl⟩

private theorem eventsIn_ending (earlier : List (ChannelEffect P)) (status : ChannelStatus)
    (answers : List (Except SessionError UInt32)) (reason : CloseReason) :
    eventsIn (earlier ++ .publish status :: answers.map .answer ++ [.deliver (.closed reason)]) =
      eventsIn earlier ++ [.closed reason] := by
  have silent : eventsIn (P := P) (.publish status :: answers.map .answer) = [] :=
    eventsIn_answers answers
  rw [eventsIn_append, eventsIn_append, silent, List.append_nil]
  rfl

namespace Serves

variable {after : ChannelDriver P} {inputs : List (Input P)} {told : List (Output P)}
  {effects : List (ChannelEffect P)} (served : Serves driver inputs told after effects)

include served

theorem outputs : (driver.session.run inputs).outputs = told := by
  rw [served.session, Session.restore, served.drained, List.append_nil]

theorem story (fresh : driver.session.outputs = []) :
    Session.Story driver.session.phase told (driver.session.run inputs).phase := by
  obtain ⟨told', outputs, story, -⟩ := (Session.tells_run driver.session inputs).outputs
  rw [fresh, List.nil_append, served.outputs] at outputs
  exact outputs ▸ story

/-- Once the driver has returned, the end was told, once and last. -/
theorem ends (running : driver.result = none) {reason : CloseReason}
    (ended : after.result = some reason) {earlier : List (Output P)} {last : CloseReason}
    (told_eq : told = earlier ++ [.closed last]) (unended : ∀ other, .closed other ∉ earlier) :
    last = reason ∧ after.status.closed = some reason ∧
      ∃ earlier answers,
        effects = earlier ++ .publish after.status :: List.map .answer answers ++
          [.deliver (.closed reason)] ∧
        ∀ other, .closed other ∉ eventsIn earlier := by
  have result := served.result
  have unreasoned : earlier.findSome? Output.reason? = none := by
    rw [List.findSome?_eq_none_iff]
    intro output member
    cases output with
    | closed other => exact absurd member (unended other)
    | _ => rfl
  rw [running, ended, told_eq, List.findSome?_append, unreasoned] at result
  obtain rfl : reason = last := Option.some.inj result
  obtain ⟨before, answers, shape⟩ := served.ending running reason ended
  refine ⟨rfl, ?_, before, answers, shape, fun other member => ?_⟩
  · rw [served.status, told_eq, List.foldl_append]
    rfl
  · have events := served.events
    rw [shape, eventsIn_ending, told_eq, List.filterMap_append] at events
    rw [List.append_cancel_right events] at member
    exact unended other (closed_mem_events.mp member)

/-- A driver that serves its session keeps its contract. -/
theorem keepsContract (fresh : driver.session.outputs = [])
    (open_ : driver.session.phase ≠ .closed) (running : driver.result = none) :
    Contract driver inputs (driver.session.run inputs) after effects := by
  have outputs := served.outputs
  have story := served.story fresh
  have result : after.result = told.findSome? Output.reason? := by
    rw [served.result, running]
    rfl
  have returned : after.result.isSome ↔ (driver.session.run inputs).phase = .closed := by
    rw [result]
    exact story.ended_iff open_
  refine
    { drained := served.drained
      session := ?_
      dialed := ?_
      bound := ?_
      events := ?_
      status := ?_
      finished := returned
      running := fun unfinished reason member => ?_
      ending := fun reason ended => ?_
      unawaited := fun alone => ?_
      answered := fun awaited sessionId => ?_
      refused := fun awaited unopened => ?_ }
  · rw [outputs]
    exact served.session
  · rw [outputs, served.dialed, linesFor_handshakes]
  · rw [served.bound, served.dialed]
  · rw [outputs]
    exact served.events
  · rw [outputs]
    exact served.status
  · rw [served.events] at member
    rcases story.ending open_ with ⟨-, unended⟩ | ⟨isOver, -⟩
    · exact unended reason (closed_mem_events.mp member)
    · rw [← returned, unfinished] at isOver
      cases isOver
  · rcases story.ending open_ with ⟨goesOn, -⟩ | ⟨-, earlier, last, told_eq, unended⟩
    · exact absurd (returned.mp (by rw [ended]; rfl)) goesOn
    · obtain ⟨rfl, shown, shape⟩ := served.ends running ended told_eq unended
      exact ⟨shown, ⟨earlier, outputs.trans told_eq, unended⟩, shape⟩
  · rw [served.answers, alone]
    rfl
  · rw [served.answers, if_pos awaited, outputs, ← story.answered_iff]
    exact Option.toList_eq_singleton_iff
  · rw [served.answers, if_pos awaited, result]
    rw [outputs] at unopened
    rw [refused_of_unopened unopened]

end Serves

end ChannelDriver

/-- Whatever a new driver picks, it keeps its contract. -/
theorem ChannelStart.run_keepsContract (start : ChannelStart) (picks : List (ChannelPick P)) :
    ChannelDriver.Contract start.driver (start.driver.givesAll picks)
      (start.driver.session.run (start.driver.givesAll picks))
      (start.driver.run picks).1 (start.driver.run picks).2 := by
  obtain ⟨told, served⟩ := ChannelDriver.serves_run (ChannelDriver.settled_start start) picks
  apply served.keepsContract
  · cases start <;> rfl
  · cases start <;> exact nofun
  · cases start <;> rfl

end ResumableSession
