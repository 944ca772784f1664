import ResumableSession.Channel.Driver
import ResumableSession.Proofs.Session.Restore
import ResumableSession.Proofs.Session.OutputOrder

/-!
# Acting on outputs

What a driver does about outputs of its session is read off the outputs: which events
and which answer they come to, which lines are dialed, what they are to the status and
whether they end it.  Acting on some outputs and then on more is acting on all of them;
after the end there is nothing to act on.
-/

namespace ResumableSession

variable {P : Type}

namespace Output

/-- What the application is told of an output. -/
def event? : Output P → Option (ChannelEvent P)
  | .delivered payload => some (.received payload)
  | .closeStateChanged state => some (.closeStateChanged state)
  | .closed reason => some (.closed reason)
  | .connected _ | .rttUpdated _ | .openRebindLine .. => none

/-- What an output is to the one who waits for the session. -/
def answer? : Output P → Option (Except SessionError UInt32)
  | .connected sessionId => some (.ok sessionId)
  | .closed reason => some (.error (.connectFailed (.ended reason)))
  | _ => none

/-- The reason, if the output is the end. -/
def reason? : Output P → Option CloseReason
  | .closed reason => some reason
  | _ => none

private theorem answer?_plain {output : Output P} (plain : output.isPlain) :
    output.answer? = none := by
  cases output <;> first | rfl | cases plain

private theorem reason?_plain {output : Output P} (plain : output.isPlain) :
    output.reason? = none := by
  cases output <;> first | rfl | cases plain

end Output

namespace Session.Story

variable {told : List (Output P)} {first last : Phase}

theorem ended_iff (story : Story first told last) (running : first ≠ .closed) :
    (told.findSome? Output.reason?).isSome ↔ last = .closed := by
  induction story with
  | silent => exact ⟨nofun, fun isOver => absurd isOver running⟩
  | plain plain _ _ induction =>
      rw [List.findSome?_cons, Output.reason?_plain plain]
      exact induction running
  | opens _ induction => exact induction nofun
  | ends => exact ⟨fun _ => rfl, fun _ => rfl⟩

/-- The answer is the id of the session, if it was told. -/
theorem answered_iff (story : Story first told last) (sessionId : UInt32) :
    told.findSome? Output.answer? = some (.ok sessionId) ↔ .connected sessionId ∈ told := by
  induction story with
  | silent => exact ⟨nofun, nofun⟩
  | @plain output told first last plain _ _ induction =>
      have other : .connected sessionId ≠ output := by
        rintro rfl
        cases plain
      rw [List.findSome?_cons, Output.answer?_plain plain, List.mem_cons]
      exact induction.trans ⟨.inr, fun member => member.resolve_left other⟩
  | @opens created told last later _ =>
      have once := later.unopened nofun sessionId
      rw [List.findSome?_cons, List.mem_cons]
      constructor
      · rintro ⟨⟩
        exact .inl rfl
      · rintro (⟨⟨⟩⟩ | again)
        · rfl
        · exact absurd again once
  | ends => exact ⟨nofun, fun member => by cases List.mem_singleton.mp member⟩

end Session.Story

theorem refused_of_unopened {told : List (Output P)}
    (unopened : ∀ sessionId, .connected sessionId ∉ told) :
    told.findSome? Output.answer? =
      (told.findSome? Output.reason?).map fun reason => .error (.connectFailed (.ended reason)) := by
  induction told with
  | nil => rfl
  | cons output told induction =>
      have later : ∀ sessionId, .connected sessionId ∉ told :=
        fun sessionId member => unopened sessionId (List.mem_cons_of_mem _ member)
      rw [List.findSome?_cons, List.findSome?_cons]
      cases output with
      | connected sessionId => exact absurd List.mem_cons_self (unopened sessionId)
      | closed reason => rfl
      | _ => exact induction later

/-- The status once an output is known. -/
def ChannelStatus.note (status : ChannelStatus) : Output P → ChannelStatus
  | .connected sessionId => { status with sessionId, connected := true }
  | .closeStateChanged closeState => { status with closeState }
  | .rttUpdated estimate => { status with estimate := some estimate }
  | .closed reason => { status with closed := some reason }
  | .delivered _ | .openRebindLine .. => status

/-- The lines that are dialed with handshakes, numbered from `first` on. -/
def linesFor (first : Nat) (handshakes : List Handshake) : List (Line × Handshake) :=
  (handshakes.zipIdx first).map fun (handshake, number) =>
    (⟨⟨number⟩, handshake.lineIndex⟩, handshake)

theorem linesFor_append (first : Nat) (earlier later : List Handshake) :
    linesFor first (earlier ++ later) =
      linesFor first earlier ++ linesFor (first + earlier.length) later := by
  rw [linesFor, List.zipIdx_append, List.map_append]
  rfl

theorem linesFor_handshakes (first : Nat) (handshakes : List Handshake) :
    (linesFor first handshakes).map Prod.snd = handshakes := by
  rw [linesFor, List.map_map]
  exact List.zipIdx_map_fst first handshakes

/-- The events that an application is told, oldest first. -/
def eventsIn (effects : List (ChannelEffect P)) : List (ChannelEvent P) :=
  effects.filterMap fun
    | .deliver event => some event
    | _ => none

/-- The answers to the one who asked for the session, oldest first. -/
def answersIn (effects : List (ChannelEffect P)) : List (Except SessionError UInt32) :=
  effects.filterMap fun
    | .answer outcome => some outcome
    | _ => none

/-- The lines that were dialed, with their handshakes, oldest first. -/
def dialsIn (effects : List (ChannelEffect P)) : List (Line × Handshake) :=
  effects.filterMap fun
    | .dial line handshake => some (line, handshake)
    | _ => none

section

variable (earlier later : List (ChannelEffect P))

theorem eventsIn_append : eventsIn (earlier ++ later) = eventsIn earlier ++ eventsIn later :=
  List.filterMap_append

theorem answersIn_append :
    answersIn (earlier ++ later) = answersIn earlier ++ answersIn later :=
  List.filterMap_append

theorem dialsIn_append : dialsIn (earlier ++ later) = dialsIn earlier ++ dialsIn later :=
  List.filterMap_append

variable (answers : List (Except SessionError UInt32))

theorem eventsIn_answers : eventsIn (P := P) (answers.map .answer) = [] := by
  rw [eventsIn, List.filterMap_map]
  exact List.filterMap_eq_nil_iff.mpr fun _ _ => rfl

private theorem dialsIn_answers : dialsIn (P := P) (answers.map .answer) = [] := by
  rw [dialsIn, List.filterMap_map]
  exact List.filterMap_eq_nil_iff.mpr fun _ _ => rfl

private theorem answersIn_answers : answersIn (P := P) (answers.map .answer) = answers := by
  rw [answersIn, List.filterMap_map]
  exact List.filterMap_some

end

namespace ChannelDriver

/-- What acting on outputs comes to. -/
structure Acts (driver : ChannelDriver P) (told : List (Output P)) (after : ChannelDriver P)
    (effects : List (ChannelEffect P)) : Prop where
  dials : after.dials = driver.dials
  nextLine : after.nextLine = driver.nextLine + (dialedIn told).length
  status : after.status = told.foldl ChannelStatus.note driver.status
  awaited : after.awaited = (driver.awaited && (told.findSome? Output.answer?).isNone)
  result : after.result = driver.result.or (told.findSome? Output.reason?)
  dialed : dialsIn effects = linesFor driver.nextLine (dialedIn told)
  events : eventsIn effects = told.filterMap Output.event?
  answers : answersIn effects =
    if driver.awaited then (told.findSome? Output.answer?).toList else []
  /-- The end is told last, when the status shows it already. -/
  ending : driver.result = none → ∀ reason, after.result = some reason →
    ∃ (earlier : List (ChannelEffect P)) (answers : List (Except SessionError UInt32)),
      effects =
        earlier ++ .publish after.status :: answers.map .answer ++ [.deliver (.closed reason)]
  quiet : driver.result.isSome → told = [] ∧ effects = []

namespace Acts

variable {driver middle after : ChannelDriver P} {told told' : List (Output P)}
  {effects effects' : List (ChannelEffect P)}

theorem still (dials : after.dials = driver.dials) (nextLine : after.nextLine = driver.nextLine)
    (status : after.status = driver.status) (awaited : after.awaited = driver.awaited)
    (result : after.result = driver.result) : Acts driver [] after [] where
  dials := dials
  nextLine := nextLine
  status := status
  awaited := by rw [awaited, List.findSome?_nil, Option.isNone_none, Bool.and_true]
  result := by rw [result, List.findSome?_nil, Option.or_none]
  dialed := rfl
  events := rfl
  answers := by rw [List.findSome?_nil, Option.toList_none, ite_self]; rfl
  ending := by
    intro running reason ended
    rw [result, running] at ended
    cases ended
  quiet _ := ⟨rfl, rfl⟩

theorem trans (earlier : Acts driver told middle effects)
    (later : Acts middle told' after effects') :
    Acts driver (told ++ told') after (effects ++ effects') where
  dials := later.dials.trans earlier.dials
  nextLine := by
    rw [later.nextLine, earlier.nextLine, dialedIn_append, List.length_append, Nat.add_assoc]
  status := by rw [later.status, earlier.status, List.foldl_append]
  awaited := by
    rw [later.awaited, earlier.awaited, List.findSome?_append, Option.isNone_or, Bool.and_assoc]
  result := by rw [later.result, earlier.result, List.findSome?_append, Option.or_assoc]
  dialed := by
    rw [dialsIn_append, dialedIn_append, linesFor_append, earlier.dialed, later.dialed,
      earlier.nextLine]
  events := by rw [eventsIn_append, List.filterMap_append, earlier.events, later.events]
  answers := by
    rw [answersIn_append, earlier.answers, later.answers, earlier.awaited, List.findSome?_append]
    cases driver.awaited with
    | false => rfl
    | true =>
        cases told.findSome? Output.answer? with
        | none => rfl
        | some answer => rfl
  ending := by
    intro running reason ended
    cases open_ : middle.result with
    | none =>
        obtain ⟨before, answers, shape⟩ := later.ending open_ reason ended
        refine ⟨effects ++ before, answers, ?_⟩
        rw [shape]
        simp only [List.append_assoc, List.cons_append]
    | some first =>
        obtain ⟨rfl, rfl⟩ := later.quiet (by rw [open_]; rfl)
        have unchanged : after.result = middle.result := by
          rw [later.result, List.findSome?_nil, Option.or_none]
        obtain ⟨before, answers, shape⟩ :=
          earlier.ending running reason (unchanged.symm.trans ended)
        refine ⟨before, answers, ?_⟩
        rw [List.append_nil, shape, show after.status = middle.status from later.status]
  quiet finished := by
    obtain ⟨rfl, rfl⟩ := earlier.quiet finished
    apply later.quiet
    rw [earlier.result, List.findSome?_nil, Option.or_none]
    exact finished

end Acts

variable {driver : ChannelDriver P}

private theorem answer_eq (driver : ChannelDriver P) (outcome : Except SessionError UInt32) :
    driver.answer outcome =
      ({ driver with awaited := false },
        (if driver.awaited then [outcome] else []).map .answer) := by
  obtain ⟨session, dials, nextLine, status, awaited⟩ := driver
  cases awaited <;> rfl

private theorem acts_plain {after : ChannelDriver P} {effects : List (ChannelEffect P)}
    (running : driver.result = none) {output : Output P} (plain : output.isPlain)
    (kept : after.dials = driver.dials ∧ after.awaited = driver.awaited ∧
      after.result = driver.result)
    (nextLine : after.nextLine = driver.nextLine + (dialedIn [output]).length)
    (status : after.status = driver.status.note output)
    (dialed : dialsIn effects = linesFor driver.nextLine (dialedIn [output]))
    (events : eventsIn effects = output.event?.toList) (unanswered : answersIn effects = []) :
    Acts driver [output] after effects := by
  have unasked : [output].findSome? Output.answer? = none := by
    rw [List.findSome?_singleton, Output.answer?_plain plain]
  have unended : [output].findSome? Output.reason? = none := by
    rw [List.findSome?_singleton, Output.reason?_plain plain]
  obtain ⟨dials, awaited, result⟩ := kept
  exact
    { dials, nextLine, status, dialed
      awaited := by rw [awaited, unasked, Option.isNone_none, Bool.and_true]
      result := by rw [result, unended, Option.or_none]
      events := by rw [events]; cases output <;> rfl
      answers := by rw [unanswered, unasked, Option.toList_none, ite_self]
      ending := by
        intro _ reason ended
        rw [result, running] at ended
        cases ended
      quiet := by
        rw [running]
        exact nofun }

/-- Acting on one output.  Who cannot dial is asked for no line. -/
theorem acts_handle (running : driver.result = none) {output : Output P}
    (dialable : driver.dials = false → dialedIn [output] = []) :
    Acts driver [output] (driver.handle output).1 (driver.handle output).2 := by
  have endless (reason : CloseReason) : driver.result ≠ some reason := by
    rw [running]
    exact nofun
  have loud (absurd : driver.result.isSome) : [output] = [] ∧ (driver.handle output).2 = [] := by
    rw [running] at absurd
    cases absurd
  cases output with
  | connected sessionId =>
      simp only [handle, publish, answer_eq] at loud ⊢
      exact
        { dials := rfl
          nextLine := rfl
          status := rfl
          awaited := (Bool.and_false _).symm
          result := (Option.or_none).symm
          dialed := dialsIn_answers _
          events := eventsIn_answers _
          answers := answersIn_answers _
          ending := fun _ reason ended => absurd ended (endless reason)
          quiet := loud }
  | delivered payload => exact acts_plain running rfl ⟨rfl, rfl, rfl⟩ rfl rfl rfl rfl rfl
  | closeStateChanged state => exact acts_plain running rfl ⟨rfl, rfl, rfl⟩ rfl rfl rfl rfl rfl
  | rttUpdated estimate => exact acts_plain running rfl ⟨rfl, rfl, rfl⟩ rfl rfl rfl rfl rfl
  | openRebindLine sessionId lineIndex clientAck =>
      have dials : driver.dials = true := by
        rcases Bool.eq_false_or_eq_true driver.dials with dials | undialed
        · exact dials
        · cases dialable undialed
      simp only [handle, if_pos dials]
      exact acts_plain running rfl ⟨rfl, rfl, rfl⟩ rfl rfl rfl rfl rfl
  | closed reason =>
      simp only [handle, publish, answer_eq] at loud ⊢
      exact
        { dials := rfl
          nextLine := rfl
          status := rfl
          awaited := (Bool.and_false _).symm
          result := by
            rw [running]
            rfl
          dialed := by
            rw [dialsIn_append, List.cons_append, List.nil_append]
            exact (List.append_nil _).trans (dialsIn_answers _)
          events := by
            rw [eventsIn_append]
            exact congrArg (· ++ _) (eventsIn_answers _)
          answers := by
            rw [answersIn_append]
            exact (List.append_nil _).trans (answersIn_answers _)
          ending := by
            rintro - first ended
            obtain rfl : reason = first := Option.some.inj ended
            exact ⟨[], _, rfl⟩
          quiet := loud }

/-! ## All outputs of a step -/

/-- What lines that were dialed are to the session. -/
def bindings (lines : List (Line × Handshake)) : List (Input P) :=
  lines.map fun (line, _) => .bindPending line

theorem bindings_append (earlier later : List (Line × Handshake)) :
    bindings (P := P) (earlier ++ later) = bindings earlier ++ bindings later :=
  List.map_append

/-- What draining outputs comes to: the session is handed each line that it asked for. -/
structure Drains (driver : ChannelDriver P) (told : List (Output P)) (after : ChannelDriver P)
    (effects : List (ChannelEffect P)) : Prop extends Acts driver told after effects where
  session : after.session =
    driver.session.run (bindings (linesFor driver.nextLine (dialedIn told)))

private theorem drains_handle (running : driver.result = none) {output : Output P}
    (dialable : driver.dials = false → dialedIn [output] = []) :
    Drains driver [output] (driver.handle output).1 (driver.handle output).2 := by
  refine ⟨acts_handle running dialable, ?_⟩
  cases output with
  | connected | closed =>
      simp only [handle, publish, answer_eq]
      rfl
  | delivered | closeStateChanged | rttUpdated => rfl
  | openRebindLine =>
      cases dials : driver.dials with
      | false => cases dialable dials
      | true =>
          simp only [handle, if_pos dials]
          rfl

theorem Drains.trans {middle after : ChannelDriver P} {told told' : List (Output P)}
    {effects effects' : List (ChannelEffect P)} (earlier : Drains driver told middle effects)
    (later : Drains middle told' after effects') :
    Drains driver (told ++ told') after (effects ++ effects') := by
  refine ⟨earlier.toActs.trans later.toActs, ?_⟩
  have bound := bindings_append (P := P) (linesFor driver.nextLine (dialedIn told))
    (linesFor middle.nextLine (dialedIn told'))
  rw [later.session, earlier.session, ← Session.run_append, ← bound, earlier.nextLine,
    dialedIn_append, linesFor_append]

theorem drains_cons {output : Output P} {told : List (Output P)} (running : driver.result = none)
    (unended : output.reason? = none)
    (dialable : driver.dials = false → dialedIn (output :: told) = [])
    (later : ∀ driver : ChannelDriver P, driver.result = none →
      (driver.dials = false → dialedIn told = []) →
      Drains driver told (driver.handleAll told).1 (driver.handleAll told).2) :
    Drains driver (output :: told) (driver.handleAll (output :: told)).1
      (driver.handleAll (output :: told)).2 := by
  have undialed (unable : driver.dials = false) : dialedIn [output] = [] ∧ dialedIn told = [] := by
    apply List.append_eq_nil_iff.mp
    rw [← dialedIn_append]
    exact dialable unable
  have handled := drains_handle running fun unable => (undialed unable).1
  have goesOn : (driver.handle output).1.result = none := by
    rw [handled.result, running, List.findSome?_singleton, unended]
    rfl
  have rest := later (driver.handle output).1 goesOn fun unable =>
    (undialed (handled.dials.symm.trans unable)).2
  have unfinished : (driver.handle output).1.isFinished = false := by
    rw [isFinished, goesOn]
    rfl
  simp only [handleAll, unfinished, Bool.false_eq_true, if_false]
  exact handled.trans rest

/-- The end comes last, so no output is left out. -/
theorem drains_handleAll {told : List (Output P)} {first last : Phase}
    (story : Session.Story first told last) (running : driver.result = none)
    (dialable : driver.dials = false → dialedIn told = []) :
    Drains driver told (driver.handleAll told).1 (driver.handleAll told).2 := by
  induction story generalizing driver with
  | silent => exact ⟨.still rfl rfl rfl rfl rfl, rfl⟩
  | plain plain _ _ induction =>
      exact drains_cons running (Output.reason?_plain plain) dialable fun _ => induction
  | opens _ induction => exact drains_cons running rfl dialable fun _ => induction
  | @ends reason =>
      have handled := drains_handle running dialable
      have finished : (driver.handle (.closed reason)).1.isFinished := by
        rw [isFinished, handled.result, running]
        rfl
      simp only [handleAll, if_pos finished]
      exact handled

private theorem bindPending_keeps (session : Session P) (line : Line) :
    (session.bindPending line).phase = session.phase ∧
      (session.bindPending line).outputs = session.outputs := by
  unfold Session.bindPending
  split <;> rw [Session.discard_eq] <;> exact ⟨rfl, rfl⟩

private theorem bindings_keep (session : Session P) (lines : List (Line × Handshake)) :
    (session.run (bindings lines)).phase = session.phase ∧
      (session.run (bindings lines)).outputs = session.outputs := by
  induction lines generalizing session with
  | nil => exact ⟨rfl, rfl⟩
  | cons dialed lines induction =>
      obtain ⟨phase, outputs⟩ := bindPending_keeps session dialed.1
      obtain ⟨phase', outputs'⟩ := induction (session.bindPending dialed.1)
      exact ⟨phase'.trans phase, outputs'.trans outputs⟩

/-- Draining takes the outputs away, acts on all of them and hands the session each line
that it asked for. -/
theorem drain_spec {told : List (Output P)} {first : Phase} (outputs : driver.session.outputs = told)
    (story : Session.Story first told driver.session.phase) (running : driver.result = none)
    (dialable : driver.dials = false → dialedIn told = []) :
    Acts driver told driver.drain.1 driver.drain.2 ∧
      driver.session.run (bindings (linesFor driver.nextLine (dialedIn told))) =
        driver.drain.1.session.restore told ∧
      driver.drain.1.session.outputs = [] ∧
      driver.drain.1.session.phase = driver.session.phase := by
  subst outputs
  have drains : Drains { driver with session := { driver.session with outputs := [] } } _
      driver.drain.1 driver.drain.2 :=
    drains_handleAll story running dialable
  have taken : Acts driver [] { driver with session := { driver.session with outputs := [] } } [] :=
    .still rfl rfl rfl rfl rfl
  have put : driver.session =
      Session.restore driver.session.outputs { driver.session with outputs := [] } := by
    rw [Session.restore, List.append_nil]
  obtain ⟨phase, outputs⟩ := bindings_keep { driver.session with outputs := [] }
    (linesFor driver.nextLine (dialedIn driver.session.outputs))
  refine ⟨taken.trans drains.toActs, ?_, ?_, ?_⟩
  · rw [drains.session, ← Session.run_restore, ← put]
  · rw [drains.session, outputs]
  · rw [drains.session, phase]

end ChannelDriver

end ResumableSession
