import ResumableSession.Proofs.Session.Shifts

/-!
# How long a session may be without a line

A session that was created counts the time that it has been without a line, and ends
when it has been so for the offline timeout.  Nothing but a new line starts the count
again, and nothing else ends it for this reason.
-/

namespace ResumableSession

namespace Session

variable {P : Type}

/-- For how long a session has been without a line after some inputs, if for `gone`
before them: the time that passed since the line was lost, in nanoseconds. -/
def absenceFrom (gone : Nat) (session : Session P) : List (Input P) → Nat
  | [] => gone
  | input :: inputs =>
      absenceFrom (if session.current.isSome then 0 else gone + input.elapsed)
        (session.step input) inputs

/-- For how long a session has been without a line at the end of a run. -/
def absence (session : Session P) (inputs : List (Input P)) : Nat :=
  absenceFrom 0 session inputs

/-- The time that passes in some inputs, in nanoseconds. -/
def timePassed : List (Input P) → Nat
  | [] => 0
  | input :: inputs => input.elapsed + timePassed inputs

theorem absenceFrom_append (inputs later : List (Input P)) :
    ∀ (gone : Nat) (session : Session P), absenceFrom gone session (inputs ++ later) =
      absenceFrom (absenceFrom gone session inputs) (session.run inputs) later := by
  induction inputs with
  | nil => exact fun _ _ => rfl
  | cons first inputs induction => exact fun gone session => induction _ (session.step first)

theorem absence_concat (session : Session P) (inputs : List (Input P)) (input : Input P) :
    session.absence (inputs ++ [input]) =
      if (session.run inputs).current.isSome then 0
      else session.absence inputs + input.elapsed :=
  absenceFrom_append inputs [input] 0 session

private theorem absenceFrom_unbound (since : List (Input P)) :
    ∀ (gone : Nat) (session : Session P),
      (∀ passed, passed <+: since → (session.run passed).current = none) →
      absenceFrom gone session since = gone + timePassed since := by
  induction since with
  | nil => exact fun _ _ _ => rfl
  | cons input since induction =>
      intro gone session unbound
      have before : session.current = none := unbound [] List.nil_prefix
      rw [absenceFrom, if_neg (by simp [before]), induction]
      · exact Nat.add_assoc _ _ _
      · exact fun passed part => unbound (input :: passed) (List.cons_prefix_cons.mpr ⟨rfl, part⟩)

/-- The last line of a run was lost by this input, and none was bound since. -/
structure Lost (session : Session P) (inputs earlier : List (Input P)) (lost : Input P)
    (since : List (Input P)) : Prop where
  split : inputs = earlier ++ lost :: since
  bound : (session.run earlier).current.isSome
  unbound : ∀ passed, passed <+: since →
    (session.run (earlier ++ lost :: passed)).current = none

/-- The absence is the time that passed since the line was lost. -/
theorem Lost.absence_eq {session : Session P} {inputs earlier since : List (Input P)}
    {lost : Input P} (split : session.Lost inputs earlier lost since) :
    session.absence inputs = timePassed since := by
  rw [split.split, absence, absenceFrom_append, absenceFrom, if_pos split.bound,
    absenceFrom_unbound, Nat.zero_add]
  intro passed part
  have away := split.unbound passed part
  rw [run, List.foldl_append] at away
  exact away

/-- The offline timer after `gone` nanoseconds without a line. -/
def offlineTimer (settings : SessionSettings) (gone : Nat) : Timer :=
  if settings.offlineTimeout.isZero then .stopped else .running (.ofNanos gone)

/-- The offline timer runs only in a session that was created and has no line; it holds
the time since the line was lost, which is less than the timeout. -/
structure Away (gone : Nat) (session : Session P) : Prop where
  bound : session.current.isSome → session.phase = .connected
  resting : session.phase = .connecting ∨ session.current.isSome →
    session.liveness.offline = .stopped
  counting : session.phase = .connected → session.current = none →
    session.liveness.offline = offlineTimer session.liveness.settings gone
  within : session.phase = .connected → session.current = none →
    session.liveness.settings.offlineTimeout.isZero = false →
    gone < session.liveness.settings.offlineTimeout.nanos

namespace Away

variable {gone gone' : Nat} {session shifted after : Session P}

theorem of_same (away : Away gone session) (kept : session.current = none → gone' = gone)
    (phase : shifted.phase = session.phase) (current : shifted.current = session.current)
    (offline : shifted.liveness.offline = session.liveness.offline)
    (settings : shifted.liveness.settings = session.liveness.settings) :
    Away gone' shifted := by
  constructor
  · rw [current, phase]
    exact away.bound
  · rw [current, phase, offline]
    exact away.resting
  · rw [current, phase, offline, settings]
    intro connected unbound
    rw [kept unbound]
    exact away.counting connected unbound
  · rw [current, phase, settings]
    intro connected unbound
    rw [kept unbound]
    exact away.within connected unbound

theorem of_over (ended : Over session) : Away gone session where
  bound := by simp [ended.current]
  resting := by simp [ended.phase, ended.current]
  counting := by simp [ended.phase]
  within := by simp [ended.phase]

theorem rests (away : Away gone session) (rests : Rests session after) : Away gone after := by
  rcases rests.course with abides | ended
  · exact away.of_same (fun _ => rfl) abides.phase abides.current
      (by rw [abides.liveness]) rests.settings
  · exact of_over ended

theorem lineLost (away : Away gone session) (bound : session.current.isSome) :
    Away 0 session.lineLost := by
  have connected := away.bound bound
  have stopped := away.resting (.inr bound)
  constructor
  · simp [Session.lineLost]
  · simp [Session.lineLost, connected]
  · intro _ _
    simp only [Session.lineLost, Liveness.lineLost, offlineTimer, stopped]
    split <;> rfl
  · intro _ _ on
    simp only [Duration.isZero, beq_eq_false_iff_ne] at on
    exact Nat.pos_of_ne_zero on

theorem advance {time : Duration} {liveness : Liveness} (away : Away gone session)
    (offline : liveness.offline = session.liveness.offline.advance time)
    (settings : liveness.settings = session.liveness.settings)
    (lasts : (session.liveness.offline.advance time).reached
      session.liveness.settings.offlineTimeout = false) :
    Away (if session.current.isSome then 0 else gone + time.nanos) { session with liveness } := by
  constructor
  · exact away.bound
  · intro resting
    simp only [offline, away.resting resting]
    rfl
  · intro connected unbound
    have none : session.current = none := unbound
    simp only [offline, settings, away.counting connected unbound, none, offlineTimer]
    split
    · rfl
    · exact Timer.advance_running gone time
  · intro connected unbound on
    have none : session.current = none := unbound
    simp only [settings] at on
    rw [away.counting connected unbound, offlineTimer, on, if_neg Bool.false_ne_true,
      Timer.advance_running, ← Bool.not_eq_true, Timer.reached_running] at lasts
    simp only [settings, none]
    exact Nat.lt_of_not_le lasts

theorem probed {time : Duration} {clock : UInt32} {liveness : Liveness}
    {probes : List LivenessEvent} (away : Away gone session) (running : session.phase ≠ .closed)
    (elapsed : session.liveness.Elapsed time liveness probes) :
    Away (if session.current.isSome then 0 else gone + time.nanos)
      (probes.foldl (onDue clock) { session with liveness }) := by
  have moved := away.advance elapsed.offline elapsed.settings elapsed.lasts
  rcases foldl_probes elapsed running clock with same | pinged | dropped
  · rw [same]
    exact moved
  · rw [pinged, sendPing_eq]
    exact moved.of_same (fun _ => rfl) rfl rfl rfl rfl
  · rw [dropped, dropLine_eq]
    cases current : session.current with
    | none =>
        rw [current] at moved
        exact moved
    | some line =>
        have isBound : session.current.isSome := by simp [current]
        rw [if_pos isBound] at moved
        exact (moved.lineLost isBound).of_same (fun _ => rfl) rfl rfl rfl rfl

theorem passes {time : Duration} {clock : UInt32} (away : Away gone session)
    (running : session.phase ≠ .closed) (passes : Passes session time clock shifted) :
    Away (if session.current.isSome then 0 else gone + time.nanos) shifted := by
  cases passes with
  | expired due => exact of_over (over_terminate _ _)
  | dials lasts paced due =>
      have moved : Away (if session.current.isSome then 0 else gone + time.nanos)
          { session with
            liveness :=
              { session.liveness with
                offline := session.liveness.offline.advance time
                rebind := .started
                cooltime := .stopped } } :=
        away.advance rfl rfl lasts
      rw [startRebind_eq]
      exact moved.of_same (fun _ => rfl) rfl rfl rfl rfl
  | elapsed elapsed lasts => exact away.probed running elapsed
  | ended elapsed due lingered => exact of_over (over_terminate _ _)

theorem shifts {input : Input P} (away : Away gone session)
    (shifts : Shifts session input shifted) :
    Away (if session.current.isSome then 0 else gone + input.elapsed) shifted := by
  have kept (timeless : input.elapsed = 0) (unbound : session.current = none) :
      (if session.current.isSome then 0 else gone + input.elapsed) = gone := by
    rw [unbound, timeless]
    rfl
  cases shifts with
  | still timeless => exact away.of_same (kept (Input.elapsed_eq_zero timeless)) rfl rfl rfl rfl
  | late isOver =>
      constructor
      · exact away.bound
      · exact away.resting
      · simp [isOver]
      · simp [isOver]
  | released timeless =>
      exact away.of_same (kept (Input.elapsed_eq_zero timeless)) rfl rfl rfl rfl
  | forgotten isOver => constructor <;> simp [isOver]
  | dialed running => exact away.of_same (kept rfl) rfl rfl rfl rfl
  | failed shaking connected => exact away.of_same (kept rfl) rfl rfl rfl rfl
  | lost timeless bound running =>
      rw [if_pos bound]
      exact away.lineLost bound
  | measured =>
      have same : session.liveness.aliveConfirmed.offline = session.liveness.offline ∧
          session.liveness.aliveConfirmed.settings = session.liveness.settings := by
        unfold Liveness.aliveConfirmed
        split <;> exact ⟨rfl, rfl⟩
      exact away.of_same (kept rfl) rfl rfl same.1 same.2
  | received bound running next => exact away.of_same (kept rfl) rfl rfl rfl rfl
  | lingers bound running next entered fresh => exact away.of_same (kept rfl) rfl rfl rfl rfl
  | bound sessionId greets marked =>
      constructor
      · exact fun _ => rfl
      · exact fun _ => rfl
      · simp
      · simp
  | forced running => exact of_over (over_terminate _ _)
  | passes running passes => exact away.passes running passes

theorem step (away : Away gone session) (input : Input P) :
    Away (if session.current.isSome then 0 else gone + input.elapsed) (session.step input) := by
  obtain ⟨shifted, shifts, rests⟩ := session.shifts_step input
  exact (away.shifts shifts).rests rests

end Away

theorem Starts.away {session : Session P} (starts : session.Starts) : Away 0 session := by
  cases starts <;> constructor <;> simp [Session.initiator, Session.responder]

theorem Away.runs {gone : Nat} {session : Session P} (away : Away gone session)
    (connected : session.phase = .connected) :
    session.liveness.offline.isRunning = true ↔
      session.current = none ∧ session.liveness.settings.offlineTimeout.isZero = false := by
  cases current : session.current with
  | some line => simp [away.resting (.inr (by simp [current])), Timer.isRunning]
  | none =>
      rw [away.counting connected current, offlineTimer]
      split
      · next off => simp [off, Timer.isRunning]
      · next on => simp [on, Timer.isRunning]

/-- The offline timer comes to its limit when the line has been gone for long enough. -/
theorem Away.due {gone : Nat} {session : Session P} (away : Away gone session)
    (running : session.phase ≠ .closed) (time : Duration) :
    (session.liveness.offline.advance time).reached
        session.liveness.settings.offlineTimeout = true ↔
      session.phase = .connected ∧ session.current = none ∧
        session.liveness.settings.offlineTimeout.isZero = false ∧
        session.liveness.settings.offlineTimeout.nanos ≤ gone + time.nanos := by
  by_cases resting : session.phase = .connecting ∨ session.current.isSome
  · rw [away.resting resting]
    rcases resting with connecting | bound
    · simp [connecting, Timer.advance, Timer.reached]
    · obtain ⟨line, current⟩ := Option.isSome_iff_exists.mp bound
      simp [current, Timer.advance, Timer.reached]
  · obtain ⟨created, unbound⟩ := not_or.mp resting
    have connected : session.phase = .connected := by
      cases phase : session.phase <;> simp_all
    have none : session.current = none := by simpa using unbound
    rw [away.counting connected none, offlineTimer]
    split
    · next off => simp [off, Timer.advance, Timer.reached]
    · next on =>
        rw [Timer.advance_running, Timer.reached_running]
        simp [connected, none, on]

/-- A session ends for want of a line in an update that comes to the timeout, and in no
other step that is not told to end it for that reason. -/
theorem Away.ends {gone : Nat} {session : Session P} (away : Away gone session)
    {input : Input P} (unforced : input ≠ .closeImmediately .offlineTimeout) :
    .closed .offlineTimeout ∈ session.toldBy input ↔
      input.isUpdate = true ∧ session.phase = .connected ∧ session.current = none ∧
        session.liveness.settings.offlineTimeout.isZero = false ∧
        session.liveness.settings.offlineTimeout.nanos ≤ gone + input.elapsed := by
  obtain ⟨shifted, shifts, rests⟩ := session.shifts_step input
  obtain ⟨told, outputs, -, expired⟩ := shifts.told
  obtain ⟨later, toldBy, -, open_⟩ := rests.toldBy_eq outputs
  rw [toldBy, List.mem_append, or_iff_left open_, expired unforced]
  cases input with
  | update time clock =>
      constructor
      · rintro ⟨running, due⟩
        exact ⟨rfl, (away.due running time).mp due⟩
      · rintro ⟨-, due⟩
        have running : session.phase ≠ .closed := by simp [due.1]
        exact ⟨running, (away.due running time).mpr due⟩
  | _ => exact iff_of_false id (by simp [Input.isUpdate])

private theorem connected_before {session : Session P} {input : Input P}
    (connected : (session.step input).phase = .connected)
    (unbound : (session.step input).current = none) : session.phase = .connected := by
  obtain ⟨shifted, shifts, rests⟩ := session.shifts_step input
  rcases rests.course with abides | ended
  · rw [abides.phase] at connected
    rw [abides.current] at unbound
    cases shifts with
    | bound sessionId greets marked => cases unbound
    | forced running => rw [(over_terminate _ _).phase] at connected; cases connected
    | passes running passes =>
        cases passes with
        | expired due => rw [(over_terminate _ _).phase] at connected; cases connected
        | dials lasts paced due => rw [startRebind_eq] at connected; exact connected
        | elapsed elapsed lasts =>
            rw [(spares_probes elapsed running _).phase] at connected
            exact connected
        | ended elapsed due lingered =>
            rw [endGracefully, (over_terminate _ _).phase] at connected
            cases connected
    | _ => exact connected
  · rw [ended.phase] at connected
    cases connected

/-- Whenever a session is without a line, it was so from the beginning or has lost one. -/
theorem lost_or_unbound (inputs : List (Input P)) :
    ∀ session : Session P, (session.run inputs).phase = .connected →
      (session.run inputs).current = none →
      (session.phase = .connected ∧
          ∀ passed, passed <+: inputs → (session.run passed).current = none) ∨
        ∃ earlier lost since, session.Lost inputs earlier lost since := by
  induction inputs with
  | nil =>
      intro session connected unbound
      refine .inl ⟨connected, fun passed part => ?_⟩
      rw [List.prefix_nil.mp part]
      exact unbound
  | cons input inputs induction =>
      intro session connected unbound
      rcases induction (session.step input) connected unbound with
        ⟨created, away⟩ | ⟨earlier, lost, since, split⟩
      · cases current : session.current with
        | none =>
            refine .inl ⟨connected_before created (away [] List.nil_prefix), ?_⟩
            intro passed part
            cases passed with
            | nil => exact current
            | cons first passed =>
                obtain ⟨rfl, shorter⟩ := List.cons_prefix_cons.mp part
                exact away passed shorter
        | some line =>
            exact .inr ⟨[], input, inputs, rfl, by simp [run, current], away⟩
      · refine .inr ⟨input :: earlier, lost, since, ?_, split.bound, split.unbound⟩
        rw [split.split, List.cons_append]

theorem Starts.lost {session : Session P} (starts : session.Starts) (inputs : List (Input P))
    (connected : (session.run inputs).phase = .connected)
    (unbound : (session.run inputs).current = none) :
    ∃ earlier lost since, session.Lost inputs earlier lost since := by
  rcases session.lost_or_unbound inputs connected unbound with ⟨created, _⟩ | lost
  · cases starts <;> cases created
  · exact lost

theorem away_run (inputs : List (Input P)) :
    ∀ {gone : Nat} {session : Session P}, Away gone session →
      Away (absenceFrom gone session inputs) (session.run inputs) := by
  induction inputs with
  | nil => exact id
  | cons input inputs induction => exact fun away => induction (away.step input)

/-- When a session that was created is without a line for too long, and what its timer
holds until then. -/
structure Expires (start : Session P) (inputs : List (Input P)) : Prop where
  runs : (start.run inputs).phase = .connected →
    ((start.run inputs).liveness.offline.isRunning = true ↔
      (start.run inputs).current = none ∧
        start.liveness.settings.offlineTimeout.isZero = false)
  value : (start.run inputs).phase = .connected → (start.run inputs).current = none →
    start.liveness.settings.offlineTimeout.isZero = false →
    (start.run inputs).liveness.offline = .running (.ofNanos (start.absence inputs)) ∧
      start.absence inputs < start.liveness.settings.offlineTimeout.nanos
  since : (start.run inputs).phase = .connected → (start.run inputs).current = none →
    ∃ earlier lost since, start.Lost inputs earlier lost since ∧
      start.absence inputs = timePassed since
  ends : ∀ input, input ≠ .closeImmediately .offlineTimeout →
    (.closed .offlineTimeout ∈ (start.run inputs).toldBy input ↔
      input.isUpdate = true ∧ (start.run inputs).phase = .connected ∧
        (start.run inputs).current = none ∧
        start.liveness.settings.offlineTimeout.isZero = false ∧
        start.liveness.settings.offlineTimeout.nanos ≤ start.absence (inputs ++ [input]))

/-- Whatever happens to a session, its offline timer holds the time since the line was
lost, and it ends for want of a line in the first update that brings this time to the
offline timeout. -/
theorem run_expires {start : Session P} (starts : start.Starts) (inputs : List (Input P)) :
    start.Expires inputs := by
  have away : Away (start.absence inputs) (start.run inputs) := away_run inputs starts.away
  have settings := start.settings_run inputs
  constructor
  · rw [← settings]
    exact away.runs
  · rw [← settings]
    intro connected unbound on
    refine ⟨?_, away.within connected unbound on⟩
    rw [away.counting connected unbound, offlineTimer, on, if_neg Bool.false_ne_true]
  · intro connected unbound
    obtain ⟨earlier, lost, since, split⟩ := starts.lost inputs connected unbound
    exact ⟨earlier, lost, since, split, split.absence_eq⟩
  · intro input unforced
    rw [away.ends unforced, ← settings]
    refine and_congr_right fun _ => and_congr_right fun _ => and_congr_right fun unbound => ?_
    rw [absence_concat, if_neg (by simp [unbound])]

/-- The beginning of a session that loses its line twice, for less than the timeout. -/
def deserted : List (Input Nat) :=
  [.attachCreated ⟨⟨0⟩, 0⟩, .lineClosed ⟨0⟩, .update (.ofSeconds 15) 0,
    .attachRebind ⟨⟨1⟩, 1⟩ 0, .update (.ofSeconds 1) 0, .lineClosed ⟨1⟩,
    .update (.ofSeconds 12) 0]

theorem deserted_expires :
    (responder 7 {} : Session Nat).Starts ∧
      .closed .offlineTimeout ∈
        ((responder 7 {}).run deserted).toldBy (.update (.ofSeconds 8) 0) :=
  have expires := run_expires (.responder 7 {}) deserted
  ⟨.responder 7 {},
    (expires.ends (.update (.ofSeconds 8) 0) (by simp)).mpr (by decide +kernel)⟩

/-- Whoever owns a session may end it for want of a line at any time, also before it
was created. -/
theorem forced_offlineTimeout :
    (responder 7 {} : Session Nat).phase = .connecting ∧
      .closed .offlineTimeout ∈
        (responder 7 {} : Session Nat).toldBy (.closeImmediately .offlineTimeout) := by
  decide +kernel

end Session

end ResumableSession
