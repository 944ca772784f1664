import ResumableSession.Proofs.Session.Shifts
import ResumableSession.Proofs.Session.OutputOrder
import ResumableSession.Proofs.Session.Tenure

/-!
# How long a closing session lingers

A session lingers in `timeWait` until the updates that ask for no line add up to the
time-wait timeout.  An update that asks for a line ends there: its time does not count
towards lingering, and a session that asks for a line in every update lingers on.
-/

namespace ResumableSession

namespace Session

variable {P : Type}

/-- The time that an input adds to lingering: none if a line is asked for. -/
def lingeringBy (session : Session P) (input : Input P) : Nat :=
  if (dialedIn (session.toldBy input)).isEmpty then input.elapsed else 0

/-- For how long a session has lingered after some inputs, if for `spent` before them,
in nanoseconds. -/
def lingeringFrom (spent : Nat) (session : Session P) : List (Input P) → Nat
  | [] => spent
  | input :: inputs =>
      lingeringFrom
        (if session.closing.state = .timeWait then spent + session.lingeringBy input else 0)
        (session.step input) inputs

/-- For how long a session has lingered at the end of a run. -/
def lingering (session : Session P) (inputs : List (Input P)) : Nat :=
  lingeringFrom 0 session inputs

/-- The time that some inputs add to lingering. -/
def lingeringOver (session : Session P) : List (Input P) → Nat
  | [] => 0
  | input :: inputs => session.lingeringBy input + (session.step input).lingeringOver inputs

/-- A session came to `timeWait` by this input and has been there since. -/
structure Entered (session : Session P) (inputs earlier : List (Input P)) (entering : Input P)
    (since : List (Input P)) : Prop where
  split : inputs = earlier ++ entering :: since
  elsewhere : (session.run earlier).closing.state ≠ .timeWait
  stays : ∀ passed, passed <+: since →
    (session.run (earlier ++ entering :: passed)).closing.state = .timeWait

theorem lingeringFrom_append (inputs later : List (Input P)) :
    ∀ (spent : Nat) (session : Session P), lingeringFrom spent session (inputs ++ later) =
      lingeringFrom (lingeringFrom spent session inputs) (session.run inputs) later := by
  induction inputs with
  | nil => exact fun _ _ => rfl
  | cons first inputs induction => exact fun spent session => induction _ (session.step first)

private theorem lingeringFrom_stays (since : List (Input P)) :
    ∀ (spent : Nat) (session : Session P),
      (∀ passed, passed <+: since → (session.run passed).closing.state = .timeWait) →
      lingeringFrom spent session since = spent + session.lingeringOver since := by
  induction since with
  | nil => exact fun _ _ _ => rfl
  | cons input since induction =>
      intro spent session stays
      have before : session.closing.state = .timeWait := stays [] List.nil_prefix
      rw [lingeringFrom, if_pos before, induction]
      · exact Nat.add_assoc _ _ _
      · exact fun passed part => stays (input :: passed) (List.cons_prefix_cons.mpr ⟨rfl, part⟩)

/-- Lingering is the time since `timeWait` was entered, but for updates that ask for a line. -/
theorem Entered.lingering_eq {session : Session P} {inputs earlier since : List (Input P)}
    {entering : Input P} (entered : session.Entered inputs earlier entering since) :
    session.lingering inputs =
      (session.run (earlier ++ [entering])).lingeringOver since := by
  rw [entered.split, lingering, lingeringFrom_append, lingeringFrom, if_neg entered.elsewhere,
    lingeringFrom_stays, Nat.zero_add, run_concat]
  intro passed part
  have stays := entered.stays passed part
  rw [run, List.foldl_append] at stays
  exact stays

/-- A run that ends in `timeWait` has come there, unless it began there. -/
theorem entered_or_stayed (inputs : List (Input P)) :
    ∀ session : Session P, (session.run inputs).closing.state = .timeWait →
      (∀ passed, passed <+: inputs → (session.run passed).closing.state = .timeWait) ∨
        ∃ earlier entering since, session.Entered inputs earlier entering since := by
  induction inputs with
  | nil =>
      intro session waiting
      refine .inl fun passed part => ?_
      rw [List.prefix_nil.mp part]
      exact waiting
  | cons input inputs induction =>
      intro session waiting
      rcases induction (session.step input) waiting with
        stayed | ⟨earlier, entering, since, entered⟩
      · by_cases before : session.closing.state = .timeWait
        · refine .inl fun passed part => ?_
          cases passed with
          | nil => exact before
          | cons first passed =>
              obtain ⟨rfl, shorter⟩ := List.cons_prefix_cons.mp part
              exact stayed passed shorter
        · exact .inr ⟨[], input, inputs, rfl, before, stayed⟩
      · refine .inr ⟨input :: earlier, entering, since, ?_, entered.elsewhere, entered.stays⟩
        rw [entered.split, List.cons_append]

/-- Until a session ends, its time-wait timer runs in `timeWait` only, and holds the time
of lingering. -/
def Waits (spent : Nat) (session : Session P) : Prop :=
  session.phase ≠ .closed → session.liveness.timeWait =
    if session.closing.state = .timeWait then .running (.ofNanos spent) else .stopped

namespace Waits

variable {spent : Nat} {session shifted after : Session P}

theorem of_over (ended : Over session) : Waits spent session :=
  fun running => absurd ended.phase running

theorem rests (waits : Waits spent session) (rests : Rests session after) :
    Waits spent after := by
  rcases rests.course with abides | ended
  · intro running
    rw [abides.liveness, waits (abides.phase ▸ running)]
    simp only [abides.timeWait]
  · exact of_over ended

theorem of_same (waits : Waits spent session) {counted : Nat} (idle : counted = 0)
    (running : shifted.phase ≠ .closed → session.phase ≠ .closed)
    (timeWait : shifted.liveness.timeWait = session.liveness.timeWait)
    (state : shifted.closing.state = session.closing.state) :
    Waits (if session.closing.state = .timeWait then spent + counted else 0) shifted := by
  intro open_
  rw [timeWait, state, waits (running open_), idle]
  by_cases waiting : session.closing.state = .timeWait <;> simp [waiting]

/-- A lingering session that time did not end, counts it unless a line is asked for. -/
theorem passes {time : Duration} {clock : UInt32} {told : List (Output P)}
    (waits : Waits spent session) (running : session.phase ≠ .closed)
    (passes : Passes session time clock shifted)
    (outputs : shifted.outputs = session.outputs ++ told) :
    Waits
      (if session.closing.state = .timeWait then
        spent + if (dialedIn told).isEmpty then time.nanos else 0
      else 0)
      shifted := by
  cases passes with
  | expired due => exact of_over (over_terminate _ _)
  | dials lasts paced due =>
      rw [startRebind_eq] at outputs ⊢
      rw [List.append_cancel_left outputs.symm]
      exact waits.of_same rfl id rfl rfl
  | @elapsed liveness probes elapsed lasts =>
      have spares := spares_probes elapsed running clock
      have silent : told = [] := by
        rw [spares.outputs] at outputs
        exact (List.append_right_eq_self.mp outputs.symm)
      intro _
      rw [spares.closing, spares.timeWait, silent]
      simp only [elapsed.timeWait, waits running]
      by_cases waiting : session.closing.state = .timeWait
      · have undue : ¬(session.liveness.timeWait.advance time).reached
            session.liveness.settings.timeWaitTimeout = true := fun due => lasts due waiting
        rw [waits running, if_pos waiting] at undue
        simp only [waiting, if_true]
        rw [if_neg undue, Timer.advance_running]
        rfl
      · simp [waiting, Timer.advance, Timer.reached]
  | ended elapsed due lingered => exact of_over (over_terminate _ _)

theorem step (waits : Waits spent session) (input : Input P) :
    Waits
      (if session.closing.state = .timeWait then spent + session.lingeringBy input else 0)
      (session.step input) := by
  obtain ⟨shifted, shifts, rests⟩ := session.shifts_step input
  have idle (timeless : input.isUpdate = false) : session.lingeringBy input = 0 := by
    rw [lingeringBy, Input.elapsed_eq_zero timeless, ite_self]
  refine Waits.rests ?_ rests
  cases shifts with
  | still timeless => exact waits.of_same (idle timeless) id rfl rfl
  | late isOver => exact fun running => absurd isOver running
  | released timeless => exact waits.of_same (idle timeless) id rfl rfl
  | forgotten isOver => exact fun running => absurd isOver running
  | dialed running => exact waits.of_same (idle rfl) id rfl rfl
  | failed shaking connected => exact waits.of_same (idle rfl) id rfl rfl
  | lost timeless bound running => exact waits.of_same (idle timeless) id rfl rfl
  | measured =>
      refine waits.of_same (idle rfl) id ?_ rfl
      simp only [Liveness.aliveConfirmed]
      split <;> rfl
  | received bound running next => exact waits.of_same (idle rfl) id rfl rfl
  | lingers bound running next entered fresh =>
      intro _
      rw [if_neg fresh, if_pos entered]
      simp only [Liveness.timeWaitEntered, waits running, if_neg fresh]
      rfl
  | bound sessionId greets marked =>
      exact waits.of_same (idle (by cases greets <;> rfl)) (fun _ => greets.running) rfl rfl
  | forced running => exact of_over (over_terminate _ _)
  | @passes time clock shifted running passes =>
      obtain ⟨told, outputs, -⟩ := passes.told running
      obtain ⟨later, toldBy, undialed, -⟩ := rests.toldBy_eq outputs
      have counted : session.lingeringBy (.update time clock) =
          if (dialedIn told).isEmpty then time.nanos else 0 := by
        rw [lingeringBy, toldBy, dialedIn_append, undialed, List.append_nil]
        rfl
      rw [counted]
      exact waits.passes running passes outputs

end Waits

private theorem waits_run (inputs : List (Input P)) :
    ∀ {spent : Nat} {session : Session P}, Waits spent session →
      Waits (lingeringFrom spent session inputs) (session.run inputs) := by
  induction inputs with
  | nil => exact id
  | cons input inputs induction => exact fun waits => induction (waits.step input)

theorem Starts.waits {session : Session P} (starts : session.Starts) : Waits 0 session := by
  cases starts <;> exact fun _ => rfl

/-- A lingering session ends in the updates that come to the offline timeout, and in
those that ask for no line and come to the time-wait timeout. -/
theorem Waits.ends {spent : Nat} {session : Session P} (waits : Waits spent session)
    (running : session.phase ≠ .closed) (waiting : session.closing.state = .timeWait)
    (time : Duration) (clock : UInt32) :
    ((session.step (.update time clock)).phase = .closed ↔
        (session.liveness.offline.advance time).reached
            session.liveness.settings.offlineTimeout = true ∨
          dialedIn (session.toldBy (.update time clock)) = [] ∧
            session.liveness.settings.timeWaitTimeout.nanos ≤ spent + time.nanos) ∧
      ((session.step (.update time clock)).phase = .closed →
        session.toldBy (.update time clock) = [.closed .offlineTimeout] ∨
          session.toldBy (.update time clock) =
            [.closeStateChanged .closed, .closed .graceful]) := by
  obtain ⟨settled, passes, phase, outputs⟩ := session.update_passes running time clock
  have stepped : (session.step (.update time clock)).phase = settled.phase := phase
  have counted : (session.liveness.timeWait.advance time).reached
        session.liveness.settings.timeWaitTimeout = true ↔
      session.liveness.settings.timeWaitTimeout.nanos ≤ spent + time.nanos := by
    rw [waits running, if_pos waiting, Timer.advance_running, Timer.reached_running]
  rw [stepped]
  cases passes with
  | expired due =>
      rw [terminate_eq] at outputs ⊢
      have told := List.append_cancel_left outputs
      exact ⟨iff_of_true rfl (.inl due), fun _ => .inl told.symm⟩
  | dials lasts paced due =>
      rw [startRebind_eq] at outputs ⊢
      have told := List.append_cancel_left outputs
      rw [← told]
      exact ⟨iff_of_false running (by simp [lasts, dialedIn]), fun isOver => absurd isOver running⟩
  | elapsed elapsed lasts =>
      have spares := spares_probes elapsed running clock
      rw [spares.phase]
      refine ⟨iff_of_false running ?_, fun isOver => absurd isOver running⟩
      rw [← counted]
      simp only [elapsed.lasts, Bool.false_eq_true, false_or, not_and]
      exact fun _ due => lasts due waiting
  | ended elapsed due lingered =>
      rw [endGracefully_eq, terminate_eq] at outputs ⊢
      simp only [(spares_probes elapsed running clock).outputs] at outputs
      have told := List.append_cancel_left outputs
      rw [← told]
      exact ⟨iff_of_true rfl (.inr ⟨rfl, counted.mp due⟩), fun _ => .inr rfl⟩

/-- How a session lingers, and when it stops to. -/
structure Lingers (start : Session P) (inputs : List (Input P)) : Prop where
  timer : (start.run inputs).phase ≠ .closed → (start.run inputs).closing.state = .timeWait →
    (start.run inputs).liveness.timeWait = .running (.ofNanos (start.lingering inputs))
  since : (start.run inputs).closing.state = .timeWait →
    ∃ earlier entering since, start.Entered inputs earlier entering since ∧
      start.lingering inputs = (start.run (earlier ++ [entering])).lingeringOver since
  ends : (start.run inputs).phase ≠ .closed → (start.run inputs).closing.state = .timeWait →
    ∀ time clock,
      (((start.run inputs).step (.update time clock)).phase = .closed ↔
        ((start.run inputs).liveness.offline.advance time).reached
            start.liveness.settings.offlineTimeout = true ∨
          dialedIn ((start.run inputs).toldBy (.update time clock)) = [] ∧
            start.liveness.settings.timeWaitTimeout.nanos ≤
              start.lingering inputs + time.nanos) ∧
      (((start.run inputs).step (.update time clock)).phase = .closed →
        (start.run inputs).toldBy (.update time clock) = [.closed .offlineTimeout] ∨
          (start.run inputs).toldBy (.update time clock) =
            [.closeStateChanged .closed, .closed .graceful])
  unpaced : start.liveness.rebindLimits = none →
    ∀ input, (start.run inputs).lingeringBy input = input.elapsed

/-- Without a pace of attempts no time is lost to them. -/
theorem lingeringBy_unpaced {session : Session P}
    (unpaced : session.liveness.rebindLimits = none) (input : Input P) :
    session.lingeringBy input = input.elapsed := by
  obtain ⟨told, outputs, -, undialed⟩ := (tells_step session input).outputs
  have toldBy : session.toldBy input = told := by
    rw [Session.toldBy, outputs, List.drop_left]
  rw [lingeringBy, toldBy, undialed unpaced]
  rfl

theorem Starts.entered {session : Session P} (starts : session.Starts) (inputs : List (Input P))
    (waiting : (session.run inputs).closing.state = .timeWait) :
    ∃ earlier entering since, session.Entered inputs earlier entering since := by
  rcases session.entered_or_stayed inputs waiting with stayed | entered
  · have began : session.closing.state = .timeWait := stayed [] List.nil_prefix
    cases starts <;> cases began
  · exact entered

/-- A session lingers until the updates that asked for no line come to the time-wait
timeout, unless it is without a line for too long; the accepting side, which never asks
for one, lingers no longer than that. -/
theorem run_lingers {start : Session P} (starts : start.Starts) (inputs : List (Input P)) :
    start.Lingers inputs := by
  have waits : Waits (start.lingering inputs) (start.run inputs) := waits_run inputs starts.waits
  have settings := start.settings_run inputs
  constructor
  · intro running waiting
    rw [waits running, if_pos waiting]
  · intro waiting
    obtain ⟨earlier, entering, since, entered⟩ := starts.entered inputs waiting
    exact ⟨earlier, entering, since, entered, entered.lingering_eq⟩
  · intro running waiting time clock
    rw [← settings]
    exact waits.ends running waiting time clock
  · intro unpaced input
    exact lingeringBy_unpaced ((tells_run start inputs).limits.trans unpaced) input

/-- The end of a session whose peer never acknowledges the FinAck, and whose line is lost
while it lingers. -/
def detained : List (Input Nat) :=
  [.lineCreated ⟨0⟩ 1, .close, .packet ⟨0⟩ (.reliable ⟨1, 1, .finAck⟩) 0,
    .packet ⟨0⟩ (.reliable ⟨2, 1, .fin⟩) 0, .lineClosed ⟨0⟩]

/-- Of the time since then it has lingered for six tenths of a second: the other update
asked for a line. -/
theorem detained_lingers :
    ((initiator {} {} ⟨⟨0⟩, 0⟩).run
        (detained ++ [.update (.ofMillis 600) 0, .update (.ofMillis 400) 0])).closing.state =
          .timeWait ∧
      (((initiator {} {} ⟨⟨0⟩, 0⟩).run
        (detained ++ [.update (.ofMillis 600) 0, .update (.ofMillis 400) 0])).step
          (.update (.ofMillis 400) 0)).phase = .closed := by
  have waiting : ((initiator {} {} ⟨⟨0⟩, 0⟩).run
      (detained ++ [.update (.ofMillis 600) 0, .update (.ofMillis 400) 0])).closing.state =
        .timeWait := by
    decide +kernel
  have lingers := run_lingers (.initiator {} {} ⟨⟨0⟩, 0⟩)
    (detained ++ [.update (.ofMillis 600) 0, .update (.ofMillis 400) 0])
  have ends := lingers.ends (by decide +kernel) waiting (.ofMillis 400) 0
  exact ⟨waiting, ends.1.mpr (.inr (by decide +kernel))⟩

/-- A second after it began to linger the session asks for a line instead of ending. -/
theorem detained_overdue :
    ((initiator {} {} ⟨⟨0⟩, 0⟩).run detained).closing.state = .timeWait ∧
      ((initiator {} {} ⟨⟨0⟩, 0⟩ : Session Nat).liveness.settings.timeWaitTimeout.nanos ≤
        (Duration.ofSeconds 1).nanos) ∧
      (((initiator {} {} ⟨⟨0⟩, 0⟩).run detained).step (.update (.ofSeconds 1) 0)).phase =
        .connected := by
  decide +kernel

end Session

end ResumableSession
