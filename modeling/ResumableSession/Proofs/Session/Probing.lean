import ResumableSession.Proofs.Session.Redialing
import ResumableSession.Proofs.Session.Uttering
import Mathlib.Data.List.Induction

/-!
# How a bound line is probed

The timers and the keepalive both know whether a probe waits for its answer, and they
agree: one does after every step in which the last probe that was sent has not been
answered and its line has stayed bound.  The wait is then the time since the probe, and
the line is dropped in the first update in which that comes to its limit.
-/

namespace ResumableSession

variable {P : Type}

/-- The time that an input lets pass. -/
def Input.time : Input P → Duration
  | .update time _ => time
  | _ => .zero

private theorem Input.nanos_time (input : Input P) : input.time.nanos = input.elapsed := by
  cases input <;> rfl

private theorem Timer.advance_zero (timer : Timer) : timer.advance .zero = timer := by
  cases timer with
  | stopped => rfl
  | running elapsed =>
      have same : elapsed + Duration.zero = elapsed := by
        have bounded := elapsed.bounded
        ext
        rw [Duration.nanos_add, Duration.maxNanos]
        have none : Duration.zero.nanos = 0 := rfl
        omega
      exact congrArg running same

private theorem Timer.isRunning_eq_false {timer : Timer} :
    timer.isRunning = false ↔ timer = .stopped := by
  cases timer <;> simp [isRunning]

private theorem Timer.isRunning_of_reached {timer : Timer} {time limit : Duration}
    (isOver : (timer.advance time).reached limit = true) : timer.isRunning = true := by
  cases timer with
  | stopped => cases isOver
  | running elapsed => rfl

namespace Liveness

variable {liveness : Liveness} {time : Duration}

private theorem tickAlive_quiet
    (single : liveness.aliveCheck.isRunning = true → liveness.aliveWait = .stopped)
    (quiet : (liveness.tickAlive time).2 = []) :
    (liveness.tickAlive time).1.aliveCheck.isRunning = liveness.aliveCheck.isRunning ∧
      (liveness.tickAlive time).1.aliveWait = liveness.aliveWait.advance time := by
  by_cases checks : liveness.aliveCheck.isRunning = true
  · simp only [tickAlive, if_pos checks] at quiet ⊢
    split at quiet
    · cases quiet
    · next early =>
        rw [if_neg early, single checks]
        refine ⟨?_, rfl⟩
        cases check : liveness.aliveCheck with
        | stopped => rfl
        | running elapsed => rfl
  · simp only [tickAlive, if_neg checks] at quiet ⊢
    split at quiet
    · cases quiet
    · next early =>
        rw [if_neg early]
        exact ⟨rfl, rfl⟩

private theorem tickAlive_pings (ping : .sendPing ∈ (liveness.tickAlive time).2) :
    liveness.aliveCheck.isRunning = true ∧
      (liveness.tickAlive time).1.aliveCheck = .stopped ∧
      (liveness.tickAlive time).1.aliveWait = .started := by
  by_cases checks : liveness.aliveCheck.isRunning = true
  · simp only [tickAlive, if_pos checks] at ping ⊢
    split at ping
    · next due =>
        rw [if_pos due]
        exact ⟨checks, rfl, rfl⟩
    · cases ping
  · simp only [tickAlive, if_neg checks] at ping
    split at ping
    · cases List.mem_singleton.mp ping
    · cases ping

private theorem mem_tickAlive_expired :
    .aliveWaitExpired ∈ (liveness.tickAlive time).2 ↔
      liveness.aliveCheck = .stopped ∧
        (liveness.aliveWait.advance time).reached liveness.settings.aliveCheckWait = true := by
  unfold tickAlive
  rw [← Timer.isRunning_eq_false]
  split
  · next checks =>
      dsimp only
      split <;> simp [checks]
  · next waits =>
      dsimp only
      split
      · next isOver => simp [waits, isOver]
      · next early => simp [waits, early]

private theorem mem_tick_alive {event : LivenessEvent}
    (alive : event = .sendPing ∨ event = .aliveWaitExpired) :
    event ∈ (liveness.tick time).2 ↔
      (liveness.offline.advance time).reached liveness.settings.offlineTimeout = false ∧
        (liveness.tickRebind time).2 = false ∧ event ∈ (liveness.tickAlive time).2 := by
  have ticks := liveness.ticks_tick time
  generalize (liveness.tick time).1 = after at ticks
  generalize (liveness.tick time).2 = found at ticks ⊢
  cases ticks with
  | expired due => rcases alive with rfl | rfl <;> simp [due]
  | dials lasts paced due =>
      have dialing : (liveness.tickRebind time).2 = true := by
        rw [tickRebind_snd liveness paced]
        simpa using due
      rcases alive with rfl | rfl <;> simp [dialing]
  | @elapsed after probes elapsed =>
      have alone : event ∉ (if (liveness.timeWait.advance time).reached
          liveness.settings.timeWaitTimeout then [.timeWaitExpired] else []) := by
        rcases alive with rfl | rfl <;> split <;> simp
      rw [List.mem_append, or_iff_left alone, elapsed.probing, elapsed.resting]
      simp [elapsed.lasts]

end Liveness

namespace Session

/-! ## A step -/

/-- While a line is bound, nothing but probing goes on. -/
structure Calm (session : Session P) : Prop where
  bound : session.current.isSome → session.phase = .connected
  online : session.current.isSome → session.liveness.offline = .stopped
  resting : session.current.isSome → ∀ time, (session.liveness.tickRebind time).2 = false

/-- One of the two timers of probing runs at most, and only while a line is bound.  What
the wait and the keepalive know of a probe agrees. -/
structure Attentive (session : Session P) : Prop where
  single : session.liveness.aliveCheck.isRunning = true → session.liveness.aliveWait = .stopped
  idle : session.current = none →
    session.liveness.aliveCheck = .stopped ∧ session.liveness.aliveWait = .stopped
  awaited : session.liveness.aliveWait.isRunning = session.keepalive.outstanding.isSome
  unprobed : session.liveness.settings.aliveCheckInterval.isZero = true →
    session.liveness.aliveCheck = .stopped ∧ session.liveness.aliveWait = .stopped

/-- What a step does about probing. -/
inductive Attends (before : Session P) : Input P → Session P → Prop where
  | without {input : Input P} {after : Session P} (unbound : after.current = none)
      (check : after.liveness.aliveCheck = .stopped)
      (wait : after.liveness.aliveWait = .stopped)
      (forgotten : after.keepalive.outstanding = none) : Attends before input after
  | bound {input : Input P} {after : Session P} {line : Line}
      (binds : (before.binding? input).isSome) (current : after.current = some line)
      (check : after.liveness.aliveCheck =
        if before.liveness.settings.aliveCheckInterval.isZero then .stopped else .started)
      (wait : after.liveness.aliveWait = .stopped)
      (forgotten : after.keepalive.outstanding = none) : Attends before input after
  | stays {input : Input P} {after : Session P} (unbinding : before.binding? input = none)
      (quiet : input.isUpdate = true → (before.liveness.tickAlive input.time).2 = [])
      (current : after.current = before.current)
      (check : after.liveness.aliveCheck.isRunning = before.liveness.aliveCheck.isRunning)
      (wait : after.liveness.aliveWait = before.liveness.aliveWait.advance input.time)
      (kept : after.keepalive.outstanding = before.keepalive.outstanding)
      (unanswered : ∀ line ticks clock, before.current.map (·.id) = some line →
        before.keepalive.outstanding = some ticks →
        input ≠ .packet line (.pingResponse ticks) clock) : Attends before input after
  | probed {after : Session P} {line : Line} {time : Duration} {clock : UInt32}
      (ping : .sendPing ∈ (before.liveness.tickAlive time).2)
      (bound : before.current = some line) (current : after.current = some line)
      (check : after.liveness.aliveCheck = .stopped)
      (wait : after.liveness.aliveWait = .started)
      (recorded : after.keepalive.outstanding = some clock) :
      Attends before (.update time clock) after
  | answered {after : Session P} {line : Line} {ticks clock : UInt32}
      (asked : before.keepalive.outstanding = some ticks)
      (bound : before.current = some line) (current : after.current = some line)
      (check : after.liveness.aliveCheck = .started)
      (wait : after.liveness.aliveWait = .stopped)
      (forgotten : after.keepalive.outstanding = none) :
      Attends before (.packet line.id (.pingResponse ticks) clock) after

variable {session shifted after settled : Session P} {input : Input P} {time : Duration}
  {clock : UInt32}

private theorem Over.attends (ended : Over after) : Attends session input after := by
  refine .without ended.current ?_ ?_ ?_
  · rw [← ended.liveness]
    rfl
  · rw [← ended.liveness]
    rfl
  · rw [← ended.keepalive]
    rfl

theorem Attends.rests (attends : Attends session input shifted) (rests : Rests shifted after) :
    Attends session input after := by
  rcases rests.course with abides | ended
  · cases attends with
    | without unbound check wait forgotten =>
        rw [← abides.current] at unbound
        rw [← abides.liveness] at check wait
        rw [← abides.keepalive] at forgotten
        exact .without unbound check wait forgotten
    | bound binds current check wait forgotten =>
        rw [← abides.current] at current
        rw [← abides.liveness] at check wait
        rw [← abides.keepalive] at forgotten
        exact .bound binds current check wait forgotten
    | stays unbinding quiet current check wait kept unanswered =>
        rw [← abides.current] at current
        rw [← abides.liveness] at check wait
        rw [← abides.keepalive] at kept
        exact .stays unbinding quiet current check wait kept unanswered
    | probed ping bound current check wait recorded =>
        rw [← abides.current] at current
        rw [← abides.liveness] at check wait
        rw [← abides.keepalive] at recorded
        exact .probed ping bound current check wait recorded
    | answered asked bound current check wait forgotten =>
        rw [← abides.current] at current
        rw [← abides.liveness] at check wait
        rw [← abides.keepalive] at forgotten
        exact .answered asked bound current check wait forgotten
  · exact ended.attends

theorem Attentive.bound (attentive : Attentive session)
    (runs : session.liveness.aliveCheck.isRunning = true ∨
      session.liveness.aliveWait.isRunning = true) : session.current.isSome := by
  rw [Option.isSome_iff_ne_none]
  intro unbound
  obtain ⟨check, wait⟩ := attentive.idle unbound
  rw [check, wait] at runs
  rcases runs with runs | runs <;> cases runs

theorem Attentive.forgotten (attentive : Attentive session) (unbound : session.current = none) :
    session.keepalive.outstanding = none := by
  have agreed := attentive.awaited
  rw [(attentive.idle unbound).2] at agreed
  simpa [Timer.isRunning] using agreed.symm

theorem Attentive.passes (attentive : Attentive session) (calm : Calm session)
    (running : session.phase ≠ .closed) (passes : Passes session time clock settled) :
    Attends session (.update time clock) settled := by
  have elapses {liveness : Liveness} {probes : List LivenessEvent}
      (elapsed : session.liveness.Elapsed time liveness probes) :
      Attends session (.update time clock)
        (probes.foldl (onDue clock) { session with liveness }) := by
    have moved := elapsed.probing
    rcases probing_cases elapsed running clock with
      ⟨none, same⟩ | ⟨ping, pinged⟩ | ⟨dead, dropped⟩
    · have quiet : (session.liveness.tickAlive time).2 = [] := by rw [moved, none]
      obtain ⟨check, wait⟩ := Liveness.tickAlive_quiet attentive.single quiet
      rw [moved] at check wait
      rw [same]
      exact .stays rfl (fun _ => quiet) rfl check wait rfl nofun
    · have due : .sendPing ∈ (session.liveness.tickAlive time).2 := by simp [moved, ping]
      obtain ⟨checks, check, wait⟩ := Liveness.tickAlive_pings due
      obtain ⟨line, current⟩ := Option.isSome_iff_exists.mp (attentive.bound (.inl checks))
      rw [moved] at check wait
      rw [pinged, sendPing_eq]
      refine .probed due current current check wait ?_
      simp [current, Keepalive.recordPing]
    · have due : .aliveWaitExpired ∈ (session.liveness.tickAlive time).2 := by simp [moved, dead]
      obtain ⟨-, isOver⟩ := Liveness.mem_tickAlive_expired.mp due
      have bound : ¬session.current.isNone := by
        rw [Option.isNone_iff_eq_none, ← ne_eq, ← Option.isSome_iff_ne_none]
        exact attentive.bound (.inr (Timer.isRunning_of_reached isOver))
      rw [dropped, dropLine_eq]
      simp only [bound]
      exact .without rfl rfl rfl rfl
  cases passes with
  | expired due => exact (over_terminate _ _).attends
  | dials lasts paced due =>
      have unbound : session.current = none := by
        by_contra bound
        have rests := calm.resting (Option.isSome_iff_ne_none.mpr bound) time
        rw [session.liveness.tickRebind_snd paced, Bool.or_eq_false_iff] at rests
        rcases due with due | due
        · exact absurd (due.symm.trans rests.1) (by simp)
        · exact absurd (due.symm.trans rests.2) (by simp)
      obtain ⟨check, wait⟩ := attentive.idle unbound
      rw [startRebind_eq]
      exact .without unbound check wait (attentive.forgotten unbound)
  | elapsed elapsed lasts => exact elapses elapsed
  | ended elapsed due lingered => exact (elapses elapsed).rests (rests_endGracefully _ _)

private theorem attends_binding (binds : (session.binding? input).isSome) :
    Attends session input (session.step input) := by
  obtain ⟨⟨target, origin⟩, bound⟩ := Option.isSome_iff_exists.mp binds
  obtain ⟨line, response, pending, index, -, greets⟩ := greets_of_binding? bound
  have opens {opened : Session P} (current : opened.current = some line)
      (liveness : opened.liveness = session.liveness.lineBound)
      (keepalive : opened.keepalive = session.keepalive.clear)
      (rests : Rests opened (session.step input)) : Attends session input (session.step input) := by
    refine Attends.rests (.bound binds current ?_ ?_ ?_) rests
    · rw [liveness]
      rfl
    · rw [liveness]
      rfl
    · rw [keepalive]
      rfl
  generalize origin.toNat = start at greets
  cases greets with
  | @created _ sessionId shaking connecting =>
      have stepped : session.step (.lineCreated line.id sessionId) =
          flush (emit
            { bindCurrent { session with pending := none, sessionId } line with
              phase := .connected }
            (.connected sessionId)) := by
        simp [step, onLineCreated, shaking, connecting]
      apply opens _ _ _ (stepped ▸ rests_flush _) <;> simp [emit, bindCurrent_eq]
  | @rebound _ serverAck shaking connected checked =>
      have stepped := step_rebound shaking connected checked
      have running : (bindCurrent { session with pending := none } line).phase ≠ .closed := by
        simp [bindCurrent_eq, connected]
      apply opens _ _ _ (stepped ▸ rests_resync _ running _) <;> simp [bindCurrent_eq]
  | attachCreated connecting =>
      have stepped : session.step (.attachCreated line) =
          flush (emit
            { bindCurrent
                { session.act (.send line.id (.createResponse session.sessionId)) with
                  lastLineIndex := line.index }
                line with
              phase := .connected }
            (.connected session.sessionId)) := by
        simp [step, attachCreated, connecting]
      apply opens _ _ _ (stepped ▸ rests_flush _) <;> simp [emit, bindCurrent_eq, act]
  | attachRebind connected current checked =>
      have stepped := step_attachRebind connected current checked
      have running :
          (bindCurrent
            { session.act (.send line.id (.rebindResponse session.delivery.lastRecvId)) with
              lastLineIndex := line.index }
            line).phase ≠ .closed := by
        simp [bindCurrent_eq, act, connected]
      apply opens _ _ _ (stepped ▸ rests_resync _ running _) <;> simp [bindCurrent_eq, act]

/-- An answer that does not fit the probe in flight changes nothing. -/
theorem step_stray_pong (session : Session P) {line : LineId} {ticks : UInt32} (clock : UInt32)
    (other : session.keepalive.outstanding ≠ some ticks) :
    session.step (.packet line (.pingResponse ticks) clock) = session := by
  have stepped : session.step (.packet line (.pingResponse ticks) clock) =
      session.onPacket line (.pingResponse ticks) clock := rfl
  rw [stepped, onPacket]
  split
  · rfl
  · simp [Keepalive.processPong, other]

private theorem attends_still (unbinding : session.binding? input = none)
    (timeless : input.isUpdate = false) (current : shifted.current = session.current)
    (check : shifted.liveness.aliveCheck = session.liveness.aliveCheck)
    (wait : shifted.liveness.aliveWait = session.liveness.aliveWait)
    (kept : shifted.keepalive = session.keepalive)
    (unanswered : ∀ line ticks clock, session.current.map (·.id) = some line →
      session.keepalive.outstanding = some ticks →
      input ≠ .packet line (.pingResponse ticks) clock) : Attends session input shifted := by
  refine .stays unbinding (by simp [timeless]) current (by rw [check]) ?_ (by rw [kept]) unanswered
  have instant : input.time = .zero := by
    cases input <;> first | rfl | cases timeless
  rw [wait, instant, Timer.advance_zero]

theorem Attentive.pong (attentive : Attentive session) (calm : Calm session) (line : LineId)
    (ticks clock : UInt32) :
    Attends session (.packet line (.pingResponse ticks) clock)
      (session.step (.packet line (.pingResponse ticks) clock)) := by
  by_cases asked : session.keepalive.outstanding = some ticks
  · by_cases current : session.current.map (·.id) = some line
    · obtain ⟨bound, isBound, rfl⟩ := Option.map_eq_some_iff.mp current
      have running : session.phase ≠ .closed := by
        simp [calm.bound (Option.isSome_of_eq_some isBound)]
      have awaiting : session.liveness.awaitingPong = true := by
        rw [Liveness.awaitingPong, attentive.awaited, asked]
        rfl
      have stepped : session.step (.packet bound.id (.pingResponse ticks) clock) =
          session.onPacket bound.id (.pingResponse ticks) clock := rfl
      have confirmed : session.liveness.aliveConfirmed =
          { session.liveness with aliveWait := .stopped, aliveCheck := .started } :=
        if_pos awaiting
      rw [stepped, onPacket, if_neg (by simp [running, current])]
      simp only [awaiting, if_true, Keepalive.processPong, asked, confirmed]
      exact .answered asked isBound isBound rfl rfl rfl
    · have unheard : session.step (.packet line (.pingResponse ticks) clock) = session :=
        if_pos (.inr current)
      rw [unheard]
      refine attends_still rfl rfl rfl rfl rfl rfl fun target _ _ bound _ same => ?_
      cases same
      exact current bound
  · rw [step_stray_pong session clock asked]
    refine attends_still rfl rfl rfl rfl rfl rfl fun _ answer _ _ outstanding same => ?_
    cases same
    exact asked outstanding

theorem Attentive.shifts (attentive : Attentive session) (calm : Calm session)
    (shifts : Shifts session input shifted) (unbinding : session.binding? input = none)
    (unanswered : ∀ line ticks clock, input ≠ .packet line (.pingResponse ticks) clock) :
    Attends session input shifted := by
  have still (timeless : input.isUpdate = false) (current : shifted.current = session.current)
      (check : shifted.liveness.aliveCheck = session.liveness.aliveCheck)
      (wait : shifted.liveness.aliveWait = session.liveness.aliveWait)
      (kept : shifted.keepalive = session.keepalive) : Attends session input shifted :=
    attends_still unbinding timeless current check wait kept
      fun line ticks clock _ _ => unanswered line ticks clock
  have unbound (isOver : session.phase = .closed) : session.current = none := by
    by_contra bound
    have connected := calm.bound (Option.isSome_iff_ne_none.mpr bound)
    rw [isOver] at connected
    cases connected
  cases shifts with
  | still timeless => exact still timeless rfl rfl rfl rfl
  | late isOver =>
      obtain ⟨check, wait⟩ := attentive.idle (unbound isOver)
      exact .without (unbound isOver) check wait (attentive.forgotten (unbound isOver))
  | released timeless => exact still timeless rfl rfl rfl rfl
  | forgotten isOver => exact still rfl (unbound isOver).symm rfl rfl rfl
  | dialed running => exact still rfl rfl rfl rfl rfl
  | failed shaking connected => exact still rfl rfl rfl rfl rfl
  | lost timeless bound running => exact .without rfl rfl rfl rfl
  | measured => exact absurd rfl (unanswered _ _ _)
  | received bound running next => exact still rfl rfl rfl rfl rfl
  | lingers bound running next entered fresh => exact still rfl rfl rfl rfl rfl
  | bound sessionId greets marked =>
      obtain ⟨origin, -, binds⟩ := greets.binding?_eq
      rw [unbinding] at binds
      cases binds
  | forced running => exact (over_terminate _ _).attends
  | passes running passes => exact attentive.passes calm running passes

/-- Whatever happens to a session that is calm while a line is bound, the probe of the line
is kept, answered or forgotten with the line. -/
theorem Attentive.attends (attentive : Attentive session) (calm : Calm session)
    (input : Input P) : Attends session input (session.step input) := by
  cases binds : session.binding? input with
  | some target => exact attends_binding (by rw [binds]; rfl)
  | none =>
      by_cases pong : ∃ line ticks clock, input = .packet line (.pingResponse ticks) clock
      · obtain ⟨line, ticks, clock, rfl⟩ := pong
        exact attentive.pong calm line ticks clock
      · obtain ⟨shifted, shifts, rests⟩ := session.shifts_step input
        refine (attentive.shifts calm shifts binds fun line ticks clock same => ?_).rests rests
        exact pong ⟨line, ticks, clock, same⟩

private theorem Attends.attentive (attends : Attends session input after)
    (attentive : Attentive session)
    (settings : after.liveness.settings = session.liveness.settings) : Attentive after := by
  cases attends with
  | without unbound check wait forgotten =>
      exact ⟨fun _ => wait, fun _ => ⟨check, wait⟩, by rw [wait, forgotten]; rfl,
        fun _ => ⟨check, wait⟩⟩
  | bound binds current check wait forgotten =>
      refine ⟨fun _ => wait, ?_, by rw [wait, forgotten]; rfl, fun off => ⟨?_, wait⟩⟩
      · simp [current]
      · rw [check, ← settings, if_pos off]
  | stays unbinding quiet current check wait kept unanswered =>
      have moves : after.liveness.aliveWait.isRunning =
          session.liveness.aliveWait.isRunning := by
        rw [wait]
        cases session.liveness.aliveWait <;> rfl
      have stopped (stopped : session.liveness.aliveCheck = .stopped ∧
          session.liveness.aliveWait = .stopped) :
          after.liveness.aliveCheck = .stopped ∧ after.liveness.aliveWait = .stopped := by
        rw [← Timer.isRunning_eq_false, ← Timer.isRunning_eq_false, check, moves, stopped.1,
          stopped.2]
        exact ⟨rfl, rfl⟩
      constructor
      · intro checks
        rw [wait, attentive.single (check.symm.trans checks)]
        rfl
      · rw [current]
        exact fun unbound => stopped (attentive.idle unbound)
      · rw [moves, kept]
        exact attentive.awaited
      · rw [settings]
        exact fun off => stopped (attentive.unprobed off)
  | probed ping bound current check wait recorded =>
      obtain ⟨checks, -⟩ := Liveness.tickAlive_pings ping
      refine ⟨?_, ?_, by rw [wait, recorded]; rfl, fun off => ?_⟩
      · rw [check]
        nofun
      · simp [current]
      · rw [settings] at off
        rw [(attentive.unprobed off).1] at checks
        cases checks
  | answered asked bound current check wait forgotten =>
      refine ⟨fun _ => wait, ?_, by rw [wait, forgotten]; rfl, fun off => ?_⟩
      · simp [current]
      · have waits := attentive.awaited
        rw [settings] at off
        rw [asked, (attentive.unprobed off).2] at waits
        cases waits

/-! ## Runs -/

private theorem Starts.attentive {start : Session P} (starts : start.Starts) : Attentive start := by
  cases starts <;> exact ⟨nofun, fun _ => ⟨rfl, rfl⟩, rfl, fun _ => ⟨rfl, rfl⟩⟩

/-- Under the rules of its owner a session with a line is neither about to end for want of
one nor about to ask for one. -/
theorem Starts.calm {start : Session P} (starts : start.Starts) {inputs : List (Input P)}
    (obeys : (Ledger.opening start).obeys inputs = true) : Calm (start.run inputs) := by
  have away := away_run inputs starts.away
  refine ⟨away.bound, fun bound => away.resting (.inr bound), fun bound time => ?_⟩
  have limits : (start.run inputs).liveness.rebindLimits = start.liveness.rebindLimits :=
    (tells_run start inputs).limits
  cases paced : start.liveness.rebindLimits with
  | none => simp only [Liveness.tickRebind, limits, paced]
  | some limits' =>
      have redialing :=
        Ledger.redialing_takeAll inputs (Ledger.redialing_opening starts paced) obeys
      have session : ((Ledger.opening start).takeAll inputs).session = start.run inputs :=
        Ledger.session_takeAll inputs (Ledger.opening start)
      have rests := redialing.paced.resting
      rw [session] at rests
      obtain ⟨rebind, cooltime⟩ := rests (.inr bound)
      rw [Liveness.tickRebind_snd _ (limits.trans paced), rebind, cooltime]
      rfl

/-- The two timers and the keepalive agree after every run. -/
theorem attentive_run {start : Session P} (starts : start.Starts) (inputs : List (Input P))
    (obeys : (Ledger.opening start).obeys inputs = true) : Attentive (start.run inputs) := by
  induction inputs using List.reverseRecOn with
  | nil => exact starts.attentive
  | append_singleton inputs input induction =>
      rw [Ledger.obeys_append, Bool.and_eq_true] at obeys
      have before := induction obeys.1
      rw [run_concat]
      exact (before.attends (starts.calm obeys.1) input).attentive before
        (settings_step _ _)

/-- The last probe of a run went out with `probing`, on a line that has stayed bound since,
and was not answered. -/
structure Unanswered (start : Session P) (inputs earlier : List (Input P)) (probing : Input P)
    (since : List (Input P)) (line : Line) (ticks : UInt32) : Prop where
  split : inputs = earlier ++ probing :: since
  sent : probesIn ((start.run earlier).doneBy probing) = [(line.id, ticks)]
  bound : ∀ passed, passed <+: since →
    (start.run (earlier ++ probing :: passed)).current = some line
  last : ∀ passed next, passed ++ [next] <+: since →
    (start.run (earlier ++ probing :: passed)).binding? next = none ∧
      probesIn ((start.run (earlier ++ probing :: passed)).doneBy next) = []
  unanswered : ∀ clock, .packet line.id (.pingResponse ticks) clock ∉ since

namespace Unanswered

variable {start : Session P} {inputs earlier since : List (Input P)} {probing next : Input P}
  {line : Line} {ticks : UInt32}

theorem current (probe : start.Unanswered inputs earlier probing since line ticks) :
    (start.run inputs).current = some line := by
  rw [probe.split]
  exact probe.bound since List.prefix_rfl

theorem begins (sent : probesIn ((start.run inputs).doneBy next) = [(line.id, ticks)])
    (current : (start.run (inputs ++ [next])).current = some line) :
    start.Unanswered (inputs ++ [next]) inputs next [] line ticks where
  split := rfl
  sent := sent
  bound := by
    intro passed part
    rw [List.prefix_nil.mp part]
    exact current
  last := by
    intro passed other part
    cases passed <;> cases List.prefix_nil.mp part
  unanswered := nofun

theorem extend (probe : start.Unanswered inputs earlier probing since line ticks)
    (unbinding : (start.run inputs).binding? next = none)
    (unprobed : probesIn ((start.run inputs).doneBy next) = [])
    (current : (start.run (inputs ++ [next])).current = some line)
    (other : ∀ clock, next ≠ .packet line.id (.pingResponse ticks) clock) :
    start.Unanswered (inputs ++ [next]) earlier probing (since ++ [next]) line ticks := by
  have split := probe.split
  have longer : inputs ++ [next] = earlier ++ probing :: (since ++ [next]) := by
    rw [split, List.append_assoc, List.cons_append]
  constructor
  · exact longer
  · exact probe.sent
  · intro passed part
    rcases List.prefix_concat_iff.mp part with rfl | shorter
    · rw [← longer]
      exact current
    · exact probe.bound passed shorter
  · intro passed last part
    rcases List.prefix_concat_iff.mp part with whole | shorter
    · obtain ⟨rfl, same⟩ := List.append_inj' whole rfl
      cases same
      rw [← split]
      exact ⟨unbinding, unprobed⟩
    · exact probe.last passed last shorter
  · intro clock member
    rcases List.mem_append.mp member with old | new
    · exact probe.unanswered clock old
    · exact other clock (List.mem_singleton.mp new).symm

/-- A probe that is unanswered after one more input went out with it, or was unanswered
before. -/
theorem shorten (probe : start.Unanswered (inputs ++ [next]) earlier probing since line ticks) :
    since = [] ∧ earlier = inputs ∧ probing = next ∨
      ∃ passed, since = passed ++ [next] ∧
        start.Unanswered inputs earlier probing passed line ticks := by
  have split := probe.split
  rcases List.eq_nil_or_concat' since with rfl | ⟨passed, last, rfl⟩
  · obtain ⟨rfl, same⟩ := List.append_inj' split rfl
    cases same
    exact .inl ⟨rfl, rfl, rfl⟩
  · rw [← List.cons_append, ← List.append_assoc] at split
    obtain ⟨before, same⟩ := List.append_inj' split rfl
    cases same
    refine .inr ⟨passed, rfl, before, probe.sent, ?_, ?_, ?_⟩
    · exact fun earlier part => probe.bound earlier (part.trans (List.prefix_append _ _))
    · exact fun earlier last part =>
        probe.last earlier last (part.trans (List.prefix_append _ _))
    · exact fun clock member => probe.unanswered clock (List.mem_append_left _ member)

theorem before {passed later : List (Input P)}
    (probe : start.Unanswered inputs earlier probing (passed ++ later) line ticks) :
    start.Unanswered (earlier ++ probing :: passed) earlier probing passed line ticks where
  split := rfl
  sent := probe.sent
  bound := fun _ part => probe.bound _ (part.trans (List.prefix_append _ _))
  last := fun _ _ part => probe.last _ _ (part.trans (List.prefix_append _ _))
  unanswered := fun clock member => probe.unanswered clock (List.mem_append_left _ member)

end Unanswered

private theorem probesIn_doneBy (session : Session P) (input : Input P) :
    probesIn (session.doneBy input) = session.probesDue input := by
  by_cases forced : input = .closeImmediately .unencodable
  · subst forced
    have stepped : session.step (.closeImmediately .unencodable) =
        if session.phase = .closed then session else session.terminate .unencodable := rfl
    rw [doneBy, stepped]
    split
    · rw [List.drop_length]
      rfl
    · rw [terminate_eq, List.append_assoc, List.drop_left]
      simp [probesDue]
  · have utters : Utters (fun _ => True) (session.probesDue input) session (session.step input) :=
      utters_step trivial trivial session forced fun _ _ => trivial
    obtain ⟨sent, actions, probed, -⟩ := utters.sent
    rw [doneBy, actions, List.drop_left, probed]

private theorem probesDue_quiet {session : Session P} {input : Input P}
    (quiet : input.isUpdate = true → (session.liveness.tickAlive input.time).2 = []) :
    session.probesDue input = [] := by
  cases input with
  | update time clock =>
      have none : (session.liveness.tickAlive time).2 = [] := quiet rfl
      exact if_neg fun due => by simp [pings, none] at due
  | _ => rfl

private theorem probesDue_binding {session : Session P} {input : Input P}
    (binds : (session.binding? input).isSome) : session.probesDue input = [] := by
  cases input <;> first | rfl | cases binds

private theorem pings_of_probesDue {session : Session P} {input : Input P}
    (due : session.probesDue input ≠ []) :
    ∃ time clock, input = .update time clock ∧ session.pings time := by
  cases input with
  | update time clock =>
      exact ⟨time, clock, rfl, Classical.not_not.mp fun quiet => due (if_neg quiet)⟩
  | _ => exact absurd rfl due

theorem pings_iff {session : Session P} (attentive : Attentive session) (calm : Calm session)
    (time : Duration) :
    session.pings time ↔ .sendPing ∈ (session.liveness.tickAlive time).2 := by
  refine ⟨fun due => due.2.2.2, fun ping => ?_⟩
  have bound := attentive.bound (.inl (Liveness.tickAlive_pings ping).1)
  refine ⟨by simp [calm.bound bound], ?_, calm.resting bound time, ping⟩
  rw [calm.online bound]
  rfl

private theorem probesDue_ping {session : Session P} (attentive : Attentive session)
    (calm : Calm session)
    {line : Line} {time : Duration} {clock : UInt32} (bound : session.current = some line)
    (ping : .sendPing ∈ (session.liveness.tickAlive time).2) :
    session.probesDue (.update time clock) = [(line.id, clock)] := by
  rw [probesDue, if_pos ((pings_iff attentive calm time).mpr ping), bound]
  rfl

/-- The probe that the keepalive knows of is the one that is unanswered, and the wait is
the time since it went out. -/
structure Recorded (start : Session P) (inputs : List (Input P)) : Prop where
  unanswered : ∀ ticks, (start.run inputs).keepalive.outstanding = some ticks →
    ∃ earlier probing since line, start.Unanswered inputs earlier probing since line ticks
  recorded : ∀ earlier probing since line ticks,
    start.Unanswered inputs earlier probing since line ticks →
      (start.run inputs).keepalive.outstanding = some ticks ∧
        (start.run inputs).liveness.aliveWait = .running (.ofNanos (timePassed since))

theorem timePassed_concat (inputs : List (Input P)) (input : Input P) :
    timePassed (inputs ++ [input]) = timePassed inputs + input.elapsed := by
  induction inputs with
  | nil => exact Nat.add_comm _ _
  | cons first inputs induction =>
      rw [List.cons_append, timePassed, timePassed, induction, Nat.add_assoc]

section

variable {start : Session P} {inputs earlier since : List (Input P)} {input probing : Input P}
  {line : Line} {ticks : UInt32}

/-- What is outstanding was sent with the last input, or was outstanding before it. -/
theorem Recorded.concat_unanswered (recorded : start.Recorded inputs)
    (attentive : Attentive (start.run inputs)) (calm : Calm (start.run inputs))
    (outstanding : (start.run (inputs ++ [input])).keepalive.outstanding = some ticks) :
    ∃ earlier probing since line,
      start.Unanswered (inputs ++ [input]) earlier probing since line ticks := by
  have attends := attentive.attends calm input
  have probes := (start.run inputs).probesIn_doneBy input
  rw [← run_concat] at attends
  cases attends with
  | without unbound check wait forgotten | bound binds current check wait forgotten
  | answered asked bound current check wait forgotten =>
      rw [forgotten] at outstanding
      cases outstanding
  | stays unbinding quiet current check wait kept unanswered =>
      rw [kept] at outstanding
      obtain ⟨earlier, probing, since, line, probe⟩ := recorded.unanswered ticks outstanding
      have bound := probe.current
      refine ⟨earlier, probing, since ++ [input], line, probe.extend unbinding ?_ ?_ ?_⟩
      · rw [probes, probesDue_quiet quiet]
      · exact current.trans bound
      · exact fun clock => unanswered line.id ticks clock (by rw [bound]; rfl) outstanding
  | @probed after line time clock ping bound current check wait sent =>
      rw [sent] at outstanding
      cases outstanding
      exact ⟨inputs, _, [], line, .begins (probes.trans (probesDue_ping attentive calm bound ping))
        current⟩

private theorem recorded_begins (attentive : Attentive (start.run inputs))
    (calm : Calm (start.run inputs))
    (probe : start.Unanswered (inputs ++ [probing]) inputs probing [] line ticks) :
    (start.run (inputs ++ [probing])).keepalive.outstanding = some ticks ∧
      (start.run (inputs ++ [probing])).liveness.aliveWait = .started := by
  have attends := attentive.attends calm probing
  have bound := probe.current
  have sent := probe.sent
  rw [probesIn_doneBy] at sent
  rw [← run_concat] at attends
  cases attends with
  | without unbound check wait forgotten =>
      rw [unbound] at bound
      cases bound
  | bound binds current check wait forgotten =>
      rw [probesDue_binding binds] at sent
      cases sent
  | stays unbinding quiet current check wait kept unanswered =>
      rw [probesDue_quiet quiet] at sent
      cases sent
  | @probed after line' time clock ping bound' current check wait noted =>
      rw [probesDue_ping attentive calm bound' ping] at sent
      obtain ⟨-, rfl⟩ := Prod.mk.inj (List.singleton_inj.mp sent)
      exact ⟨noted, wait⟩
  | answered asked bound current check wait forgotten => cases sent

/-- A probe that stays unanswered stays outstanding, and its wait goes on. -/
theorem Recorded.continues (recorded : start.Recorded inputs)
    (attentive : Attentive (start.run inputs)) (calm : Calm (start.run inputs))
    (before : start.Unanswered inputs earlier probing since line ticks)
    (probe : start.Unanswered (inputs ++ [input]) earlier probing (since ++ [input]) line ticks) :
    (start.run (inputs ++ [input])).keepalive.outstanding = some ticks ∧
      (start.run (inputs ++ [input])).liveness.aliveWait =
        .running (.ofNanos (timePassed (since ++ [input]))) := by
  have attends := attentive.attends calm input
  have bound := probe.current
  obtain ⟨noted, waits⟩ := recorded.recorded _ _ _ _ _ before
  obtain ⟨unbinding, unprobed⟩ := probe.last since input List.prefix_rfl
  rw [← before.split] at unbinding unprobed
  rw [← run_concat] at attends
  cases attends with
  | without unbound check wait forgotten =>
      rw [unbound] at bound
      cases bound
  | bound binds current check wait forgotten =>
      rw [unbinding] at binds
      cases binds
  | stays unbinding quiet current check wait kept unanswered =>
      refine ⟨kept.trans noted, ?_⟩
      rw [wait, waits, Timer.advance_running, timePassed_concat, Input.nanos_time]
  | @probed after line' time clock ping bound' current check wait noted =>
      rw [probesIn_doneBy, probesDue_ping attentive calm bound' ping] at unprobed
      cases unprobed
  | @answered after line' ticks' clock asked bound' current check wait forgotten =>
      rw [noted] at asked
      cases asked
      rw [before.current] at bound'
      cases bound'
      exact absurd (List.mem_append_right _ (List.mem_singleton.mpr rfl))
        (probe.unanswered clock)

theorem Recorded.concat (recorded : start.Recorded inputs)
    (attentive : Attentive (start.run inputs)) (calm : Calm (start.run inputs)) :
    start.Recorded (inputs ++ [input]) := by
  constructor
  · exact fun ticks => recorded.concat_unanswered attentive calm
  · intro earlier probing since line ticks probe
    rcases probe.shorten with ⟨rfl, rfl, rfl⟩ | ⟨passed, rfl, before⟩
    · exact recorded_begins attentive calm probe
    · exact recorded.continues attentive calm before probe

end

private theorem recorded_run {start : Session P} (starts : start.Starts) (inputs : List (Input P))
    (obeys : (Ledger.opening start).obeys inputs = true) : start.Recorded inputs := by
  induction inputs using List.reverseRecOn with
  | nil =>
      constructor
      · intro ticks outstanding
        cases starts <;> cases outstanding
      · intro earlier probing since line ticks probe
        cases earlier <;> cases probe.split
  | append_singleton inputs input induction =>
      rw [Ledger.obeys_append, Bool.and_eq_true] at obeys
      exact (induction obeys.1).concat (attentive_run starts inputs obeys.1) (starts.calm obeys.1)

/-! ## Expiry -/

section

variable {session : Session P} {time : Duration} {clock : UInt32}

theorem mem_tick_iff (attentive : Attentive session) (calm : Calm session)
    {event : LivenessEvent} (alive : event = .sendPing ∨ event = .aliveWaitExpired) :
    event ∈ (session.liveness.tick time).2 ↔ event ∈ (session.liveness.tickAlive time).2 := by
  rw [Liveness.mem_tick_alive alive]
  refine ⟨fun due => due.2.2, fun due => ?_⟩
  have bound : session.current.isSome := by
    refine attentive.bound ?_
    rcases alive with rfl | rfl
    · exact .inl (Liveness.tickAlive_pings due).1
    · obtain ⟨-, isOver⟩ := Liveness.mem_tickAlive_expired.mp due
      exact .inr (Timer.isRunning_of_reached isOver)
  rw [calm.online bound]
  exact ⟨rfl, calm.resting bound time, due⟩

theorem Attentive.drops (attentive : Attentive session) (calm : Calm session)
    (dead : .aliveWaitExpired ∈ (session.liveness.tickAlive time).2) :
    (session.step (.update time clock)).current = none := by
  cases attentive.attends calm (.update time clock) with
  | without unbound => exact unbound
  | bound binds => cases binds
  | stays unbinding quiet =>
      have none : (session.liveness.tickAlive time).2 = [] := quiet rfl
      rw [none] at dead
      cases dead
  | probed ping =>
      have checks := (Liveness.tickAlive_pings ping).1
      rw [(Liveness.mem_tickAlive_expired.mp dead).1] at checks
      cases checks

/-- Time takes the line from a session that goes on only if a probe was not answered. -/
theorem Calm.expired (calm : Calm session) (bound : session.current.isSome)
    (lost : (session.step (.update time clock)).current = none)
    (open_ : (session.step (.update time clock)).phase ≠ .closed) :
    .aliveWaitExpired ∈ (session.liveness.tickAlive time).2 := by
  have running : session.phase ≠ .closed := by simp [calm.bound bound]
  obtain ⟨settled, passes, updated⟩ := passes_update running time clock
  have stepped : session.step (.update time clock) = session.update time clock := rfl
  have same : (session.update time clock).current = settled.current ∧
      (session.update time clock).phase = settled.phase := by
    rw [updated]
    split
    · rw [sendAck_eq]
      exact ⟨rfl, rfl⟩
    · exact ⟨rfl, rfl⟩
  rw [stepped, same.1] at lost
  rw [stepped, same.2] at open_
  have kept (current : settled.current = session.current) :
      .aliveWaitExpired ∈ (session.liveness.tickAlive time).2 := by
    rw [← current, lost] at bound
    cases bound
  cases passes with
  | expired due => exact absurd (over_terminate _ _).phase open_
  | dials lasts paced due => exact kept (by rw [startRebind_eq])
  | elapsed elapsed lasts =>
      rcases probing_cases elapsed running clock with
        ⟨none, quiet⟩ | ⟨ping, pinged⟩ | ⟨dead, dropped⟩
      · exact kept (by rw [quiet])
      · exact kept (by rw [pinged, sendPing_eq])
      · simp [elapsed.probing, dead]
  | ended elapsed due lingered => exact absurd (over_terminate _ _).phase open_

end

theorem Recorded.expires {start : Session P} {inputs : List (Input P)}
    (recorded : start.Recorded inputs) (attentive : Attentive (start.run inputs))
    (calm : Calm (start.run inputs)) (time : Duration) :
    .aliveWaitExpired ∈ ((start.run inputs).liveness.tick time).2 ↔
      ∃ earlier probing since line ticks,
        start.Unanswered inputs earlier probing since line ticks ∧
          start.liveness.settings.aliveCheckWait.nanos ≤ timePassed since + time.nanos := by
  rw [mem_tick_iff attentive calm (.inr rfl), Liveness.mem_tickAlive_expired, settings_run]
  constructor
  · rintro ⟨-, isOver⟩
    have waits := Timer.isRunning_of_reached isOver
    rw [attentive.awaited] at waits
    obtain ⟨ticks, outstanding⟩ := Option.isSome_iff_exists.mp waits
    obtain ⟨earlier, probing, since, line, probe⟩ := recorded.unanswered ticks outstanding
    refine ⟨earlier, probing, since, line, ticks, probe, ?_⟩
    rwa [(recorded.recorded _ _ _ _ _ probe).2, Timer.advance_running,
      Timer.reached_running] at isOver
  · rintro ⟨earlier, probing, since, line, ticks, probe, enough⟩
    have waits := (recorded.recorded _ _ _ _ _ probe).2
    refine ⟨?_, ?_⟩
    · rw [← Timer.isRunning_eq_false, ← Bool.not_eq_true]
      intro checks
      rw [attentive.single checks] at waits
      cases waits
    · rw [waits, Timer.advance_running, Timer.reached_running]
      exact enough

/-- How a session probes its line, after a run and in the inputs that may follow. -/
structure Probes (start : Session P) (inputs : List (Input P)) : Prop where
  single : ¬((start.run inputs).liveness.aliveCheck.isRunning = true ∧
    (start.run inputs).liveness.aliveWait.isRunning = true)
  bound : (start.run inputs).liveness.aliveCheck.isRunning = true ∨
      (start.run inputs).liveness.aliveWait.isRunning = true →
    (start.run inputs).current.isSome
  awaiting : (start.run inputs).liveness.awaitingPong = true ↔
    (start.run inputs).keepalive.outstanding.isSome
  outstanding : ∀ ticks, (start.run inputs).keepalive.outstanding = some ticks ↔
    ∃ earlier probing since line, start.Unanswered inputs earlier probing since line ticks
  pings : ∀ time clock, .sendPing ∈ ((start.run inputs).liveness.tick time).2 →
    ∃ line, (start.run inputs).current = some line ∧
      probesIn ((start.run inputs).doneBy (.update time clock)) = [(line.id, clock)]
  unprompted : ∀ input, probesIn ((start.run inputs).doneBy input) ≠ [] →
    ∃ time clock, input = .update time clock ∧
      .sendPing ∈ ((start.run inputs).liveness.tick time).2
  expires : ∀ time, .aliveWaitExpired ∈ ((start.run inputs).liveness.tick time).2 ↔
    ∃ earlier probing since line ticks,
      start.Unanswered inputs earlier probing since line ticks ∧
        start.liveness.settings.aliveCheckWait.nanos ≤ timePassed since + time.nanos
  first : ∀ earlier probing since line ticks,
    start.Unanswered inputs earlier probing since line ticks →
    ∀ passed time clock later, since = passed ++ .update time clock :: later →
      timePassed passed + time.nanos < start.liveness.settings.aliveCheckWait.nanos
  drops : ∀ time clock, .aliveWaitExpired ∈ ((start.run inputs).liveness.tick time).2 →
    ((start.run inputs).step (.update time clock)).current = none
  spared : ∀ time clock, (start.run inputs).current.isSome →
    ((start.run inputs).step (.update time clock)).current = none →
    ((start.run inputs).step (.update time clock)).phase ≠ .closed →
    .aliveWaitExpired ∈ ((start.run inputs).liveness.tick time).2
  ignored : ∀ line ticks clock, (start.run inputs).keepalive.outstanding ≠ some ticks →
    (start.run inputs).step (.packet line (.pingResponse ticks) clock) = start.run inputs
  off : start.liveness.settings.aliveCheckInterval.isZero = true →
    probesIn (start.run inputs).actions = []

private theorem unprobed_run {start : Session P} (starts : start.Starts) (inputs : List (Input P))
    (obeys : (Ledger.opening start).obeys inputs = true)
    (off : start.liveness.settings.aliveCheckInterval.isZero = true) :
    probesIn (start.run inputs).actions = [] := by
  induction inputs using List.reverseRecOn with
  | nil => cases starts <;> rfl
  | append_singleton inputs input induction =>
      rw [Ledger.obeys_append, Bool.and_eq_true] at obeys
      have attentive := attentive_run starts inputs obeys.1
      have stopped := attentive.unprobed (by rwa [settings_run])
      obtain ⟨actions, _, grows, _⟩ := handles_step (start.run inputs) input
      have probes := (start.run inputs).probesIn_doneBy input
      rw [doneBy, grows, List.drop_left] at probes
      rw [run_concat, grows, probesIn_append, induction obeys.1, probes, List.nil_append]
      by_contra due
      obtain ⟨time, clock, -, ping⟩ := pings_of_probesDue due
      have checks := (Liveness.tickAlive_pings ping.2.2.2).1
      rw [stopped.1] at checks
      cases checks

/-- Whatever happens to a session whose owner keeps to the rules, the timers and the
keepalive agree on the probe that is unanswered; probes go out on the bound line when they
are due, and only the want of an answer for the whole wait takes the line away. -/
theorem run_probes {start : Session P} (starts : start.Starts) (inputs : List (Input P))
    (obeys : (Ledger.opening start).obeys inputs = true) : start.Probes inputs := by
  have attentive := attentive_run starts inputs obeys
  have calm := starts.calm obeys
  have recorded := recorded_run starts inputs obeys
  constructor
  · rintro ⟨checks, waits⟩
    rw [attentive.single checks] at waits
    cases waits
  · exact attentive.bound
  · rw [Liveness.awaitingPong, attentive.awaited]
  · intro ticks
    refine ⟨recorded.unanswered ticks, ?_⟩
    rintro ⟨earlier, probing, since, line, probe⟩
    exact (recorded.recorded _ _ _ _ _ probe).1
  · intro time clock due
    rw [mem_tick_iff attentive calm (.inl rfl)] at due
    obtain ⟨line, current⟩ :=
      Option.isSome_iff_exists.mp (attentive.bound (.inl (Liveness.tickAlive_pings due).1))
    refine ⟨line, current, ?_⟩
    rw [probesIn_doneBy, probesDue_ping attentive calm current due]
  · intro input sent
    rw [probesIn_doneBy] at sent
    obtain ⟨time, clock, same, due⟩ := pings_of_probesDue sent
    exact ⟨time, clock, same, (mem_tick_iff attentive calm (.inl rfl)).mpr due.2.2.2⟩
  · exact recorded.expires attentive calm
  · rintro earlier probing since line ticks probe passed time clock later rfl
    by_contra late
    have split := probe.split
    have before : (Ledger.opening start).obeys (earlier ++ probing :: passed) = true := by
      rw [split, ← List.cons_append, ← List.append_assoc, Ledger.obeys_append,
        Bool.and_eq_true] at obeys
      exact obeys.1
    have attentive := attentive_run starts _ before
    have calm := starts.calm before
    have dead := ((recorded_run starts _ before).expires attentive calm time).mpr
      ⟨_, _, _, _, _, probe.before, Nat.le_of_not_lt late⟩
    rw [mem_tick_iff attentive calm (.inr rfl)] at dead
    have part : passed ++ [.update time clock] <+: passed ++ .update time clock :: later :=
      (List.prefix_append_right_inj passed).mpr (List.cons_prefix_cons.mpr ⟨rfl, List.nil_prefix⟩)
    have bound := probe.bound _ part
    rw [← List.cons_append, ← List.append_assoc, run_concat, attentive.drops calm dead] at bound
    cases bound
  · intro time clock dead
    exact attentive.drops calm ((mem_tick_iff attentive calm (.inr rfl)).mp dead)
  · intro time clock bound lost open_
    exact (mem_tick_iff attentive calm (.inr rfl)).mpr (calm.expired bound lost open_)
  · exact fun line ticks clock => step_stray_pong _ clock
  · exact unprobed_run starts inputs obeys

/-- A session that probes its line, hears a stray answer and then the right one, and probes
the line again. -/
def patient : List (Input Nat) :=
  [.attachCreated ⟨⟨0⟩, 0⟩, .update (.ofSeconds 4) 11, .packet ⟨0⟩ (.pingResponse 12) 20,
    .packet ⟨0⟩ (.pingResponse 11) 30, .update (.ofSeconds 4) 13, .update (.ofSeconds 1) 14]

theorem patient_probes :
    (Ledger.opening (responder 7 {} : Session Nat)).obeys patient = true ∧
      (∃ earlier probing since line,
        (responder 7 {}).Unanswered patient earlier probing since line 13) ∧
      (((responder 7 {}).run patient).step (.update (.ofSeconds 1) 15)).current = none :=
  have obeys : (Ledger.opening (responder 7 {} : Session Nat)).obeys patient = true := by
    decide +kernel
  have probes := run_probes (.responder 7 {}) patient obeys
  ⟨obeys, (probes.outstanding 13).mp (by decide +kernel),
    probes.drops (.ofSeconds 1) 15 (by decide +kernel)⟩

end Session

end ResumableSession
