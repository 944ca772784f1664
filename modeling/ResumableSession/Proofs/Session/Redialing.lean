import ResumableSession.Proofs.Session.LineFates
import ResumableSession.Proofs.Session.Offline
import ResumableSession.Proofs.Session.Receipts
import Mathlib.Data.List.Chain

/-!
# How a lost line is asked for again

A connecting side without a line is always waiting for one of two things: for its last
request to be answered, or for the pause after a loss or a failure to be over.  When the
wait has taken its time, the next update asks for a line.  With a line bound nothing is
waited for and nothing is asked.
-/

namespace ResumableSession

/-- What a connecting side without a line waits for. -/
structure Pause where
  /-- Whether it waits for the answer to a request; if not, it only lets time pass. -/
  trying : Bool
  /-- How long it has waited, in nanoseconds. -/
  spent : Nat

namespace Pause

/-- How long the wait takes. -/
def limit (pause : Pause) (limits : RebindLimits) : Duration :=
  if pause.trying then limits.timeout else limits.cooltime

/-- The timer of the attempt. -/
def rebind (pause : Pause) : Timer :=
  if pause.trying then .running (.ofNanos pause.spent) else .stopped

/-- The timer between attempts. -/
def cooltime (pause : Pause) : Timer :=
  if pause.trying then .stopped else .running (.ofNanos pause.spent)

/-- A request starts a wait for its answer, and the loss of a line or of an attempt
starts a pause.  Otherwise time passes. -/
def next (pause : Pause) (asks loses : Bool) (time : Nat) : Pause :=
  if asks then ⟨true, 0⟩
  else if loses then ⟨false, 0⟩
  else { pause with spent := pause.spent + time }

private theorem advance_rebind (pause : Pause) (time : Duration) :
    pause.rebind.advance time = (pause.next false false time.nanos).rebind := by
  obtain ⟨trying, spent⟩ := pause
  cases trying
  · rfl
  · exact Timer.advance_running spent time

private theorem advance_cooltime (pause : Pause) (time : Duration) :
    pause.cooltime.advance time = (pause.next false false time.nanos).cooltime := by
  obtain ⟨trying, spent⟩ := pause
  cases trying
  · exact Timer.advance_running spent time
  · rfl

theorem reached (pause : Pause) (limits : RebindLimits) (time : Duration) :
    ((pause.rebind.advance time).reached limits.timeout ||
        (pause.cooltime.advance time).reached limits.cooltime) = true ↔
      (pause.limit limits).nanos ≤ pause.spent + time.nanos := by
  obtain ⟨trying, spent⟩ := pause
  cases trying
  · have idle : (Timer.stopped.advance time).reached limits.timeout = false := rfl
    simp only [rebind, cooltime, limit, Bool.false_eq_true, if_false, idle, Bool.false_or]
    rw [Timer.advance_running, Timer.reached_running]
  · have idle : (Timer.stopped.advance time).reached limits.cooltime = false := rfl
    simp only [rebind, cooltime, limit, if_true, idle, Bool.or_false]
    rw [Timer.advance_running, Timer.reached_running]

theorem runs (pause : Pause) : pause.rebind.isRunning = !pause.cooltime.isRunning := by
  obtain ⟨trying, spent⟩ := pause
  cases trying <;> rfl

private theorem spent_next_le (pause : Pause) (asks loses : Bool) (time : Nat) :
    (pause.next asks loses time).spent ≤ pause.spent + time := by
  cases asks <;> cases loses <;> simp [next]

private theorem limit_le (pause : Pause) (limits : RebindLimits) :
    min limits.timeout.nanos limits.cooltime.nanos ≤ (pause.limit limits).nanos := by
  unfold limit
  split
  · exact Nat.min_le_left _ _
  · exact Nat.min_le_right _ _

end Pause

namespace Liveness

theorem tickRebind_snd (liveness : Liveness) {limits : RebindLimits}
    (paced : liveness.rebindLimits = some limits) (time : Duration) :
    (liveness.tickRebind time).2 =
      ((liveness.rebind.advance time).reached limits.timeout ||
        (liveness.cooltime.advance time).reached limits.cooltime) := by
  simp only [tickRebind, paced]
  split
  · next due => exact due.symm
  · next resting => exact (Bool.eq_false_iff.mpr resting).symm

theorem Elapsed.rebinding {before after : Liveness} {time : Duration}
    {probes : List LivenessEvent} (elapsed : Elapsed before time after probes)
    {limits : RebindLimits} (paced : before.rebindLimits = some limits) :
    after.rebind = before.rebind.advance time ∧
      after.cooltime = before.cooltime.advance time := by
  have resting := elapsed.resting
  have undue : (before.tickRebind time).2 = false := congrArg Prod.snd resting
  rw [tickRebind_snd before paced] at undue
  simp only [tickRebind, paced, undue, Bool.false_eq_true, if_false, Prod.mk.injEq,
    and_true] at resting
  exact ⟨(congrArg Liveness.rebind resting).symm, (congrArg Liveness.cooltime resting).symm⟩

end Liveness

namespace Session

variable {P : Type}

/-! ## Requests -/

/-- An input brings a request for a line. -/
def asks (session : Session P) (input : Input P) : Bool :=
  !(dialedIn (session.toldBy input)).isEmpty

/-- Time has come to ask for a line. -/
def redials (session : Session P) : Input P → Bool
  | .update time _ =>
      session.phase ≠ .closed &&
        !(session.liveness.offline.advance time).reached
          session.liveness.settings.offlineTimeout &&
        (session.liveness.tickRebind time).2
  | _ => false

/-- A line is accepted. -/
def attaches : Input P → Bool
  | .attachCreated _ | .attachRebind _ _ => true
  | _ => false

variable {session shifted after settled : Session P}

/-- A request counts lines on from the last one. -/
structure Numbers (session : Session P) (input : Input P) (told : List (Output P))
    (after : Session P) : Prop where
  dialed : dialedIn told =
    if session.redials input then
      [.rebind session.sessionId (session.lastLineIndex + 1) session.delivery.lastRecvId]
    else []
  index : attaches input = false → after.lastLineIndex =
    if session.redials input then session.lastLineIndex + 1 else session.lastLineIndex

private theorem numbers_silent {input : Input P} (undue : session.redials input = false)
    {told : List (Output P)} (undialed : dialedIn told = [])
    (index : attaches input = false → after.lastLineIndex = session.lastLineIndex) :
    Numbers session input told after := by
  constructor
  · rw [undialed, undue]
    rfl
  · rw [undue]
    exact index

theorem Passes.numbers {time : Duration} {clock : UInt32}
    (passes : Passes session time clock settled) (running : session.phase ≠ .closed) :
    ∃ told, settled.outputs = session.outputs ++ told ∧
      Numbers session (.update time clock) told settled := by
  have undue {liveness : Liveness} {probes : List LivenessEvent}
      (elapsed : session.liveness.Elapsed time liveness probes) :
      session.redials (.update time clock) = false := by
    simp [redials, elapsed.resting]
  have index {liveness : Liveness} {probes : List LivenessEvent}
      (elapsed : session.liveness.Elapsed time liveness probes) :
      (probes.foldl (onDue clock) { session with liveness }).lastLineIndex =
        session.lastLineIndex := by
    rcases foldl_probes elapsed running clock with same | pinged | dropped
    · rw [same]
    · rw [pinged, sendPing_eq]
    · rw [dropped, dropLine_eq]
      split <;> rfl
  cases passes with
  | expired due =>
      refine ⟨[.closed .offlineTimeout], by rw [terminate_eq], ?_⟩
      apply numbers_silent _ rfl
      · rw [terminate_eq]
        exact fun _ => rfl
      · simp [redials, due]
  | @dials limits lasts paced due =>
      have isDue : session.redials (.update time clock) = true := by
        rw [redials, session.liveness.tickRebind_snd paced]
        simp [running, lasts, due]
      rw [startRebind_eq]
      refine ⟨_, rfl, ?_, fun _ => ?_⟩
      · rw [isDue]
        rfl
      · rw [isDue]
        rfl
  | elapsed elapsed lasts =>
      refine ⟨[], ?_, numbers_silent (undue elapsed) rfl fun _ => index elapsed⟩
      rw [(spares_probes elapsed running clock).outputs, List.append_nil]
  | ended elapsed due lingered =>
      refine ⟨[.closeStateChanged .closed, .closed .graceful], ?_, ?_⟩
      · rw [endGracefully_eq]
        exact congrArg (· ++ _) (spares_probes elapsed running clock).outputs
      · apply numbers_silent (undue elapsed) rfl
        intro _
        rw [endGracefully_eq, terminate_eq]
        exact index elapsed

theorem Shifts.numbers {input : Input P} (shifts : Shifts session input shifted) :
    ∃ told, shifted.outputs = session.outputs ++ told ∧ Numbers session input told shifted := by
  have timelessly (timeless : input.isUpdate = false) : session.redials input = false := by
    cases input <;> first | rfl | cases timeless
  have quiet (undue : session.redials input = false)
      (outputs : shifted.outputs = session.outputs)
      (index : attaches input = false → shifted.lastLineIndex = session.lastLineIndex) :
      ∃ told, shifted.outputs = session.outputs ++ told ∧ Numbers session input told shifted :=
    ⟨[], by rw [outputs, List.append_nil], numbers_silent undue rfl index⟩
  cases shifts with
  | still timeless => exact quiet (timelessly timeless) rfl fun _ => rfl
  | late isOver => exact quiet (by simp [redials, isOver]) rfl fun _ => rfl
  | released timeless => exact quiet (timelessly timeless) rfl fun _ => rfl
  | lost timeless bound running => exact quiet (timelessly timeless) rfl fun _ => rfl
  | bound sessionId greets marked =>
      apply quiet
      · cases greets <;> rfl
      · rfl
      · cases greets with
        | created shaking connecting => exact fun _ => rfl
        | rebound shaking connected checked => exact fun _ => rfl
        | attachCreated connecting => exact nofun
        | attachRebind connected current checked => exact nofun
  | @forced reason running =>
      refine ⟨[.closed reason], by rw [terminate_eq], numbers_silent rfl rfl fun _ => ?_⟩
      rw [terminate_eq]
  | passes running passes => exact passes.numbers running
  | _ => exact quiet rfl rfl fun _ => rfl

private theorem numbers_step (session : Session P) (input : Input P) :
    Numbers session input (session.toldBy input) (session.step input) := by
  obtain ⟨shifted, shifts, rests⟩ := session.shifts_step input
  obtain ⟨told, outputs, numbers⟩ := shifts.numbers
  obtain ⟨later, toldBy, undialed, -⟩ := rests.toldBy_eq outputs
  constructor
  · rw [toldBy, dialedIn_append, undialed, List.append_nil]
    exact numbers.dialed
  · intro unattached
    exact rests.index.trans (numbers.index unattached)

private theorem asks_eq (session : Session P) (input : Input P) :
    session.asks input = session.redials input := by
  rw [asks, (session.numbers_step input).dialed]
  split
  · next due => exact due.symm
  · next undue => exact (Bool.eq_false_iff.mpr undue).symm

/-! ## Waiting -/

/-- What a session waits for after some inputs, if for `pause` before them. -/
def pauseFrom (pause : Pause) (session : Session P) : List (Input P) → Pause
  | [] => pause
  | input :: inputs =>
      pauseFrom
        (pause.next (session.asks input)
          (session.current.isSome || !(session.goneBy input).isEmpty) input.elapsed)
        (session.step input) inputs

/-- What a session waits for at the end of a run. -/
def pause (session : Session P) (inputs : List (Input P)) : Pause :=
  pauseFrom ⟨false, 0⟩ session inputs

/-- The timers of rebinding hold what a session without a line waits for, and stand still
in every other one. -/
structure Paced (limits : RebindLimits) (pause : Pause) (session : Session P) : Prop where
  limits : session.liveness.rebindLimits = some limits
  resting : session.phase = .connecting ∨ session.current.isSome →
    session.liveness.rebind = .stopped ∧ session.liveness.cooltime = .stopped
  waiting : session.phase = .connected → session.current = none →
    session.liveness.rebind = pause.rebind ∧ session.liveness.cooltime = pause.cooltime

namespace Paced

variable {limits : RebindLimits} {pause pause' : Pause} {time : Duration} {clock : UInt32}

theorem of_same (paced : Paced limits pause session)
    (kept : session.current = none → pause' = pause) (phase : after.phase = session.phase)
    (current : after.current = session.current)
    (rebindLimits : after.liveness.rebindLimits = session.liveness.rebindLimits)
    (rebind : after.liveness.rebind = session.liveness.rebind)
    (cooltime : after.liveness.cooltime = session.liveness.cooltime) :
    Paced limits pause' after := by
  constructor
  · exact rebindLimits.trans paced.limits
  · rw [phase, current, rebind, cooltime]
    exact paced.resting
  · rw [phase, current, rebind, cooltime]
    intro connected unbound
    rw [kept unbound]
    exact paced.waiting connected unbound

theorem of_over (ended : Over after) (rebindLimits : after.liveness.rebindLimits = some limits) :
    Paced limits pause after where
  limits := rebindLimits
  resting := by simp [ended.phase, ended.current]
  waiting := by simp [ended.phase]

theorem rests (paced : Paced limits pause session) (rests : Rests session after) :
    Paced limits pause after := by
  rcases rests.course with abides | ended
  · apply paced.of_same (fun _ => rfl) abides.phase abides.current <;> rw [abides.liveness]
  · exact of_over ended (rests.limits.trans paced.limits)

theorem terminate (paced : Paced limits pause session) (reason : CloseReason) :
    Paced limits pause' (session.terminate reason) := by
  refine of_over (over_terminate _ _) ?_
  rw [terminate_eq]
  exact paced.limits

theorem lineLost (paced : Paced limits pause session) (running : session.phase ≠ .connecting) :
    Paced limits ⟨false, 0⟩ session.lineLost := by
  constructor
  · exact paced.limits
  · rintro (connecting | bound)
    · exact absurd connecting running
    · cases bound
  · intro _ _
    simp [Session.lineLost, Liveness.lineLost, paced.limits, Pause.rebind, Pause.cooltime,
      Timer.started, Duration.zero]

theorem advance (paced : Paced limits pause session) {liveness : Liveness}
    (rebindLimits : liveness.rebindLimits = session.liveness.rebindLimits)
    (rebind : liveness.rebind = session.liveness.rebind.advance time)
    (cooltime : liveness.cooltime = session.liveness.cooltime.advance time) :
    Paced limits (pause.next false session.current.isSome time.nanos)
      { session with liveness } := by
  constructor
  · exact rebindLimits.trans paced.limits
  · intro resting
    obtain ⟨stopped, stopped'⟩ := paced.resting resting
    simp only [rebind, cooltime, stopped, stopped']
    exact ⟨rfl, rfl⟩
  · intro connected unbound
    obtain ⟨waits, waits'⟩ := paced.waiting connected unbound
    have none : session.current = none := unbound
    simp only [rebind, cooltime, waits, waits', none, Option.isSome_none]
    exact ⟨pause.advance_rebind time, pause.advance_cooltime time⟩

/-- A request is due for a session without a line that has waited long enough. -/
theorem due (paced : Paced limits pause session) (running : session.phase ≠ .closed)
    (time : Duration) :
    (session.liveness.tickRebind time).2 = true ↔
      session.phase = .connected ∧ session.current = none ∧
        (pause.limit limits).nanos ≤ pause.spent + time.nanos := by
  rw [session.liveness.tickRebind_snd paced.limits]
  by_cases resting : session.phase = .connecting ∨ session.current.isSome
  · obtain ⟨stopped, stopped'⟩ := paced.resting resting
    rw [stopped, stopped']
    refine iff_of_false Bool.false_ne_true fun ⟨connected, unbound, _⟩ => ?_
    simp [connected, unbound] at resting
  · obtain ⟨created, unbound⟩ := not_or.mp resting
    have connected : session.phase = .connected := by
      cases phase : session.phase <;> simp_all
    have none : session.current = none := by simpa using unbound
    obtain ⟨waits, waits'⟩ := paced.waiting connected none
    rw [waits, waits', pause.reached]
    simp [connected, none]

theorem probed (paced : Paced limits pause session) (bound : session.current.isSome →
      session.phase = .connected) (running : session.phase ≠ .closed) {liveness : Liveness}
    {probes : List LivenessEvent} (elapsed : session.liveness.Elapsed time liveness probes) :
    Paced limits (pause.next false session.current.isSome time.nanos)
      (probes.foldl (onDue clock) { session with liveness }) := by
  obtain ⟨rebind, cooltime⟩ := elapsed.rebinding paced.limits
  have moved := paced.advance elapsed.limits rebind cooltime
  rcases foldl_probes elapsed running clock with same | pinged | dropped
  · rw [same]
    exact moved
  · rw [pinged, sendPing_eq]
    exact moved.of_same (fun _ => rfl) rfl rfl rfl rfl rfl
  · rw [dropped, dropLine_eq]
    cases current : session.current with
    | none =>
        rw [current] at moved
        exact moved
    | some line =>
        have isBound : session.current.isSome := by simp [current]
        rw [isBound] at moved
        refine (moved.lineLost ?_).of_same (fun _ => rfl) rfl rfl rfl rfl rfl
        simp [bound isBound]

theorem passes (paced : Paced limits pause session)
    (bound : session.current.isSome → session.phase = .connected)
    (running : session.phase ≠ .closed) (passes : Passes session time clock settled) :
    Paced limits
      (pause.next (session.redials (.update time clock)) session.current.isSome time.nanos)
      settled := by
  have undue {liveness : Liveness} {probes : List LivenessEvent}
      (elapsed : session.liveness.Elapsed time liveness probes) :
      session.redials (.update time clock) = false := by
    simp [redials, elapsed.resting]
  cases passes with
  | expired due => exact of_over (over_terminate _ _) (by rw [terminate_eq]; exact paced.limits)
  | @dials limits' lasts paced' due =>
      have isDue : (session.liveness.tickRebind time).2 = true := by
        rw [session.liveness.tickRebind_snd paced']
        simpa using due
      obtain ⟨connected, unbound, _⟩ := (paced.due running time).mp isDue
      have redials : session.redials (.update time clock) = true := by
        simp [Session.redials, running, lasts, isDue]
      rw [redials, startRebind_eq]
      constructor
      · exact paced.limits
      · simp [connected, unbound]
      · exact fun _ _ => ⟨rfl, rfl⟩
  | elapsed elapsed lasts =>
      rw [undue elapsed]
      exact paced.probed bound running elapsed
  | ended elapsed due lingered =>
      rw [undue elapsed]
      exact (paced.probed bound running elapsed).rests (rests_endGracefully _ _)

theorem shifts {input : Input P} (paced : Paced limits pause session)
    (bound : session.current.isSome → session.phase = .connected)
    (shifts : Shifts session input shifted) (elsewhere : ∀ line, input ≠ .lineClosed line) :
    Paced limits
      (pause.next (session.redials input) session.current.isSome input.elapsed) shifted := by
  have kept (timeless : input.isUpdate = false) (unbound : session.current = none) :
      pause.next (session.redials input) session.current.isSome input.elapsed = pause := by
    have undue : session.redials input = false := by
      cases input <;> first | rfl | cases timeless
    rw [undue, unbound, Input.elapsed_eq_zero timeless]
    rfl
  cases shifts with
  | still timeless => exact paced.of_same (kept timeless) rfl rfl rfl rfl rfl
  | late isOver =>
      refine ⟨paced.limits, fun resting => paced.resting resting, fun connected => ?_⟩
      simp [isOver] at connected
  | released timeless => exact paced.of_same (kept timeless) rfl rfl rfl rfl rfl
  | forgotten isOver => exact absurd rfl (elsewhere _)
  | dialed running => exact paced.of_same (kept rfl) rfl rfl rfl rfl rfl
  | failed shaking connected => exact absurd rfl (elsewhere _)
  | lost timeless isBound running =>
      have undue : session.redials input = false := by
        cases input <;> first | rfl | cases timeless
      rw [undue, isBound]
      exact paced.lineLost (by simp [bound isBound])
  | measured =>
      have same : session.liveness.aliveConfirmed.rebindLimits = session.liveness.rebindLimits ∧
          session.liveness.aliveConfirmed.rebind = session.liveness.rebind ∧
          session.liveness.aliveConfirmed.cooltime = session.liveness.cooltime := by
        unfold Liveness.aliveConfirmed
        split <;> exact ⟨rfl, rfl, rfl⟩
      exact paced.of_same (kept rfl) rfl rfl same.1 same.2.1 same.2.2
  | received isBound running next => exact paced.of_same (kept rfl) rfl rfl rfl rfl rfl
  | lingers isBound running next entered fresh =>
      exact paced.of_same (kept rfl) rfl rfl rfl rfl rfl
  | bound sessionId greets marked =>
      refine ⟨paced.limits, fun _ => ⟨rfl, rfl⟩, fun _ unbound => ?_⟩
      cases unbound
  | forced running => exact paced.terminate _
  | passes running passes => exact paced.passes bound running passes

/-- A line that is gone is lost, or the attempt that it was dialed for has failed. -/
theorem lineClosed (paced : Paced limits pause session)
    (bound : session.current.isSome → session.phase = .connected)
    (apart : session.pending.isSome → session.current = none) (line : LineId) :
    Paced limits
      (pause.next false
        (session.current.isSome || !(session.goneBy (.lineClosed line)).isEmpty) 0)
      (session.onLineClosed line) := by
  unfold onLineClosed
  split
  · next shaking =>
      have gone : session.goneBy (.lineClosed line) = [line] := if_pos (.inl shaking)
      have fails : (session.current.isSome || !(session.goneBy (.lineClosed line)).isEmpty) =
          true := by
        rw [gone]
        exact Bool.or_true _
      have unbound : session.current = none := apart (isSome_of_id shaking)
      have released : Paced limits pause { session with pending := none } :=
        paced.of_same (fun _ => rfl) rfl rfl rfl rfl rfl
      rw [fails]
      simp only
      split
      · exact released.terminate _
      · next connected =>
          refine ⟨paced.limits, ?_, fun _ _ => ⟨rfl, rfl⟩⟩
          simp [connected, unbound]
      · next isOver =>
          refine ⟨paced.limits, ?_, ?_⟩
          · simp [isOver, unbound]
          · simp [isOver]
  · next other =>
      split
      · next current =>
          have isBound : session.current.isSome := isSome_of_id current
          rw [isBound, if_neg (by simp [bound isBound])]
          exact paced.lineLost (by simp [bound isBound])
      · next strange =>
          have kept : session.goneBy (.lineClosed line) = [] :=
            if_neg (not_or.mpr ⟨other, strange⟩)
          refine paced.of_same (fun unbound => ?_) rfl rfl rfl rfl rfl
          rw [kept, unbound]
          rfl

theorem step (paced : Paced limits pause session)
    (bound : session.current.isSome → session.phase = .connected)
    (apart : session.pending.isSome → session.current = none) (input : Input P) :
    Paced limits
      (pause.next (session.asks input)
        (session.current.isSome || !(session.goneBy input).isEmpty) input.elapsed)
      (session.step input) := by
  rw [asks_eq]
  by_cases reported : ∃ line, input = .lineClosed line
  · obtain ⟨line, rfl⟩ := reported
    exact paced.lineClosed bound apart line
  · have elsewhere : ∀ line, input ≠ .lineClosed line := not_exists.mp reported
    have kept : session.goneBy input = [] := by
      cases input <;> first | rfl | exact absurd rfl (elsewhere _)
    obtain ⟨shifted, shifts, rests⟩ := session.shifts_step input
    rw [kept, List.isEmpty_nil, Bool.not_true, Bool.or_false]
    exact (paced.shifts bound shifts elsewhere).rests rests

/-- In an update in which a request is due, a session ends only for want of a line. -/
theorem ends_iff (running : session.phase ≠ .closed)
    (due : (session.liveness.tickRebind time).2 = true) :
    (session.step (.update time clock)).phase = .closed ↔
      (session.liveness.offline.advance time).reached
        session.liveness.settings.offlineTimeout = true := by
  obtain ⟨settled, passes, phase, -⟩ := update_passes running time clock
  have stepped : (session.step (.update time clock)).phase = settled.phase := phase
  rw [stepped]
  cases passes with
  | expired expires => exact iff_of_true (over_terminate _ _).phase expires
  | dials lasts paced requested =>
      rw [startRebind_eq, lasts]
      exact iff_of_false running Bool.false_ne_true
  | elapsed elapsed lasts =>
      rw [elapsed.resting] at due
      cases due
  | ended elapsed expires lingered =>
      rw [elapsed.resting] at due
      cases due

/-- A line is asked for in an update that ends the wait and not the session. -/
theorem asks_iff (paced : Paced limits pause session) (input : Input P) :
    session.asks input = true ↔
      input.isUpdate = true ∧ session.phase = .connected ∧ session.current = none ∧
        (pause.limit limits).nanos ≤ pause.spent + input.elapsed ∧
        (session.step input).phase ≠ .closed := by
  rw [asks_eq]
  cases input with
  | update time clock =>
      by_cases isOver : session.phase = .closed
      · simp [redials, isOver]
      · have due := paced.due isOver time
        constructor
        · intro redials
          simp only [Session.redials, Bool.and_eq_true, Bool.not_eq_true'] at redials
          obtain ⟨⟨-, lasts⟩, isDue⟩ := redials
          obtain ⟨connected, unbound, enough⟩ := due.mp isDue
          refine ⟨rfl, connected, unbound, enough, ?_⟩
          rw [ne_eq, ends_iff isOver isDue, lasts]
          exact Bool.false_ne_true
        · rintro ⟨-, connected, unbound, enough, open_⟩
          have isDue := due.mpr ⟨connected, unbound, enough⟩
          rw [ne_eq, ends_iff isOver isDue] at open_
          simp [redials, connected, open_, isDue]
  | _ => simp [redials, Input.isUpdate]

end Paced

theorem pauseFrom_append (inputs later : List (Input P)) :
    ∀ (pause : Pause) (session : Session P), pauseFrom pause session (inputs ++ later) =
      pauseFrom (pauseFrom pause session inputs) (session.run inputs) later := by
  induction inputs with
  | nil => exact fun _ _ => rfl
  | cons input inputs induction => exact fun _ session => induction _ (session.step input)

private theorem spent_pauseFrom_le (inputs : List (Input P)) :
    ∀ (pause : Pause) (session : Session P),
      (pauseFrom pause session inputs).spent ≤ pause.spent + timePassed inputs := by
  induction inputs with
  | nil => exact fun _ _ => Nat.le_refl _
  | cons input inputs induction =>
      intro pause session
      have first := pause.spent_next_le (session.asks input)
        (session.current.isSome || !(session.goneBy input).isEmpty) input.elapsed
      have rest := induction
        (pause.next (session.asks input)
          (session.current.isSome || !(session.goneBy input).isEmpty) input.elapsed)
        (session.step input)
      calc
        _ ≤ _ := rest
        _ ≤ pause.spent + input.elapsed + timePassed inputs := Nat.add_le_add_right first _
        _ = _ := Nat.add_assoc _ _ _

/-- After a request the wait is shorter than the time that passes. -/
theorem spent_pause_le (start : Session P) (earlier between : List (Input P)) {first : Input P}
    (asked : (start.run earlier).asks first = true) :
    (start.pause (earlier ++ first :: between)).spent ≤ timePassed between := by
  rw [pause, pauseFrom_append, pauseFrom, asked]
  have bounded := spent_pauseFrom_le between ⟨true, 0⟩ ((start.run earlier).step first)
  rwa [Nat.zero_add] at bounded

theorem asksIn_append (earlier later : List (Output P)) :
    asksIn (earlier ++ later) = asksIn earlier ++ asksIn later := by
  rw [asksIn, dialedIn_append, List.filterMap_append]
  rfl

private theorem outputs_step (session : Session P) (input : Input P) :
    (session.step input).outputs = session.outputs ++ session.toldBy input := by
  obtain ⟨_, outputs, _, told, _⟩ := handles_step session input
  rw [toldBy, told, List.drop_left]

end Session

/-! ## Runs -/

namespace Ledger

open Session

variable {P : Type} {limits : RebindLimits} {first : UInt32} {pause : Pause} {ledger : Ledger P}

theorem obeys_append (inputs later : List (Input P)) :
    ∀ ledger : Ledger P,
      ledger.obeys (inputs ++ later) =
        (ledger.obeys inputs && (ledger.takeAll inputs).obeys later) := by
  induction inputs with
  | nil => exact fun _ => rfl
  | cons input inputs induction =>
      intro ledger
      rw [List.cons_append, obeys, obeys, induction, Bool.and_assoc]
      rfl

/-- A connecting side whose owner keeps to the rules: its timers hold what it waits for,
its requests count lines on from the first one, and an attempt is pending only while the
last request stands. -/
structure Redialing (limits : RebindLimits) (first : UInt32) (pause : Pause)
    (ledger : Ledger P) : Prop where
  sound : ledger.Sound
  paced : Paced limits pause ledger.session
  numbered : (first :: (dialedIn ledger.session.outputs).map Handshake.lineIndex).IsChain
    fun earlier later => later = earlier + 1
  latest : (first :: (dialedIn ledger.session.outputs).map Handshake.lineIndex).getLast? =
    some ledger.session.lastLineIndex
  answered : ∀ ack, ledger.asked = some ack →
    (asksIn ledger.session.outputs).getLast? = some ack
  requested : ledger.session.phase = .connected → ledger.session.pending.isSome →
    ledger.asked.isSome

theorem Sound.bound (sound : ledger.Sound) (isBound : ledger.session.current.isSome) :
    ledger.session.phase = .connected := by
  obtain ⟨line, current⟩ := Option.isSome_iff_exists.mp isBound
  exact (sound.honest.bound line current).1

theorem Sound.apart (sound : ledger.Sound) (shaking : ledger.session.pending.isSome) :
    ledger.session.current = none := by
  obtain ⟨line, pending⟩ := Option.isSome_iff_exists.mp shaking
  exact (sound.honest.shaking line pending).1

namespace Redialing

private theorem unattached (redialing : Redialing limits first pause ledger) {input : Input P}
    (allowed : ledger.allows input = true) : attaches input = false := by
  have initiates : ledger.session.role = .initiator :=
    redialing.sound.honest.connects (.inr (by rw [redialing.paced.limits]; rfl))
  cases input with
  | attachCreated line | attachRebind line clientAck =>
      rw [of_decide_eq_true allowed] at initiates
      cases initiates
  | _ => rfl

/-- An attempt that is pending after a step was so before, or was dialed just now. -/
theorem pending_step (redialing : Redialing limits first pause ledger) {input : Input P}
    (allowed : ledger.allows input = true)
    (connected : (ledger.session.step input).phase = .connected)
    (shaking : (ledger.session.step input).pending.isSome) : ledger.asked.isSome := by
  obtain ⟨shifted, shifts, rests⟩ := ledger.session.shifts_step input
  have unbound : (ledger.session.step input).current = none :=
    (redialing.sound.take allowed).apart shaking
  rcases rests.course with abides | ended
  · rw [abides.pending] at shaking
    rw [abides.phase] at connected
    rw [abides.current] at unbound
    cases shifts with
    | released timeless => cases shaking
    | dialed running => exact allowed
    | failed pending connected => cases shaking
    | bound sessionId greets marked => cases unbound
    | forced running => rw [(over_terminate _ _).pending] at shaking; cases shaking
    | passes running passes =>
        have fades := passes.fades running
        refine redialing.requested ?_ ?_
        · rcases fades.phase with same | isOver
          · exact same.symm.trans connected
          · rw [isOver] at connected
            cases connected
        · rcases fades.pending with none | same
          · rw [none] at shaking
            cases shaking
          · exact same ▸ shaking
    | _ => exact redialing.requested connected shaking
  · rw [ended.pending] at shaking
    cases shaking

theorem take (redialing : Redialing limits first pause ledger) {input : Input P}
    (allowed : ledger.allows input = true) :
    Redialing limits first
      (pause.next (ledger.session.asks input)
        (ledger.session.current.isSome || !(ledger.session.goneBy input).isEmpty) input.elapsed)
      (ledger.take input) := by
  have sound := redialing.sound.take allowed
  have numbers := ledger.session.numbers_step input
  have outputs := ledger.session.outputs_step input
  have stepped : (ledger.take input).session = ledger.session.step input := rfl
  constructor
  · exact sound
  · exact redialing.paced.step redialing.sound.bound redialing.sound.apart input
  · rw [stepped, outputs, dialedIn_append, numbers.dialed, List.map_append, ← List.cons_append]
    refine List.isChain_append.mpr ⟨redialing.numbered, ?_, ?_⟩
    · split
      · exact List.isChain_singleton _
      · exact List.isChain_nil
    · rw [redialing.latest]
      split <;> simp [Handshake.lineIndex]
  · rw [stepped, outputs, dialedIn_append, numbers.dialed, List.map_append, ← List.cons_append,
      List.getLast?_append, redialing.latest, numbers.index (redialing.unattached allowed)]
    split <;> rfl
  · intro ack asked
    rw [stepped, outputs, asksIn_append, List.getLast?_append]
    rw [Ledger.take] at asked
    simp only at asked
    split at asked
    · cases asked
    · cases latest : (asksIn (ledger.session.toldBy input)).getLast? with
      | some told =>
          rw [latest] at asked
          exact asked
      | none =>
          rw [latest] at asked
          exact redialing.answered ack asked
  · intro connected shaking
    have unbound := sound.apart shaking
    have standing := redialing.pending_step allowed connected shaking
    rw [stepped] at unbound
    rw [Ledger.take, if_neg (by rw [unbound]; exact Bool.false_ne_true), Option.isSome_or,
      standing, Bool.or_true]

end Redialing

theorem redialing_takeAll (inputs : List (Input P)) :
    ∀ {pause : Pause} {ledger : Ledger P}, Redialing limits first pause ledger →
      ledger.obeys inputs = true →
      Redialing limits first (pauseFrom pause ledger.session inputs) (ledger.takeAll inputs) := by
  induction inputs with
  | nil => exact fun redialing _ => redialing
  | cons input inputs induction =>
      intro pause ledger redialing obeys
      rw [Ledger.obeys, Bool.and_eq_true] at obeys
      exact induction (redialing.take obeys.1) obeys.2

theorem redialing_opening {start : Session P} (starts : start.Starts)
    (paced : start.liveness.rebindLimits = some limits) :
    Redialing limits start.lastLineIndex ⟨false, 0⟩ (opening start) := by
  have sound := sound_opening starts
  cases starts with
  | initiator settings limits creating =>
      refine ⟨sound, ⟨paced, fun _ => ⟨rfl, rfl⟩, nofun⟩, ?_, rfl, nofun, nofun⟩
      exact List.isChain_singleton _
  | responder sessionId settings => cases paced

end Ledger

namespace Session

open Ledger

variable {P : Type}

/-- How a connecting side without a line asks for the next one. -/
structure AsksAgain (limits : RebindLimits) (start : Session P) (inputs : List (Input P)) :
    Prop where
  apart : (start.run inputs).current = none ∨ (start.run inputs).pending = none
  bound : (start.run inputs).current.isSome →
    (start.run inputs).liveness.rebind = .stopped ∧
      (start.run inputs).liveness.cooltime = .stopped
  waiting : (start.run inputs).phase = .connected → (start.run inputs).current = none →
    (start.run inputs).liveness.rebind = (start.pause inputs).rebind ∧
      (start.run inputs).liveness.cooltime = (start.pause inputs).cooltime
  single : (start.run inputs).phase = .connected → (start.run inputs).current = none →
    (start.run inputs).liveness.rebind.isRunning =
      !(start.run inputs).liveness.cooltime.isRunning
  asks : ∀ input, (start.run inputs).asks input = true ↔
    input.isUpdate = true ∧ (start.run inputs).phase = .connected ∧
      (start.run inputs).current = none ∧
      ((start.pause inputs).limit limits).nanos ≤ (start.pause inputs).spent + input.elapsed ∧
      ((start.run inputs).step input).phase ≠ .closed
  request : ∀ input, (start.run inputs).asks input = true →
    dialedIn ((start.run inputs).toldBy input) =
      [.rebind (start.run inputs).sessionId ((start.run inputs).lastLineIndex + 1)
        (start.run inputs).delivery.lastRecvId]
  spaced : ∀ earlier first between next, inputs = earlier ++ first :: between →
    (start.run earlier).asks first = true → (start.run inputs).asks next = true →
    min limits.timeout.nanos limits.cooltime.nanos ≤ timePassed between + next.elapsed
  numbered :
    (start.lastLineIndex :: (dialedIn (start.run inputs).outputs).map
      Handshake.lineIndex).IsChain fun earlier later => later = earlier + 1
  current : (start.run inputs).phase = .connected →
    ∀ line, (start.run inputs).pending = some line →
      (asksIn (start.run inputs).outputs).getLast? =
          some (start.run inputs).delivery.lastRecvId ∧
        lastTold line.id ((opening start).takeAll inputs).given =
          some (start.run inputs).delivery.lastRecvId

/-- A connecting side whose owner dials only for requests that stand never has two lines
at once.  Without a line it waits for one thing at a time, asks when the wait is over and
at no other time, not too often, and counts the lines that it asks for.  An accepting
side never asks. -/
theorem run_redials {start : Session P} (starts : start.Starts) (inputs : List (Input P)) :
    (∀ limits, start.liveness.rebindLimits = some limits →
      (opening start).obeys inputs = true → start.AsksAgain limits inputs) ∧
    (start.role = .responder → dialedIn (start.run inputs).outputs = []) := by
  constructor
  · intro limits paced obeys
    have redialing := redialing_takeAll inputs (redialing_opening starts paced) obeys
    have session : ((opening start).takeAll inputs).session = start.run inputs :=
      session_takeAll inputs (opening start)
    have rebinding : Paced limits (start.pause inputs) (start.run inputs) :=
      session ▸ redialing.paced
    constructor
    · cases pending : (start.run inputs).pending with
      | none => exact .inr rfl
      | some line =>
          refine .inl (session ▸ redialing.sound.apart ?_)
          rw [session, pending]
          rfl
    · exact fun isBound => rebinding.resting (.inr isBound)
    · exact rebinding.waiting
    · intro connected unbound
      obtain ⟨rebind, cooltime⟩ := rebinding.waiting connected unbound
      rw [rebind, cooltime]
      exact (start.pause inputs).runs
    · exact rebinding.asks_iff
    · intro input asks
      rw [asks_eq] at asks
      rw [((start.run inputs).numbers_step input).dialed, if_pos asks]
    · rintro earlier first between next rfl asked asks
      obtain ⟨-, -, -, enough, -⟩ := (rebinding.asks_iff next).mp asks
      have short := start.spent_pause_le earlier between asked
      calc
        _ ≤ _ := (start.pause _).limit_le limits
        _ ≤ _ := enough
        _ ≤ _ := Nat.add_le_add_right short _
    · exact session ▸ redialing.numbered
    · intro connected line pending
      have told := (redialing.sound.honest.shaking line (session ▸ pending)).2
      have standing := redialing.requested (session ▸ connected) (by rw [session, pending]; rfl)
      obtain ⟨ack, asked⟩ := Option.isSome_iff_exists.mp standing
      have answered := redialing.answered ack asked
      obtain ⟨-, -, latest⟩ := redialing.sound.standing ack asked
      rw [session] at told answered latest
      exact ⟨answered.trans (congrArg some latest), told⟩
  · intro responds
    have unpaced : start.liveness.rebindLimits = none := by
      cases starts with
      | initiator settings limits creating => cases responds
      | responder sessionId settings => rfl
    obtain ⟨told, outputs, -, undialed⟩ := (tells_run start inputs).outputs
    rw [outputs, starts.outputs, List.nil_append]
    exact undialed unpaced

/-- A session that lost its creating line, and the one that it asked for after that. -/
def persistent : List (Input Nat) :=
  [.lineCreated ⟨0⟩ 7, .lineClosed ⟨0⟩, .update (.ofMillis 600) 0, .update (.ofMillis 400) 0,
    .bindPending ⟨⟨1⟩, 1⟩, .lineClosed ⟨1⟩, .update (.ofMillis 700) 0]

theorem persistent_redials :
    (opening (initiator {} {} ⟨⟨0⟩, 0⟩)).obeys persistent = true ∧
      ((initiator {} {} ⟨⟨0⟩, 0⟩).run persistent).asks (.update (.ofMillis 300) 0) = true ∧
      dialedIn ((responder 7 {}).run
        ([.attachCreated ⟨⟨0⟩, 0⟩, .lineClosed ⟨0⟩, .update (.ofSeconds 3) 0] :
          List (Input Nat))).outputs = [] :=
  have obeys : (opening (initiator {} {} ⟨⟨0⟩, 0⟩)).obeys persistent = true := by decide +kernel
  have redials := (run_redials (.initiator {} {} ⟨⟨0⟩, 0⟩) persistent).1 {} rfl obeys
  ⟨obeys, (redials.asks (.update (.ofMillis 300) 0)).mpr (by decide +kernel),
    (run_redials (.responder 7 {}) _).2 rfl⟩

end Session

end ResumableSession
