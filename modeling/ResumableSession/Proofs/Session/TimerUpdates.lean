import ResumableSession.Proofs.Session.Ticking

/-!
# What the passing of time comes to

A tick that finds the session without a line for too long stops there, and so does
one that asks for a line.  In every other tick all timers move.  An update acts on
what a tick finds due, and lets the peer know what was received afterwards.
-/

namespace ResumableSession

namespace Timer

/-- A timer that holds a sum of times, or the longest duration if that is less,
holds the next sum after more time. -/
theorem advance_running (nanos : Nat) (time : Duration) :
    (running (.ofNanos nanos)).advance time = running (.ofNanos (nanos + time.nanos)) := by
  have sums : Duration.ofNanos nanos + time = .ofNanos (nanos + time.nanos) := by
    ext
    rw [Duration.nanos_add]
    simp only [Duration.ofNanos]
    omega
  exact congrArg running sums

theorem reached_running (nanos : Nat) (limit : Duration) :
    (running (.ofNanos nanos)).reached limit = true ↔ limit.nanos ≤ nanos := by
  have bounded := limit.bounded
  have unfolded : (running (.ofNanos nanos)).reached limit =
      decide (limit.nanos ≤ min nanos Duration.maxNanos) := rfl
  rw [unfolded, decide_eq_true_eq, Duration.maxNanos]
  omega

end Timer

namespace Liveness

/-- All timers moved, and these events of probing became due. -/
structure Elapsed (before : Liveness) (time : Duration) (after : Liveness)
    (probes : List LivenessEvent) : Prop where
  settings : after.settings = before.settings
  limits : after.rebindLimits = before.rebindLimits
  lasts : (before.offline.advance time).reached before.settings.offlineTimeout = false
  offline : after.offline = before.offline.advance time
  resting : before.tickRebind time =
    ({ before with rebind := after.rebind, cooltime := after.cooltime }, false)
  probing : before.tickAlive time =
    ({ before with aliveCheck := after.aliveCheck, aliveWait := after.aliveWait }, probes)
  timeWait : after.timeWait =
    if (before.timeWait.advance time).reached before.settings.timeWaitTimeout then .stopped
    else before.timeWait.advance time

/-- What a tick makes of the timers, and what it finds due. -/
inductive Ticks (before : Liveness) (time : Duration) :
    Liveness → List LivenessEvent → Prop where
  | expired
      (due : (before.offline.advance time).reached before.settings.offlineTimeout = true) :
      Ticks before time { before with offline := .stopped } [.offlineExpired]
  | dials {limits : RebindLimits}
      (lasts : (before.offline.advance time).reached before.settings.offlineTimeout = false)
      (paced : before.rebindLimits = some limits)
      (due : (before.rebind.advance time).reached limits.timeout = true ∨
        (before.cooltime.advance time).reached limits.cooltime = true) :
      Ticks before time
        { before with
          offline := before.offline.advance time
          rebind := .started
          cooltime := .stopped }
        [.rebindDue]
  | elapsed {after : Liveness} {probes : List LivenessEvent}
      (elapsed : Elapsed before time after probes) :
      Ticks before time after
        (probes ++
          if (before.timeWait.advance time).reached before.settings.timeWaitTimeout then
            [.timeWaitExpired]
          else [])

section

variable (liveness : Liveness) (time : Duration)

private theorem tickAlive_eq :
    ∃ aliveCheck aliveWait probes, ∀ offline rebind cooltime timeWait,
      tickAlive { liveness with offline, rebind, cooltime, timeWait } time =
        ({ liveness with offline, rebind, cooltime, timeWait, aliveCheck, aliveWait },
          probes) := by
  unfold tickAlive
  simp only
  split
  · split
    · exact ⟨_, _, _, fun _ _ _ _ => rfl⟩
    · exact ⟨_, liveness.aliveWait, _, fun _ _ _ _ => rfl⟩
  · split
    · exact ⟨liveness.aliveCheck, _, _, fun _ _ _ _ => rfl⟩
    · exact ⟨liveness.aliveCheck, _, _, fun _ _ _ _ => rfl⟩

theorem tickAlive_probes :
    (liveness.tickAlive time).2 = [] ∨ (liveness.tickAlive time).2 = [.sendPing] ∨
      (liveness.tickAlive time).2 = [.aliveWaitExpired] := by
  unfold tickAlive
  simp only
  split <;> split <;> simp

/-- Without limits the timers of rebind attempts stand still.  Otherwise both move,
unless the next attempt starts. -/
theorem tickRebind_eq :
    (∃ rebind cooltime, ∀ offline, tickRebind { liveness with offline } time =
      ({ liveness with offline, rebind, cooltime }, false)) ∨
      ∃ limits, liveness.rebindLimits = some limits ∧
        ((liveness.rebind.advance time).reached limits.timeout = true ∨
          (liveness.cooltime.advance time).reached limits.cooltime = true) ∧
        ∀ offline, tickRebind { liveness with offline } time =
          ({ liveness with offline, rebind := .started, cooltime := .stopped }, true) := by
  unfold tickRebind
  cases paced : liveness.rebindLimits with
  | none => exact .inl ⟨liveness.rebind, liveness.cooltime, fun _ => rfl⟩
  | some limits =>
      simp only
      split
      · next due => exact .inr ⟨limits, rfl, by simpa using due, fun _ => rfl⟩
      · exact .inl ⟨_, _, fun _ => rfl⟩

private theorem tickTimeWait_eq :
    liveness.tickTimeWait time =
      ({ liveness with
          timeWait :=
            if (liveness.timeWait.advance time).reached liveness.settings.timeWaitTimeout
            then .stopped else liveness.timeWait.advance time },
        if (liveness.timeWait.advance time).reached liveness.settings.timeWaitTimeout then
          [.timeWaitExpired]
        else []) := by
  unfold tickTimeWait
  simp only
  split <;> rfl

/-- What every tick comes to. -/
theorem ticks_tick : Ticks liveness time (liveness.tick time).1 (liveness.tick time).2 := by
  unfold tick
  simp only
  split
  · next due => exact .expired due
  · next lasts =>
      rw [Bool.not_eq_true] at lasts
      rcases liveness.tickRebind_eq time with
        ⟨rebind, cooltime, resting⟩ | ⟨limits, paced, due, dials⟩
      · obtain ⟨aliveCheck, aliveWait, probes, probing⟩ := liveness.tickAlive_eq time
        simp only [resting, probing, tickTimeWait_eq]
        exact .elapsed
          { settings := rfl
            limits := rfl
            lasts
            offline := rfl
            resting := resting liveness.offline
            probing := probing liveness.offline liveness.rebind liveness.cooltime
              liveness.timeWait
            timeWait := rfl }
      · rw [dials]
        exact .dials lasts paced due

end

end Liveness

namespace Session

variable {P : Type}

/-- What time makes of a session, before the peer is told what was received. -/
inductive Passes (before : Session P) (time : Duration) (clock : UInt32) :
    Session P → Prop where
  | expired
      (due : (before.liveness.offline.advance time).reached
        before.liveness.settings.offlineTimeout = true) :
      Passes before time clock
        (terminate { before with liveness := { before.liveness with offline := .stopped } }
          .offlineTimeout)
  | dials {limits : RebindLimits}
      (lasts : (before.liveness.offline.advance time).reached
        before.liveness.settings.offlineTimeout = false)
      (paced : before.liveness.rebindLimits = some limits)
      (due : (before.liveness.rebind.advance time).reached limits.timeout = true ∨
        (before.liveness.cooltime.advance time).reached limits.cooltime = true) :
      Passes before time clock
        (startRebind
          { before with
            liveness :=
              { before.liveness with
                offline := before.liveness.offline.advance time
                rebind := .started
                cooltime := .stopped } })
  | elapsed {liveness : Liveness} {probes : List LivenessEvent}
      (elapsed : before.liveness.Elapsed time liveness probes)
      (lasts : (before.liveness.timeWait.advance time).reached
          before.liveness.settings.timeWaitTimeout = true →
        before.closing.state ≠ .timeWait) :
      Passes before time clock (probes.foldl (onDue clock) { before with liveness })
  | ended {liveness : Liveness} {probes : List LivenessEvent} {machine : CloseMachine}
      (elapsed : before.liveness.Elapsed time liveness probes)
      (due : (before.liveness.timeWait.advance time).reached
        before.liveness.settings.timeWaitTimeout = true)
      (lingered : CloseMachine.Lingered before.closing machine) :
      Passes before time clock
        (endGracefully (probes.foldl (onDue clock) { before with liveness }) machine)

variable {session settled : Session P} {time : Duration} {clock : UInt32}

theorem foldl_probes {liveness : Liveness} {probes : List LivenessEvent}
    (elapsed : session.liveness.Elapsed time liveness probes)
    (running : session.phase ≠ .closed) (clock : UInt32) :
    probes.foldl (onDue clock) { session with liveness } = { session with liveness } ∨
      probes.foldl (onDue clock) { session with liveness } =
          sendPing { session with liveness } clock ∨
        probes.foldl (onDue clock) { session with liveness } =
          dropLine { session with liveness } := by
  have due := session.liveness.tickAlive_probes time
  rw [elapsed.probing] at due
  rcases due with none | ping | dead
  · simp only at none
    exact .inl (by rw [none]; rfl)
  · simp only at ping
    exact .inr (.inl (by simp [ping, onDue, running]))
  · simp only at dead
    exact .inr (.inr (by simp [dead, onDue, running]))

/-- What probing leaves alone. -/
structure Spares (before after : Session P) : Prop where
  role : after.role = before.role
  phase : after.phase = before.phase
  pending : after.pending = before.pending
  delivery : after.delivery = before.delivery
  closing : after.closing = before.closing
  settings : after.liveness.settings = before.liveness.settings
  limits : after.liveness.rebindLimits = before.liveness.rebindLimits
  timeWait : after.liveness.timeWait = before.liveness.timeWait
  outputs : after.outputs = before.outputs

theorem spares_probes {liveness : Liveness} {probes : List LivenessEvent}
    (elapsed : session.liveness.Elapsed time liveness probes)
    (running : session.phase ≠ .closed) (clock : UInt32) :
    Spares { session with liveness } (probes.foldl (onDue clock) { session with liveness }) := by
  rcases foldl_probes elapsed running clock with same | same | same <;> rw [same]
  · constructor <;> rfl
  · rw [sendPing_eq]
    constructor <;> rfl
  · rw [dropLine_eq]
    split <;> constructor <;> rfl

private theorem passes_foldl_onDue (running : session.phase ≠ .closed) :
    Passes session time clock
      ((session.liveness.tick time).2.foldl (onDue clock)
        { session with liveness := (session.liveness.tick time).1 }) := by
  have ticks := session.liveness.ticks_tick time
  generalize (session.liveness.tick time).1 = liveness at ticks ⊢
  generalize (session.liveness.tick time).2 = due at ticks ⊢
  cases ticks with
  | expired due =>
      simp only [List.foldl_cons, List.foldl_nil, onDue, if_neg running]
      exact .expired due
  | dials lasts paced due =>
      simp only [List.foldl_cons, List.foldl_nil, onDue, if_neg running]
      exact .dials lasts paced due
  | @elapsed liveness probes elapsed =>
      have spares := spares_probes elapsed running clock
      have phase := spares.phase
      have closing := spares.closing
      simp only at phase closing
      rw [List.foldl_append]
      split
      · next due =>
          simp only [List.foldl_cons, List.foldl_nil, onDue, phase, if_neg running, closing]
          rcases session.closing.timeWaitExpired_cases with unmoved | ⟨machine, lingered, ends⟩
          · have lasts : session.closing.state ≠ .timeWait := by
              intro lingers
              simp [CloseMachine.timeWaitExpired, lingers] at unmoved
            have still (probed : Session P) (same : probed.closing = session.closing) :
                probed.applyClose (session.closing, []) = probed := by
              rw [← same]
              rfl
            rw [unmoved, still _ closing]
            exact .elapsed elapsed fun _ => lasts
          · rw [ends, applyClose_enter_closed (by rw [phase]; exact running)]
            exact .ended elapsed due lingered
      · next lasts => exact .elapsed elapsed fun due => absurd due lasts

theorem Passes.delivery (passes : Passes session time clock settled)
    (running : session.phase ≠ .closed) : settled.delivery = session.delivery := by
  cases passes with
  | expired due => rw [terminate_eq]
  | dials lasts paced due => rw [startRebind_eq]
  | elapsed elapsed lasts => exact (spares_probes elapsed running clock).delivery
  | ended elapsed due lingered =>
      rw [endGracefully_eq, terminate_eq]
      exact (spares_probes elapsed running clock).delivery

/-- An update lets time pass, and then tells the peer what it does not know yet. -/
theorem passes_update (running : session.phase ≠ .closed) (time : Duration) (clock : UInt32) :
    ∃ settled, Passes session time clock settled ∧
      session.update time clock =
        if settled.phase ≠ .closed ∧ session.delivery.ackPending = true then settled.sendAck
        else settled := by
  have passes : Passes session time clock _ := passes_foldl_onDue running
  refine ⟨_, passes, ?_⟩
  have delivery := passes.delivery running
  unfold update
  simp only [if_neg running, delivery]

end Session

end ResumableSession
