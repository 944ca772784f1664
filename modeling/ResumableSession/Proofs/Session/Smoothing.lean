import ResumableSession.Session.Keepalive
import Mathlib.Data.List.MinMax

/-!
# The smoothed round trip

Each sample moves the estimate an eighth of the way, rounded down.  Rounding makes the two
sides differ: from above the estimate gets to a sample that stays the same, from below it
comes to rest up to seven nanoseconds short of it.  A sample is at most 2^32 - 1
milliseconds, and so is an estimate that lies between samples: nothing of either is cut off.
-/

namespace ResumableSession

/-- The nanoseconds of a duration fit 64 bits. -/
def Duration.Short (duration : Duration) : Prop := duration.nanos < 0x10000000000000000

instance (duration : Duration) : Decidable duration.Short :=
  inferInstanceAs (Decidable (duration.nanos < 0x10000000000000000))

/-! ## One sample -/

section Sample

variable {estimate sample bound : Duration}

private theorem quotient_smoothRoundTrip (short : estimate.Short) (shortSample : sample.Short) :
    (smoothRoundTrip estimate sample).nanos =
        (estimate.nanos * 875 + sample.nanos * 125) / 1000 ∧
      (estimate.nanos * 875 + sample.nanos * 125) / 1000 < 0x10000000000000000 := by
  simp only [Duration.Short] at short shortSample
  have uncut : (estimate.nanos * 875 + sample.nanos * 125) / 1000 < 0x10000000000000000 := by
    omega
  refine ⟨?_, uncut⟩
  rw [smoothRoundTrip, Nat.mod_eq_of_lt uncut]
  apply Duration.nanos_ofNanos_of_lt
  omega

private theorem nanos_smoothRoundTrip (short : estimate.Short) (shortSample : sample.Short) :
    (smoothRoundTrip estimate sample).nanos = (7 * estimate.nanos + sample.nanos) / 8 := by
  have quotient := (quotient_smoothRoundTrip short shortSample).1
  omega

private theorem short_smoothRoundTrip (short : estimate.Short) (shortSample : sample.Short) :
    (smoothRoundTrip estimate sample).Short := by
  obtain ⟨quotient, uncut⟩ := quotient_smoothRoundTrip short shortSample
  simpa only [Duration.Short, quotient] using uncut

private theorem le_smoothRoundTrip (short : estimate.Short) (shortSample : sample.Short)
    (below : bound ≤ estimate) (belowSample : bound ≤ sample) :
    bound ≤ smoothRoundTrip estimate sample := by
  have moved := nanos_smoothRoundTrip short shortSample
  simp only [Duration.le_iff_nanos] at *
  omega

private theorem smoothRoundTrip_le (short : estimate.Short) (shortSample : sample.Short)
    (above : estimate ≤ bound) (aboveSample : sample ≤ bound) :
    smoothRoundTrip estimate sample ≤ bound := by
  have moved := nanos_smoothRoundTrip short shortSample
  simp only [Duration.le_iff_nanos] at *
  omega

theorem smoothRoundTrip_mono {later laterSample : Duration} (short : later.Short)
    (shortSample : laterSample.Short) (grows : estimate ≤ later)
    (growsSample : sample ≤ laterSample) :
    smoothRoundTrip estimate sample ≤ smoothRoundTrip later laterSample := by
  have shortBefore : estimate.Short := Nat.lt_of_le_of_lt grows short
  have shortSampleBefore : sample.Short := Nat.lt_of_le_of_lt growsSample shortSample
  have before := nanos_smoothRoundTrip shortBefore shortSampleBefore
  have moved := nanos_smoothRoundTrip short shortSample
  simp only [Duration.le_iff_nanos] at *
  omega

end Sample

/-! ## The same sample again and again -/

/-- The estimate after the same sample came this many times. -/
def smoothedBy (sample start : Duration) : Nat → Duration
  | 0 => start
  | times + 1 => smoothRoundTrip (smoothedBy sample start times) sample

section Repeated

variable {sample start : Duration}

private theorem short_smoothedBy (short : start.Short) (shortSample : sample.Short) (times : Nat) :
    (smoothedBy sample start times).Short := by
  induction times with
  | zero => exact short
  | succ times induction => exact short_smoothRoundTrip induction shortSample

private theorem nanos_smoothedBy_succ (short : start.Short) (shortSample : sample.Short)
    (times : Nat) :
    (smoothedBy sample start (times + 1)).nanos =
      (7 * (smoothedBy sample start times).nanos + sample.nanos) / 8 :=
  nanos_smoothRoundTrip (short_smoothedBy short shortSample times) shortSample

/-- From above, each time brings the estimate at least a nanosecond nearer. -/
theorem smoothedBy_above (short : start.Short) (shortSample : sample.Short)
    (above : sample ≤ start) (times : Nat) :
    sample.nanos ≤ (smoothedBy sample start times).nanos ∧
      (smoothedBy sample start times).nanos - sample.nanos ≤
        start.nanos - sample.nanos - times := by
  induction times with
  | zero => exact ⟨above, Nat.le_refl _⟩
  | succ times induction =>
      have moved := nanos_smoothedBy_succ short shortSample times
      omega

/-- From below, it does so until less than eight nanoseconds are left. -/
theorem smoothedBy_below (short : start.Short) (shortSample : sample.Short)
    (below : start ≤ sample) (times : Nat) :
    (smoothedBy sample start times).nanos ≤ sample.nanos ∧
      sample.nanos - (smoothedBy sample start times).nanos ≤
        max 7 (sample.nanos - start.nanos - times) := by
  induction times with
  | zero => exact ⟨below, Nat.le_max_right _ _⟩
  | succ times induction =>
      have moved := nanos_smoothedBy_succ short shortSample times
      omega

/-- What comes of an estimate while the sample stays the same. -/
structure Settles (sample start : Duration) : Prop where
  falls : sample ≤ start → ∀ times,
    sample ≤ smoothedBy sample start (times + 1) ∧
      smoothedBy sample start (times + 1) ≤ smoothedBy sample start times
  arrives : sample ≤ start → ∃ enough, ∀ times, enough ≤ times →
    smoothedBy sample start times = sample
  rises : start ≤ sample → ∀ times,
    smoothedBy sample start times ≤ smoothedBy sample start (times + 1) ∧
      smoothedBy sample start (times + 1) ≤ sample
  rests : start ≤ sample → ∃ enough settled,
    sample.nanos ≤ settled.nanos + 7 ∧ settled ≤ sample ∧
      ∀ times, enough ≤ times → smoothedBy sample start times = settled

private theorem settles (short : start.Short) (shortSample : sample.Short) :
    Settles sample start where
  falls := by
    intro above times
    have now := smoothedBy_above short shortSample above times
    have moved := nanos_smoothedBy_succ short shortSample times
    simp only [Duration.le_iff_nanos]
    omega
  arrives := by
    intro above
    refine ⟨start.nanos - sample.nanos, ?_⟩
    intro times enough
    have now := smoothedBy_above short shortSample above times
    apply Duration.ext
    omega
  rises := by
    intro below times
    have now := smoothedBy_below short shortSample below times
    have moved := nanos_smoothedBy_succ short shortSample times
    simp only [Duration.le_iff_nanos]
    omega
  rests := by
    intro below
    have near (times : Nat) (enough : sample.nanos - start.nanos ≤ times) :
        (smoothedBy sample start times).nanos ≤ sample.nanos ∧
          sample.nanos ≤ (smoothedBy sample start times).nanos + 7 := by
      have now := smoothedBy_below short shortSample below times
      omega
    obtain ⟨bounded, close⟩ := near (sample.nanos - start.nanos) (Nat.le_refl _)
    refine ⟨sample.nanos - start.nanos, smoothedBy sample start (sample.nanos - start.nanos),
      close, bounded, ?_⟩
    intro times enough
    induction times, enough using Nat.le_induction with
    | base => rfl
    | succ times enough induction =>
        have moved := nanos_smoothedBy_succ short shortSample times
        have here := near times enough
        rw [← induction]
        apply Duration.ext
        omega

end Repeated

/-! ## The samples of a run -/

private theorem nanos_roundTrip (sent now : UInt32) :
    (roundTrip sent now).nanos = (now - sent).toNat * 1000000 := by
  have bounded := (now - sent).toNat_lt
  apply Duration.nanos_ofNanos_of_lt
  omega

private theorem roundTrip_le (sent now : UInt32) : roundTrip sent now ≤ roundTrip 0 0xFFFFFFFF := by
  have bounded := (now - sent).toNat_lt
  have longest : (roundTrip 0 0xFFFFFFFF).nanos = 0xFFFFFFFF * 1000000 := nanos_roundTrip _ _
  simp only [Duration.le_iff_nanos, nanos_roundTrip sent now, longest]
  omega

private theorem short_of_le {duration : Duration} (bounded : duration ≤ roundTrip 0 0xFFFFFFFF) :
    duration.Short := by
  have longest : (roundTrip 0 0xFFFFFFFF).nanos = 0xFFFFFFFF * 1000000 := nanos_roundTrip _ _
  simp only [Duration.le_iff_nanos, longest] at bounded
  simp only [Duration.Short]
  omega

private theorem short_roundTrip (sent now : UInt32) : (roundTrip sent now).Short :=
  short_of_le (roundTrip_le sent now)

namespace Keepalive

/-- What happens to a keepalive state. -/
inductive Event where
  | ping (ticks : UInt32)
  | clear
  | pong (ticks now : UInt32)
deriving DecidableEq, Repr

/-- The state after an event. -/
def take (keepalive : Keepalive) : Event → Keepalive
  | .ping ticks => keepalive.recordPing ticks
  | .clear => keepalive.clear
  | .pong ticks now => (keepalive.processPong ticks now).1

/-- The state after a history of events. -/
def run (events : List Event) : Keepalive := events.foldl take {}

/-- The round trip that an event measures, if it gives a new estimate. -/
def sample? (keepalive : Keepalive) : Event → Option Duration
  | .pong ticks now => (keepalive.processPong ticks now).2.map fun _ => roundTrip ticks now
  | _ => none

/-- The round trip that is measured at a place of the history. -/
def sampleAt? (events : List Event) (place : Nat) : Option Duration :=
  events[place]?.bind (run (events.take place)).sample?

/-- All round trips that are measured, in order. -/
def samples (events : List Event) : List Duration :=
  (List.range events.length).filterMap (sampleAt? events)

variable {events : List Event} {event : Event} {keepalive : Keepalive} {place : Nat}

theorem run_concat (events : List Event) (event : Event) :
    run (events ++ [event]) = (run events).take event := by
  simp [run]

theorem sampleAt?_append (inside : place < events.length) (later : List Event) :
    sampleAt? (events ++ later) place = sampleAt? events place := by
  simp [sampleAt?, List.getElem?_append_left inside,
    List.take_append_of_le_length (Nat.le_of_lt inside)]

private theorem sampleAt?_take {length : Nat} (inside : place < length) :
    sampleAt? (events.take length) place = sampleAt? events place := by
  simp [sampleAt?, inside, List.take_take, Nat.min_eq_left (Nat.le_of_lt inside)]

private theorem sampleAt?_last (events : List Event) (event : Event) :
    sampleAt? (events ++ [event]) events.length = (run events).sample? event := by
  simp [sampleAt?]

theorem samples_concat (events : List Event) (event : Event) :
    samples (events ++ [event]) = samples events ++ ((run events).sample? event).toList := by
  have earlier : (List.range events.length).filterMap (sampleAt? (events ++ [event])) =
      samples events := by
    apply List.filterMap_congr
    intro place inside
    exact sampleAt?_append (List.mem_range.mp inside) [event]
  simp only [samples, List.length_append, List.length_singleton, List.range_succ,
    List.filterMap_append, earlier]
  cases found : (run events).sample? event <;> simp [sampleAt?_last, found]

/-- A reply that does not match the probe in flight changes nothing; one that does gives a
sample and leaves no probe in flight. -/
theorem pong_cases (keepalive : Keepalive) (ticks now : UInt32) :
    keepalive.outstanding ≠ some ticks ∧ keepalive.sample? (.pong ticks now) = none ∧
        keepalive.take (.pong ticks now) = keepalive ∨
      keepalive.outstanding = some ticks ∧
        keepalive.sample? (.pong ticks now) = some (roundTrip ticks now) ∧
        keepalive.take (.pong ticks now) =
          { outstanding := none
            smoothed := some (keepalive.smoothed.elim (roundTrip ticks now)
              (smoothRoundTrip · (roundTrip ticks now))) } := by
  by_cases matched : keepalive.outstanding = some ticks
  · refine .inr ⟨matched, ?_, ?_⟩
    · simp [sample?, processPong, matched]
    · cases known : keepalive.smoothed <;> simp [take, processPong, matched, known]
  · refine .inl ⟨matched, ?_, ?_⟩ <;> simp [sample?, take, processPong, matched]

/-! ## Which probe a sample belongs to -/

/-- The reply at place `pong` gives the round trip of the probe at place `ping`, the last one
that was sent before it. -/
structure Contributes (events : List Event) (ping pong : Nat) : Prop where
  earlier : ping < pong
  measured : ∃ ticks now, events[ping]? = some (.ping ticks) ∧
    events[pong]? = some (.pong ticks now) ∧
    sampleAt? events pong = some (roundTrip ticks now)
  latest : ∀ between, ping < between → between < pong →
    ∀ ticks, events[between]? ≠ some (.ping ticks)

/-- Since the probe at this place none was sent and none came back. -/
structure InFlight (events : List Event) (ticks : UInt32) (place : Nat) : Prop where
  sent : events[place]? = some (.ping ticks)
  since : ∀ later, place < later → later < events.length →
    sampleAt? events later = none ∧ ∀ other, events[later]? ≠ some (.ping other)

theorem InFlight.inside {ticks : UInt32} (inFlight : InFlight events ticks place) :
    place < events.length :=
  (List.getElem?_eq_some_iff.mp inFlight.sent).1

theorem InFlight.concat {ticks : UInt32} (inFlight : InFlight events ticks place)
    (silent : (run events).sample? event = none) (quiet : ∀ other, event ≠ .ping other) :
    InFlight (events ++ [event]) ticks place where
  sent := by
    rw [List.getElem?_append_left inFlight.inside]
    exact inFlight.sent
  since := by
    intro later after bounded
    rw [List.length_append, List.length_singleton] at bounded
    rcases Nat.lt_succ_iff_lt_or_eq.mp bounded with inside | rfl
    · rw [sampleAt?_append inside, List.getElem?_append_left inside]
      exact inFlight.since later after inside
    · refine ⟨(sampleAt?_last events event).trans silent, ?_⟩
      simpa using quiet

private theorem inFlight_ping (events : List Event) (ticks : UInt32) :
    InFlight (events ++ [.ping ticks]) ticks events.length where
  sent := by simp
  since := by
    intro later after bounded
    rw [List.length_append, List.length_singleton] at bounded
    omega

private theorem inFlight_of_outstanding (events : List Event) :
    ∀ ticks, (run events).outstanding = some ticks → ∃ place, InFlight events ticks place := by
  induction events using List.reverseRecOn with
  | nil => exact nofun
  | append_singleton events event induction =>
      intro ticks outstanding
      rw [run_concat] at outstanding
      cases event with
      | ping sent =>
          obtain rfl : sent = ticks := Option.some.inj outstanding
          exact ⟨events.length, inFlight_ping events sent⟩
      | clear => cases outstanding
      | pong answered now =>
          rcases (run events).pong_cases answered now with ⟨_, silent, same⟩ | ⟨_, _, answers⟩
          · rw [same] at outstanding
            obtain ⟨place, inFlight⟩ := induction ticks outstanding
            exact ⟨place, inFlight.concat silent (fun _ => nofun)⟩
          · rw [answers] at outstanding
            cases outstanding

/-- A probe that is in flight at a place of the history is the last one before it. -/
theorem InFlight.of_take {ticks : UInt32} {length : Nat} (bounded : length ≤ events.length)
    (inFlight : InFlight (events.take length) ticks place) :
    place < length ∧ events[place]? = some (.ping ticks) ∧
      ∀ later, place < later → later < length →
        sampleAt? events later = none ∧ ∀ other, events[later]? ≠ some (.ping other) := by
  have long : (events.take length).length = length := List.length_take_of_le bounded
  have inside : place < length := long ▸ inFlight.inside
  refine ⟨inside, ?_, ?_⟩
  · have sent := inFlight.sent
    rwa [List.getElem?_take_of_lt inside] at sent
  · intro later after before
    have undisturbed := inFlight.since later after (long.symm ▸ before)
    rwa [sampleAt?_take before, List.getElem?_take_of_lt before] at undisturbed

/-- A sample is the round trip of the last probe before it, and the first since then. -/
theorem contributes_of_sampled {pong : Nat} (sampled : (sampleAt? events pong).isSome) :
    ∃ ping, Contributes events ping pong ∧
      ∀ between, ping < between → between < pong → sampleAt? events between = none := by
  obtain ⟨sample, found⟩ := Option.isSome_iff_exists.mp sampled
  obtain ⟨event, here, measured⟩ := Option.bind_eq_some_iff.mp found
  have inside : pong < events.length := (List.getElem?_eq_some_iff.mp here).1
  cases event with
  | ping _ | clear => cases measured
  | pong ticks now =>
      rcases (run (events.take pong)).pong_cases ticks now with
        ⟨_, silent, _⟩ | ⟨outstanding, answers, _⟩
      · rw [silent] at measured
        cases measured
      obtain ⟨ping, inFlight⟩ := inFlight_of_outstanding (events.take pong) ticks outstanding
      obtain ⟨earlier, sent, since⟩ := inFlight.of_take (Nat.le_of_lt inside)
      refine ⟨ping, ⟨earlier, ⟨ticks, now, sent, here, ?_⟩, ?_⟩, ?_⟩
      · rw [found, ← measured, answers]
      · intro between after before
        exact (since between after before).2
      · intro between after before
        exact (since between after before).1

private theorem Contributes.sampled {ping pong : Nat} (contributes : Contributes events ping pong) :
    (sampleAt? events pong).isSome := by
  obtain ⟨_, _, _, _, measured⟩ := contributes.measured
  simp [measured]

private theorem Contributes.ping_le {ping other pong : Nat}
    (contributes : Contributes events ping pong)
    (also : Contributes events other pong) : other ≤ ping := by
  by_contra later
  obtain ⟨ticks, _, sent, _⟩ := also.measured
  exact contributes.latest other (Nat.lt_of_not_le later) also.earlier ticks sent

theorem Contributes.not_lt {ping first second : Nat} (contributes : Contributes events ping first)
    (again : Contributes events ping second) : ¬first < second := by
  intro before
  obtain ⟨last, also, unanswered⟩ := contributes_of_sampled again.sampled
  obtain rfl : last = ping := Nat.le_antisymm (again.ping_le also) (also.ping_le again)
  have none := unanswered first contributes.earlier before
  simpa [none] using contributes.sampled

/-! ## Between the samples -/

/-- The estimate that is known, if there is one, lies between the samples. -/
structure Averages (samples : List Duration) (smoothed : Option Duration) : Prop where
  bounded : ∀ sample ∈ samples, sample ≤ roundTrip 0 0xFFFFFFFF
  known : smoothed = none ↔ samples = []
  lower : ∀ estimate, smoothed = some estimate →
    ∀ bound, (∀ sample ∈ samples, bound ≤ sample) → bound ≤ estimate
  upper : ∀ estimate, smoothed = some estimate →
    ∀ bound, (∀ sample ∈ samples, sample ≤ bound) → estimate ≤ bound

variable {samples : List Duration} {smoothed : Option Duration}

theorem Averages.short (averages : Averages samples smoothed) {estimate : Duration}
    (known : smoothed = some estimate) : estimate.Short :=
  short_of_le (averages.upper estimate known _ averages.bounded)

private theorem Averages.weigh (averages : Averages samples smoothed) (sent now : UInt32) :
    Averages (samples ++ [roundTrip sent now])
      (some (smoothed.elim (roundTrip sent now) (smoothRoundTrip · (roundTrip sent now)))) where
  bounded := by
    intro sample member
    rcases List.mem_append.mp member with earlier | latest
    · exact averages.bounded sample earlier
    · obtain rfl := List.mem_singleton.mp latest
      exact roundTrip_le sent now
  known := by simp
  lower := by
    intro estimate same bound below
    obtain rfl := Option.some.inj same
    have belowSample := below (roundTrip sent now) (by simp)
    cases known : smoothed with
    | none => exact belowSample
    | some before =>
        apply le_smoothRoundTrip (averages.short known) (short_roundTrip sent now) _ belowSample
        apply averages.lower before known
        exact fun sample member => below sample (List.mem_append_left _ member)
  upper := by
    intro estimate same bound above
    obtain rfl := Option.some.inj same
    have aboveSample := above (roundTrip sent now) (by simp)
    cases known : smoothed with
    | none => exact aboveSample
    | some before =>
        apply smoothRoundTrip_le (averages.short known) (short_roundTrip sent now) _ aboveSample
        apply averages.upper before known
        exact fun sample member => above sample (List.mem_append_left _ member)

private theorem averages_run (events : List Event) :
    Averages (Keepalive.samples events) (run events).smoothed := by
  induction events using List.reverseRecOn with
  | nil => constructor <;> simp [Keepalive.samples, run]
  | append_singleton events event induction =>
      rw [samples_concat, run_concat]
      cases event with
      | ping _ | clear => simpa [sample?, take, recordPing, clear] using induction
      | pong ticks now =>
          rcases (run events).pong_cases ticks now with ⟨_, silent, same⟩ | ⟨_, answers, moved⟩
          · simpa [silent, same] using induction
          · simpa [answers, moved] using induction.weigh ticks now

private theorem exists_extremes (sampled : samples ≠ []) :
    ∃ least ∈ samples, ∃ greatest ∈ samples,
      ∀ sample ∈ samples, least ≤ sample ∧ sample ≤ greatest := by
  obtain ⟨least, isLeast⟩ : ∃ least, List.argmin Duration.nanos samples = some least :=
    Option.ne_none_iff_exists'.mp (mt List.argmin_eq_none.mp sampled)
  obtain ⟨greatest, isGreatest⟩ : ∃ greatest, List.argmax Duration.nanos samples = some greatest :=
    Option.ne_none_iff_exists'.mp (mt List.argmax_eq_none.mp sampled)
  refine ⟨least, List.argmin_mem isLeast, greatest, List.argmax_mem isGreatest, ?_⟩
  intro sample member
  exact ⟨List.le_of_mem_argmin member isLeast, List.le_of_mem_argmax member isGreatest⟩

/-- What a history of probes, replies and losses makes of the estimate. -/
structure Measures (events : List Event) : Prop where
  /-- A reply is a sample if and only if it matches the probe in flight. -/
  matched : ∀ place ticks now, events[place]? = some (.pong ticks now) →
    sampleAt? events place =
      if (run (events.take place)).outstanding = some ticks then some (roundTrip ticks now)
      else none
  /-- Every sample belongs to a probe. -/
  contributed : ∀ pong, (sampleAt? events pong).isSome → ∃ ping, Contributes events ping pong
  /-- No two samples belong to the same probe. -/
  once : ∀ ping first second,
    Contributes events ping first → Contributes events ping second → first = second
  known : (run events).smoothed = none ↔ Keepalive.samples events = []
  between : ∀ estimate, (run events).smoothed = some estimate →
    ∃ least ∈ Keepalive.samples events, ∃ greatest ∈ Keepalive.samples events,
      (∀ sample ∈ Keepalive.samples events, least ≤ sample ∧ sample ≤ greatest) ∧
        least ≤ estimate ∧ estimate ≤ greatest
  /-- Whatever sample comes next, the new estimate fits 64 bits as it is. -/
  uncut : ∀ estimate, (run events).smoothed = some estimate → ∀ sent now,
    (smoothRoundTrip estimate (roundTrip sent now)).nanos =
        (estimate.nanos * 875 + (roundTrip sent now).nanos * 125) / 1000 ∧
      (estimate.nanos * 875 + (roundTrip sent now).nanos * 125) / 1000 < 0x10000000000000000

private theorem measures (events : List Event) : Measures events where
  matched := by
    intro place ticks now here
    rw [sampleAt?, here, Option.bind_some]
    rcases (run (events.take place)).pong_cases ticks now with
      ⟨other, silent, _⟩ | ⟨outstanding, answers, _⟩
    · rw [if_neg other, silent]
    · rw [if_pos outstanding, answers]
  contributed := by
    intro pong sampled
    obtain ⟨ping, contributes, _⟩ := contributes_of_sampled sampled
    exact ⟨ping, contributes⟩
  once := by
    intro ping first second contributes again
    exact Nat.le_antisymm (Nat.le_of_not_lt (again.not_lt contributes))
      (Nat.le_of_not_lt (contributes.not_lt again))
  known := (averages_run events).known
  between := by
    intro estimate same
    have averages := averages_run events
    have sampled : Keepalive.samples events ≠ [] := by
      intro empty
      rw [averages.known.mpr empty] at same
      cases same
    obtain ⟨least, isSample, greatest, alsoSample, extremes⟩ := exists_extremes sampled
    refine ⟨least, isSample, greatest, alsoSample, extremes, ?_, ?_⟩
    · exact averages.lower estimate same least fun sample member => (extremes sample member).1
    · exact averages.upper estimate same greatest fun sample member => (extremes sample member).2
  uncut := by
    intro estimate same sent now
    exact quotient_smoothRoundTrip ((averages_run events).short same) (short_roundTrip sent now)

end Keepalive

/-- A smoothed round trip stays between its samples, each of which belongs to a probe of its
own, and nothing of it is cut off.  One step of smoothing lies between the estimate and the
sample and grows with both, and a sample that stays the same is approached from one side and
reached, from below up to seven nanoseconds. -/
theorem smoothing_settles :
    (∀ events, Keepalive.Measures events) ∧
      (∀ estimate sample : Duration, estimate.Short → sample.Short →
        (estimate ≤ sample →
          estimate ≤ smoothRoundTrip estimate sample ∧ smoothRoundTrip estimate sample ≤ sample) ∧
        (sample ≤ estimate →
          sample ≤ smoothRoundTrip estimate sample ∧
            smoothRoundTrip estimate sample ≤ estimate)) ∧
      (∀ estimate later sample laterSample : Duration, later.Short → laterSample.Short →
        estimate ≤ later → sample ≤ laterSample →
        smoothRoundTrip estimate sample ≤ smoothRoundTrip later laterSample) ∧
      ∀ sample start : Duration, sample.Short → start.Short → Settles sample start := by
  refine ⟨Keepalive.measures, ?_, ?_, ?_⟩
  · intro estimate sample short shortSample
    constructor
    · intro below
      exact ⟨le_smoothRoundTrip short shortSample (Nat.le_refl _) below,
        smoothRoundTrip_le short shortSample below (Nat.le_refl _)⟩
    · intro above
      exact ⟨le_smoothRoundTrip short shortSample above (Nat.le_refl _),
        smoothRoundTrip_le short shortSample (Nat.le_refl _) above⟩
  · intro estimate later sample laterSample short shortSample grows growsSample
    exact smoothRoundTrip_mono short shortSample grows growsSample
  · intro sample start shortSample short
    exact settles short shortSample

/-- An estimate of 400 ms gets to round trips of 40 ms. -/
theorem smoothing_settled :
    (Duration.ofMillis 40).Short ∧ (Duration.ofMillis 400).Short ∧
      Duration.ofMillis 40 ≤ Duration.ofMillis 400 ∧
      ∃ enough, ∀ times, enough ≤ times →
        smoothedBy (.ofMillis 40) (.ofMillis 400) times = .ofMillis 40 := by
  have shortSample : (Duration.ofMillis 40).Short := by decide +kernel
  have short : (Duration.ofMillis 400).Short := by decide +kernel
  have above : Duration.ofMillis 40 ≤ Duration.ofMillis 400 := by decide +kernel
  exact ⟨shortSample, short, above,
    (smoothing_settles.2.2.2 (.ofMillis 40) (.ofMillis 400) shortSample short).arrives above⟩

/-- From below, seven nanoseconds are never made up. -/
example : smoothRoundTrip (.ofNanos 93) (.ofNanos 100) = .ofNanos 93 := by decide +kernel

end ResumableSession
