import ResumableSession.Proofs.Session.LineHandling
import ResumableSession.Proofs.Session.Tenure
import Mathlib.Data.List.Induction
import Mathlib.Data.List.Nodup

/-!
# What becomes of lines

A session keeps every line that it was handed, closes it once, or is told that it is
gone.  The bound line is the only one that it talks to, but for the answer with which a
line is attached.
-/

namespace ResumableSession

variable {P : Type}

private theorem mem_packetsOn {line : LineId} {packet : Packet P} {actions : List (LineAction P)} :
    packet ∈ packetsOn line actions ↔ .send line packet ∈ actions := by
  unfold packetsOn
  rw [List.mem_filterMap]
  constructor
  · rintro ⟨action, member, same⟩
    cases action with
    | close target graceful => cases same
    | send target sent =>
        simp only at same
        split at same
        · next ours =>
            cases same
            exact ours ▸ member
        · cases same
  · intro member
    exact ⟨_, member, if_pos rfl⟩

private theorem mem_closedIn {line : LineId} {actions : List (LineAction P)} :
    line ∈ closedIn actions ↔ ∃ graceful, .close line graceful ∈ actions := by
  unfold closedIn
  rw [List.mem_filterMap]
  constructor
  · rintro ⟨action, member, same⟩
    cases action with
    | send target sent => cases same
    | close target graceful =>
        cases same
        exact ⟨graceful, member⟩
  · rintro ⟨graceful, member⟩
    exact ⟨_, member, rfl⟩

/-! ## Acts -/

namespace Desk.Act

variable {first second : Desk P} {actions : List (LineAction P)}

theorem conserves (act : Act first actions second) :
    (second.ids ++ closedIn actions).Perm first.ids := by
  rw [List.perm_iff_count]
  intro line
  cases act with
  | @attach current =>
      cases current with
      | none => simp [ids, waiting, List.count_cons]
      | some bound => simp [ids, waiting, List.count_cons]; omega
  | _ => simp [ids, waiting, List.count_cons] <;> omega

theorem speaks (act : Act first actions second) {line : LineId} {packet : Packet P}
    (sent : .send line packet ∈ actions) : second.current.map (·.id) = some line := by
  cases act <;> simp_all

theorem holds (act : Act first actions second) {line : LineId}
    (bound : first.current.map (·.id) = some line) :
    second.current.map (·.id) = some line ∨ line ∈ closedIn actions := by
  cases act with
  | attach =>
      obtain ⟨closed, rfl, rfl⟩ := Option.map_eq_some_iff.mp bound
      exact .inr (by simp)
  | _ => simp_all

theorem quiet (act : Act first actions second) :
    actions.Pairwise fun earlier later =>
      ∀ line graceful packet, earlier = .close line graceful → later ≠ .send line packet := by
  cases act with
  | @attach current => cases current <;> simp
  | _ => simp

theorem greets (act : Act first actions second) {line : LineId} {packet : Packet P}
    (sent : .send line packet ∈ actions) :
    packetsOn line actions = [packet] ∧
      (packet.isOrdinary ∨ first.offered.map (·.line.id) = some line) := by
  cases act with
  | send ordinary =>
      simp at sent
      obtain ⟨rfl, rfl⟩ := sent
      simp [packetsOn_send, ordinary]
  | @attach current => cases current <;> simp_all [packetsOn_send]
  | _ => simp at sent

end Desk.Act

/-- What a session has made of the lines that it was handed. -/
structure Tracked (handed gone : List LineId) (actions : List (LineAction P)) (desk : Desk P) :
    Prop where
  /-- Each is at hand, gone or closed. -/
  accounted : (desk.ids ++ gone ++ closedIn actions).Perm handed
  /-- None that waits was talked to. -/
  heard : ∀ line packet, .send line packet ∈ actions →
    desk.current.map (·.id) = some line ∨ line ∈ gone ∨ line ∈ closedIn actions
  /-- An answer came before anything else. -/
  greeted : ∀ line, ∀ packet ∈ (packetsOn line actions).tail, packet.isOrdinary
  /-- None was talked to after it was closed. -/
  quiet : actions.Pairwise fun earlier later =>
    ∀ line graceful packet, earlier = .close line graceful → later ≠ .send line packet

namespace Tracked

variable {handed gone : List LineId} {log actions : List (LineAction P)} {first second : Desk P}
  {line : LineId}

theorem apart (tracked : Tracked handed gone log first) (distinct : handed.Nodup) :
    first.ids.Nodup ∧ ∀ line ∈ first.ids, line ∉ gone ∧ line ∉ closedIn log := by
  have nodup := tracked.accounted.nodup_iff.mpr distinct
  rw [List.append_assoc, List.nodup_append] at nodup
  obtain ⟨ids, _, others⟩ := nodup
  refine ⟨ids, fun line atHand => ⟨?_, ?_⟩⟩
  · intro left
    exact others line atHand line (List.mem_append_left _ left) rfl
  · intro closed
    exact others line atHand line (List.mem_append_right _ closed) rfl

private theorem packetsOn_waiting (tracked : Tracked handed gone log first)
    (distinct : handed.Nodup)
    (waits : line ∈ first.waiting) : packetsOn line log = [] := by
  obtain ⟨nodup, others⟩ := tracked.apart distinct
  have atHand : line ∈ first.ids := List.mem_append_right _ waits
  rw [List.eq_nil_iff_forall_not_mem]
  intro packet member
  rcases tracked.heard line packet (mem_packetsOn.mp member) with bound | left | closed
  · rw [Desk.ids, bound, List.nodup_append] at nodup
    exact nodup.2.2 line (by simp) line waits rfl
  · exact (others line atHand).1 left
  · exact (others line atHand).2 closed

theorem act (tracked : Tracked handed gone log first) (distinct : handed.Nodup)
    (act : Desk.Act first actions second) : Tracked handed gone (log ++ actions) second := by
  have unclosed (line : LineId) (packet : Packet P) (sent : .send line packet ∈ actions) :
      line ∉ closedIn log := by
    have bound := act.speaks sent
    have atHand : line ∈ second.ids ++ closedIn actions := by simp [Desk.ids, bound]
    exact ((tracked.apart distinct).2 line (act.conserves.mem_iff.mp atHand)).2
  constructor
  · rw [closedIn_append]
    have kept := act.conserves.append_right (gone ++ closedIn log)
    rw [List.append_assoc] at kept
    refine List.Perm.trans ?_ (kept.trans ?_)
    · rw [List.append_assoc]
      apply List.Perm.append_left
      rw [← List.append_assoc]
      exact List.perm_append_comm
    · rw [← List.append_assoc]
      exact tracked.accounted
  · intro line packet sent
    rw [closedIn_append, List.mem_append]
    rcases List.mem_append.mp sent with old | new
    · rcases tracked.heard line packet old with bound | left | closed
      · rcases act.holds bound with bound' | closed
        · exact .inl bound'
        · exact .inr (.inr (.inr closed))
      · exact .inr (.inl left)
      · exact .inr (.inr (.inl closed))
    · exact .inl (act.speaks new)
  · intro line packet member
    rw [packetsOn_append] at member
    cases earlier : packetsOn line log with
    | nil =>
        rw [earlier, List.nil_append] at member
        have sent := mem_packetsOn.mp (List.mem_of_mem_tail member)
        rw [(act.greets sent).1] at member
        cases member
    | cons oldest earlier' =>
        rw [earlier, List.cons_append, List.tail_cons] at member
        rcases List.mem_append.mp member with old | new
        · apply tracked.greeted line packet
          rw [earlier]
          exact old
        · rcases (act.greets (mem_packetsOn.mp new)).2 with ordinary | offered
          · exact ordinary
          · -- An offered line was not talked to before.
            have waits : line ∈ first.waiting := by simp [Desk.waiting, offered]
            have silent := tracked.packetsOn_waiting distinct waits
            rw [earlier] at silent
            cases silent
  · rw [List.pairwise_append]
    refine ⟨tracked.quiet, act.quiet, ?_⟩
    rintro _ old _ new line graceful packet rfl rfl
    exact unclosed line packet new (mem_closedIn.mpr ⟨graceful, old⟩)

theorem acts (acts : Desk.Acts first actions second) :
    ∀ {log : List (LineAction P)}, Tracked handed gone log first → handed.Nodup →
      Tracked handed gone (log ++ actions) second := by
  induction acts with
  | stay desk =>
      intro log tracked _
      rwa [List.append_nil]
  | next act _ induction =>
      intro log tracked distinct
      rw [← List.append_assoc]
      exact induction (tracked.act distinct act) distinct

private theorem lose {lost : List LineId} (tracked : Tracked handed gone log first)
    (conserves : (second.ids ++ lost).Perm first.ids)
    (holds : ∀ line, first.current.map (·.id) = some line →
      second.current.map (·.id) = some line ∨ line ∈ lost) :
    Tracked handed (gone ++ lost) log second where
  accounted := by
    refine List.Perm.trans ?_ tracked.accounted
    rw [List.perm_iff_count]
    intro line
    have count := conserves.count_eq line
    simp only [List.count_append] at count ⊢
    omega
  heard := by
    intro line packet sent
    rw [List.mem_append]
    rcases tracked.heard line packet sent with bound | left | closed
    · rcases holds line bound with bound' | lost
      · exact .inl bound'
      · exact .inr (.inl (.inr lost))
    · exact .inr (.inl (.inl left))
    · exact .inr (.inr closed)
  greeted := tracked.greeted
  quiet := tracked.quiet

end Tracked

namespace Session

/-! ## Steps -/

/-- The lines that a session is handed in a run, with the one that it starts with. -/
def entrusted (start : Session P) (inputs : List (Input P)) : List LineId :=
  (start.pending.map (·.id)).toList ++ inputs.filterMap fun input => input.offered?.map (·.id)

/-- The line that an input reports gone, if the session has it. -/
def goneBy (session : Session P) : Input P → List LineId
  | .lineClosed line =>
      if session.pending.map (·.id) = some line ∨ session.current.map (·.id) = some line then [line]
      else []
  | _ => []

/-- The lines that a session is told are gone while it has them. -/
def gone (start : Session P) (inputs : List (Input P)) : List LineId :=
  start.gather goneBy inputs

section

variable {handed lost : List LineId} {session : Session P}

private theorem tracked_offer (tracked : Tracked handed lost session.actions (session.desk none))
    (offered : Option (Offer P)) :
    Tracked (handed ++ (offered.map (·.line.id)).toList) lost session.actions
      (session.desk offered) where
  accounted := by
    rw [List.perm_iff_count]
    intro line
    have count := tracked.accounted.count_eq line
    simp only [desk, Desk.ids, Desk.waiting, List.count_append, Option.map_none,
      Option.toList_none, List.count_nil] at count ⊢
    omega
  heard := tracked.heard
  greeted := tracked.greeted
  quiet := tracked.quiet

/-- A line that is reported gone is lost, if the session has it. -/
theorem tracked_lineClosed (line : LineId)
    (tracked : Tracked handed lost session.actions (session.desk none)) :
    Tracked handed (lost ++ session.goneBy (.lineClosed line)) session.actions
      (session.deskFor (.lineClosed line)) := by
  by_cases shaking : session.pending.map (·.id) = some line
  · simp only [goneBy, deskFor, shaking, true_or, if_true]
    apply tracked.lose
    · simp [desk, Desk.ids, Desk.waiting, shaking]
    · exact fun _ bound => .inl bound
  · by_cases bound : session.current.map (·.id) = some line
    · simp only [goneBy, deskFor, if_neg shaking, bound, or_true, if_true]
      apply tracked.lose
      · simp [desk, Desk.ids, Desk.waiting, bound, List.perm_append_singleton]
      · intro target bound'
        have same : some line = some target := bound.symm.trans bound'
        exact .inr (by simpa using same.symm)
    · simp only [goneBy, deskFor, shaking, bound, or_self, if_false, List.append_nil]
      exact tracked

private theorem tracked_step (tracked : Tracked handed lost session.actions (session.desk none))
    (input : Input P)
    (distinct : (handed ++ (input.offered?.map (·.id)).toList).Nodup) :
    Tracked (handed ++ (input.offered?.map (·.id)).toList) (lost ++ session.goneBy input)
      (session.step input).actions ((session.step input).desk none) := by
  have laidOut : Tracked (handed ++ (input.offered?.map (·.id)).toList)
      (lost ++ session.goneBy input) session.actions (session.deskFor input) := by
    have offered := tracked_offer tracked (session.offer? input)
    have same : (session.offer? input).map (·.line.id) = input.offered?.map (·.id) := by
      rw [← map_offer?, Option.map_map]
      rfl
    rw [same, ← List.append_nil lost] at offered
    cases input with
    | lineClosed line =>
        have reported := tracked_lineClosed line tracked
        rwa [← List.append_nil handed] at reported
    | _ => exact offered
  obtain ⟨actions, outputs, acted, _, acts, _⟩ := handles_step session input
  rw [acted]
  exact laidOut.acts acts distinct

end

/-! ## Runs -/

theorem gather_append {α : Type} (view : Session P → Input P → List α)
    (earlier later : List (Input P)) : ∀ session : Session P,
      session.gather view (earlier ++ later) =
        session.gather view earlier ++ (session.run earlier).gather view later := by
  induction earlier with
  | nil => exact fun _ => rfl
  | cons first earlier induction =>
      intro session
      rw [List.cons_append, gather, gather, induction, List.append_assoc]
      rfl

theorem entrusted_append (start : Session P) (earlier later : List (Input P)) :
    start.entrusted (earlier ++ later) =
      start.entrusted earlier ++ later.filterMap fun input => input.offered?.map (·.id) := by
  rw [entrusted, entrusted, List.filterMap_append, List.append_assoc]

theorem Starts.tracked {start : Session P} (starts : start.Starts) :
    Tracked (start.entrusted []) [] start.actions (start.desk none) := by
  have silent : start.actions = [] := by cases starts <;> rfl
  have unbound : start.current = none := by cases starts <;> rfl
  rw [silent]
  constructor
  · simp [entrusted, desk, Desk.ids, Desk.waiting, unbound]
  · simp
  · simp
  · exact .nil

/-- Lines are kept track of through every run. -/
theorem tracked_run {start : Session P} (starts : start.Starts) (inputs : List (Input P)) :
    (start.entrusted inputs).Nodup →
      Tracked (start.entrusted inputs) (start.gone inputs) (start.run inputs).actions
        ((start.run inputs).desk none) := by
  induction inputs using List.reverseRecOn with
  | nil => exact fun _ => starts.tracked
  | append_singleton inputs input induction =>
      intro distinct
      have offered : ([input].filterMap fun input => input.offered?.map (·.id)) =
          (input.offered?.map (·.id)).toList := by
        cases offered : input.offered? <;> simp [offered]
      rw [entrusted_append, offered] at distinct ⊢
      rw [gone, gather_append, gather, gather, List.append_nil, run_concat]
      exact tracked_step (induction (List.Nodup.of_append_left distinct)) input distinct

/-- Where a line can be that a session was handed. -/
inductive Fate where
  | bound
  | pending
  /-- The session has closed it. -/
  | closed
  /-- The session had it when it was reported gone. -/
  | gone
deriving DecidableEq

/-- The lines of a session with this fate. -/
def Fate.lines (session : Session P) (gone : List LineId) : Fate → List LineId
  | .bound => (session.current.map (·.id)).toList
  | .pending => (session.pending.map (·.id)).toList
  | .closed => closedIn session.actions
  | .gone => gone

/-- How a run treats the lines that it was handed. -/
structure Treats (start : Session P) (inputs : List (Input P)) : Prop where
  /-- No line is leaked. -/
  fates : ∀ line ∈ start.entrusted inputs,
    ∃! fate : Fate, line ∈ fate.lines (start.run inputs) (start.gone inputs)
  /-- No line is closed twice, and no other line is closed. -/
  closes : (closedIn (start.run inputs).actions).Nodup ∧
    closedIn (start.run inputs).actions ⊆ start.entrusted inputs
  /-- The last input made the session do nothing to lines but acts on those at hand,
  and it closed one gracefully only at a graceful end. -/
  acts : ∀ earlier input, inputs = earlier ++ [input] →
    Handles ((start.run earlier).deskFor input) none (start.run earlier) (start.run inputs)
  /-- An answer is the first packet on its line. -/
  greeted : ∀ line, ∀ packet ∈ (packetsOn line (start.run inputs).actions).tail,
    packet.isOrdinary
  /-- Nothing is sent on a pending line. -/
  waits : ∀ line, (start.run inputs).pending.map (·.id) = some line →
    packetsOn line (start.run inputs).actions = []
  /-- Nothing is sent on a line after it was closed. -/
  quiet : ∀ line graceful earlier later,
    (start.run inputs).actions = earlier ++ .close line graceful :: later →
      packetsOn line later = []

section

variable {handed lost : List LineId} {session : Session P}

/-- A line has one fate. -/
theorem fate_of_tracked (tracked : Tracked handed lost session.actions (session.desk none))
    (distinct : handed.Nodup) {line : LineId} (member : line ∈ handed) :
    ∃! fate : Fate, line ∈ fate.lines session lost := by
  simp only [← List.count_pos_iff]
  have total : (Fate.bound.lines session lost).count line +
      (Fate.pending.lines session lost).count line + (Fate.gone.lines session lost).count line +
      (Fate.closed.lines session lost).count line = 1 := by
    have count := tracked.accounted.count_eq line
    rw [List.count_eq_one_of_mem distinct member] at count
    simp only [desk, Desk.ids, Desk.waiting, Option.map_none, Option.toList_none,
      List.append_nil, List.count_append] at count
    exact count
  obtain ⟨fate, fated⟩ : ∃ fate : Fate, 0 < (fate.lines session lost).count line := by
    by_contra nowhere
    simp only [not_exists, Nat.not_lt, Nat.le_zero_eq] at nowhere
    simp [nowhere] at total
  refine ⟨fate, fated, fun other fated' => ?_⟩
  cases fate <;> cases other <;> first | rfl | omega

/-- Whatever happens to a session, every line that it is handed stays with it, is closed
once, or is reported gone while the session has it; only the bound line is talked to, and
a line that is attached is answered first. -/
theorem run_treats {start : Session P} (starts : start.Starts) (inputs : List (Input P))
    (distinct : (start.entrusted inputs).Nodup) : start.Treats inputs := by
  have tracked := tracked_run starts inputs distinct
  constructor
  case fates => exact fun line member => fate_of_tracked tracked distinct member
  case closes =>
    constructor
    · exact List.Nodup.of_append_right (tracked.accounted.nodup_iff.mpr distinct)
    · intro line closed
      exact tracked.accounted.mem_iff.mp (List.mem_append_right _ closed)
  case acts =>
    rintro earlier input rfl
    rw [run_concat]
    exact handles_step _ input
  case greeted => exact tracked.greeted
  case waits =>
    intro line shaking
    exact tracked.packetsOn_waiting distinct (by simp [desk, Desk.waiting, shaking])
  case quiet =>
    intro line graceful earlier later split
    have quiet := tracked.quiet
    rw [split, List.pairwise_append, List.pairwise_cons] at quiet
    rw [List.eq_nil_iff_forall_not_mem]
    intro packet member
    exact quiet.2.1.1 _ (mem_packetsOn.mp member) line graceful packet rfl rfl

/-- A session that gives up a line that it dialed, loses one and turns one away. -/
def busy : List (Input Nat) :=
  [.lineCreated ⟨0⟩ 7, .send 1, .bindPending ⟨⟨1⟩, 1⟩, .bindPending ⟨⟨2⟩, 2⟩, .lineRebound ⟨2⟩ 0,
    .lineClosed ⟨2⟩, .attachRebind ⟨⟨3⟩, 0⟩ 0, .attachRebind ⟨⟨4⟩, 5⟩ 1, .close]

theorem busy_treats :
    ((initiator {} {} ⟨⟨0⟩, 0⟩).entrusted busy).Nodup ∧
      (initiator {} {} ⟨⟨0⟩, 0⟩).Treats busy :=
  have distinct : ((initiator {} {} ⟨⟨0⟩, 0⟩).entrusted busy).Nodup := by decide +kernel
  ⟨distinct, run_treats (.initiator {} {} ⟨⟨0⟩, 0⟩) busy distinct⟩

end

end Session

end ResumableSession
