import ResumableSession.Proofs.Exchange.Mirror
import Mathlib.Data.List.Infix

/-!
# Runs of an exchange

A run is taken apart at any event, and put together event by event: each leads from one
exchange to another.  What an exchange shows is the sessions of both ends and the lines; an
event changes one session, and the line that it comes on or dials.
-/

namespace ResumableSession

variable {P : Type}

namespace Exchange

variable {exchange : Exchange P}

/-- At no time does a send buffer hold as many packets as there are ids. -/
def Sustained (start : Exchange P) (events : List (Event P)) : Prop :=
  ∀ earlier middle, earlier <+: events → start.run? earlier = some middle → middle.Roomy

theorem run_append {first : Exchange P} {earlier later : List (Event P)}
    (ran : first.run? (earlier ++ later) = some exchange) :
    ∃ middle, first.run? earlier = some middle ∧ middle.run? later = some exchange := by
  rw [run?, List.foldlM_append, Option.bind_eq_bind, Option.bind_eq_some_iff] at ran
  exact ran

theorem run_singleton (exchange : Exchange P) (event : Event P) :
    exchange.run? [event] = exchange.step? event := by
  simp [run?]

theorem run_concat {first middle : Exchange P} {events : List (Event P)} {event : Event P}
    (ran : first.run? events = some middle) (stepped : middle.step? event = some exchange) :
    first.run? (events ++ [event]) = some exchange := by
  rw [run?, List.foldlM_append, ← run?, ran]
  exact (run_singleton middle event).trans stepped

theorem lines_run_le {events : List (Event P)} :
    ∀ {exchange exchange' : Exchange P}, exchange.run? events = some exchange' →
      exchange.lines.length ≤ exchange'.lines.length := by
  induction events with
  | nil =>
      intro exchange exchange' ran
      obtain rfl : exchange = exchange' := Option.some.inj ran
      exact Nat.le_refl _
  | cons event events induction =>
      intro exchange exchange' ran
      rw [← List.singleton_append] at ran
      obtain ⟨next, stepped, rest⟩ := run_append ran
      rw [run_singleton] at stepped
      exact Nat.le_trans (lines_step_le stepped) (induction rest)

theorem Sustained.mono {start : Exchange P} {events earlier : List (Event P)}
    (sustained : Sustained start events) (part : earlier <+: events) : Sustained start earlier :=
  fun first middle inside => sustained first middle (inside.trans part)

theorem Sustained.roomy {start : Exchange P} {events : List (Event P)}
    (sustained : Sustained start events) (ran : start.run? events = some exchange) :
    exchange.Roomy :=
  sustained events exchange List.prefix_rfl ran

/-- Events lead from one exchange to another, and no send buffer grows full on the way. -/
inductive Leads : Exchange P → List (Event P) → Exchange P → Prop where
  | stay {exchange : Exchange P} (roomy : exchange.Roomy) : Leads exchange [] exchange
  | step {first next last : Exchange P} {event : Event P} {events : List (Event P)}
      (roomy : first.Roomy) (stepped : first.step? event = some next)
      (later : Leads next events last) : Leads first (event :: events) last

namespace Leads

variable {first middle last : Exchange P} {event : Event P} {events events' : List (Event P)}

theorem single (roomy : first.Roomy) (stepped : first.step? event = some last)
    (roomy' : last.Roomy) : Leads first [event] last :=
  .step roomy stepped (.stay roomy')

theorem trans (earlier : Leads first events middle) (later : Leads middle events' last) :
    Leads first (events ++ events') last := by
  induction earlier with
  | stay => exact later
  | step roomy stepped _ induction => exact .step roomy stepped (induction later)

theorem ran (leads : Leads first events last) : first.run? events = some last := by
  induction leads with
  | stay => rfl
  | step _ stepped _ induction =>
      rw [run?, List.foldlM_cons, stepped]
      exact induction

theorem sustained (leads : Leads first events last) : Sustained first events := by
  induction leads with
  | stay roomy =>
      intro earlier middle part ran
      obtain rfl := List.prefix_nil.mp part
      cases ran
      exact roomy
  | step roomy stepped _ induction =>
      intro earlier middle part ran
      rcases List.prefix_cons_iff.mp part with rfl | ⟨rest, rfl, inside⟩
      · cases ran
        exact roomy
      · rw [run?, List.foldlM_cons, stepped] at ran
        exact induction rest middle inside ran

theorem roomy (leads : Leads first events last) : last.Roomy :=
  leads.sustained.roomy leads.ran

theorem of_run (events : List (Event P)) : ∀ {first : Exchange P},
    first.run? events = some last → Sustained first events → Leads first events last := by
  induction events with
  | nil =>
      intro first ran sustained
      cases ran
      exact .stay (sustained [] _ List.prefix_rfl rfl)
  | cons event events induction =>
      intro first ran sustained
      rw [run?, List.foldlM_cons, Option.bind_eq_bind, Option.bind_eq_some_iff] at ran
      obtain ⟨next, stepped, rest⟩ := ran
      refine .step (sustained [] first List.nil_prefix rfl) stepped (induction rest ?_)
      intro earlier middle part ranEarlier
      refine sustained (event :: earlier) middle (List.cons_prefix_cons.mpr ⟨rfl, part⟩) ?_
      rw [run?, List.foldlM_cons, stepped]
      exact ranEarlier

end Leads

/-! ## What is seen of an exchange -/

/-- Both sessions, and the lines.  The buffers hold one packet at most. -/
structure Shows (caller callee : Session P) (lines : List Connection)
    (exchange : Exchange P) : Prop where
  initiator : exchange.session .initiator = caller
  responder : exchange.session .responder = callee
  lines : exchange.lines = lines
  initiatorBuffer : caller.delivery.buffer.length ≤ 1
  responderBuffer : callee.delivery.buffer.length ≤ 1

namespace Shows

variable {caller callee after : Session P} {lines : List Connection}
  {exchange : Exchange P} {input : Input P} {line : Nat}
  {connection : Connection} {packet : Packet P}

theorem roomy (shows : Shows caller callee lines exchange) : exchange.Roomy := by
  intro side
  cases side with
  | initiator =>
      rw [shows.initiator]
      exact Nat.lt_of_le_of_lt shows.initiatorBuffer (by decide)
  | responder =>
      rw [shows.responder]
      exact Nat.lt_of_le_of_lt shows.responderBuffer (by decide)

theorem feed_responder (shows : Shows caller callee lines exchange) (input : Input P)
    (taken : callee.step input = after) (few : after.delivery.buffer.length ≤ 1) :
    Shows caller after lines (exchange.feed .responder input) where
  initiator := (session_give_other exchange .responder input).trans shows.initiator
  responder := by
    rw [← taken, ← shows.responder]
    exact session_give exchange .responder input
  lines := shows.lines
  initiatorBuffer := shows.initiatorBuffer
  responderBuffer := few

theorem feed_initiator (shows : Shows caller callee lines exchange) (input : Input P)
    (taken : caller.step input = after) (few : after.delivery.buffer.length ≤ 1)
    (dials : dialedIn after.outputs = dialedIn caller.outputs) :
    Shows after callee lines (exchange.feed .initiator input) := by
  rw [← taken, ← shows.initiator] at dials
  rw [feed_eq_give_of_dials exchange dials]
  constructor
  case initiator => rw [session_give, shows.initiator, taken]
  case responder => exact (session_give_other exchange .initiator input).trans shows.responder
  case lines => exact shows.lines
  case initiatorBuffer => exact few
  case responderBuffer => exact shows.responderBuffer

theorem feed_dials (shows : Shows caller callee lines exchange) (input : Input P)
    {sessionId index ack : UInt32}
    (asks : (caller.step input).outputs =
      caller.outputs ++ [.openRebindLine sessionId index ack])
    (taken : (caller.step input).step (.bindPending ⟨⟨lines.length⟩, index⟩) = after)
    (few : after.delivery.buffer.length ≤ 1) :
    Shows after callee (lines ++ [{ handshake := .rebind sessionId index ack }])
      (exchange.feed .initiator input) := by
  have fed : exchange.feed .initiator input =
      (exchange.give .initiator input).dial (.rebind sessionId index ack) := by
    unfold feed
    simp only [session_give, shows.initiator, asks, List.drop_left]
    rfl
  rw [fed]
  constructor
  case initiator =>
    change ((exchange.give .initiator input).give .initiator
      (.bindPending ⟨⟨exchange.lines.length⟩, index⟩)).session .initiator = after
    rw [session_give, session_give, shows.initiator, shows.lines, taken]
  case responder =>
    have given := session_give_other exchange .initiator input
    have dialed := session_give_other (exchange.give .initiator input) .initiator
      (.bindPending ⟨⟨exchange.lines.length⟩, index⟩)
    exact dialed.trans (given.trans shows.responder)
  case lines => exact congrArg (· ++ _) shows.lines
  case initiatorBuffer => exact few
  case responderBuffer => exact shows.responderBuffer

theorem onLane (shows : Shows caller callee lines exchange) (side : Role)
    (line : Nat) :
    Shows caller callee (lines.modify line (·.onLane side Lane.receive))
      (exchange.onLane side line Lane.receive) :=
  ⟨shows.initiator, shows.responder, by rw [Exchange.onLane, shows.lines], shows.initiatorBuffer,
    shows.responderBuffer⟩

private theorem step_arrive {side : Role} (known : exchange.lines[line]? = some connection)
    (whole : (connection.lane side).severed = none)
    (sent : (exchange.sentTo side line connection)[(connection.lane side).arrived]? =
      some packet)
    (reports : .ofReport ⟨line⟩ 0 (connection.report side packet) = input) :
    exchange.step? (.arrive side line 0) =
      some ((exchange.onLane side line Lane.receive).feed side input) := by
  have passes : (connection.lane side).passes = true := by
    simp [Lane.passes, whole]
  simp [step?, arrival?, next?, known, passes, sent, reports]

theorem arrive_responder (shows : Shows caller callee lines exchange) (line : Nat)
    (known : lines[line]? = some connection) (whole : connection.toResponder.severed = none)
    (sent : (connection.handshake.toPacket :: packetsOn ⟨line⟩ caller.actions)[
      connection.toResponder.arrived]? = some packet)
    (reports : .ofReport ⟨line⟩ 0 (connection.report .responder packet) = input)
    (taken : callee.step input = after) (few : after.delivery.buffer.length ≤ 1) :
    ∃ next, Leads exchange [.arrive .responder line 0] next ∧
      Shows caller after (lines.modify line (·.onLane .responder Lane.receive)) next := by
  have next := (shows.onLane .responder line).feed_responder input taken few
  rw [← shows.lines] at known
  rw [← shows.initiator] at sent
  exact ⟨_, .single shows.roomy (step_arrive known whole sent reports) next.roomy, next⟩

theorem arrive_initiator (shows : Shows caller callee lines exchange) (line : Nat)
    (known : lines[line]? = some connection) (whole : connection.toInitiator.severed = none)
    (sent : (packetsOn ⟨line⟩ callee.actions)[connection.toInitiator.arrived]? = some packet)
    (reports : .ofReport ⟨line⟩ 0 (connection.report .initiator packet) = input)
    (taken : caller.step input = after) (few : after.delivery.buffer.length ≤ 1)
    (dials : dialedIn after.outputs = dialedIn caller.outputs) :
    ∃ next, Leads exchange [.arrive .initiator line 0] next ∧
      Shows after callee (lines.modify line (·.onLane .initiator Lane.receive)) next := by
  have next := (shows.onLane .initiator line).feed_initiator input taken few dials
  rw [← shows.lines] at known
  rw [← shows.responder] at sent
  exact ⟨_, .single shows.roomy (step_arrive known whole sent reports) next.roomy, next⟩

end Shows

end Exchange

end ResumableSession
