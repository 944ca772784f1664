import ResumableSession.Proofs.Exchange.Trust
import ResumableSession.Proofs.Session.Muting

/-!
# A twin that keeps to its ids

From outside, an end whose ids have run out looks like one whose application stopped in
time, or whose session was ended by force.  So an exchange in which there is no bound on
what is sent has a twin whose ids fit, and in which both ends have sent, delivered and
dialed just the same.  The twin is found along the run, one step at a time.
-/

namespace ResumableSession

variable {P : Type}

namespace Session

variable {session : Session P} {input : Input P}

theorem accepts_of_closed (isOver : session.phase = .closed) (input : Input P) :
    session.accepts input = [] := by
  cases input <;> simp [accepts, isOver]

theorem accepts_of_foreign (foreign : input.isLocal = false) : session.accepts input = [] := by
  cases input with
  | send payload => cases foreign
  | _ => rfl

theorem assignedBy_of_closed (isOver : session.phase = .closed) (input : Input P) :
    session.assignedBy input = 0 :=
  assignedBy_eq_zero fun pushes => pushes.possible.1 isOver

private theorem assignedBy_of_unbound (unbound : session.current = none)
    (foreign : input.isLocal = false) : session.assignedBy input = 0 := by
  refine assignedBy_eq_zero fun pushes => ?_
  simp [pushes.possible.2 unbound] at foreign

private theorem assignedBy_closeImmediately (session : Session P) (reason : CloseReason) :
    session.assignedBy (.closeImmediately reason) = 0 :=
  assignedBy_eq_zero fun pushes => nomatch pushes

private theorem assignedBy_bindPending (session : Session P) (line : Line) :
    session.assignedBy (.bindPending line) = 0 :=
  assignedBy_eq_zero fun pushes => nomatch pushes

private theorem stops_closeImmediately (session : Session P) (reason : CloseReason) :
    Stops session (session.step (.closeImmediately reason)) := by
  by_cases isOver : session.phase = .closed
  · exact (inert_step isOver _).stops
  · have forced : session.step (.closeImmediately reason) = session.terminate reason :=
      if_neg isOver
    rw [forced]
    exact stops_terminate session reason

end Session

namespace Party

variable {twin party : Party P} {input : Input P}

def take (party : Party P) (input : Input P) : Party P where
  session := party.session.step input
  accepted := party.accepted ++ party.session.accepts input
  assigned := party.assigned + party.session.assignedBy input

/-- As many ids were given out as there are, or more. -/
def Spent (party : Party P) : Prop := UInt32.size ≤ party.assigned

theorem Spent.take (spent : party.Spent) (input : Input P) : (party.take input).Spent :=
  Nat.le_trans spent (Nat.le_add_right _ _)

/-- Nothing that counts has happened to an end. -/
structure Unmoved (before after : Party P) : Prop where
  assigned : after.assigned = before.assigned
  delivery : after.session.delivery = before.session.delivery
  sent : ∀ line, packetsOn line after.session.actions = packetsOn line before.session.actions

theorem Unmoved.refl (party : Party P) : Unmoved party party := ⟨rfl, rfl, fun _ => rfl⟩

theorem Unmoved.trans {first second third : Party P} (earlier : Unmoved first second)
    (later : Unmoved second third) : Unmoved first third :=
  ⟨later.assigned.trans earlier.assigned, later.delivery.trans earlier.delivery,
    fun line => (later.sent line).trans (earlier.sent line)⟩

private theorem unmoved_bindPending (party : Party P) (line : Line) :
    Unmoved party (party.take (.bindPending line)) where
  assigned := by rw [take, Session.assignedBy_bindPending, Nat.add_zero]
  delivery := by
    simp only [take, Session.step, Session.bindPending, Session.discard_eq]
    split <;> rfl
  sent := by
    intro target
    simp only [take, Session.step, Session.bindPending, Session.discard_eq]
    split <;> simp

/-- Both sessions have ended, and nobody but their applications can tell them apart. -/
structure Silenced (twin party : Party P) : Prop where
  twinOver : twin.session.phase = .closed
  isOver : party.session.phase = .closed
  delivered : deliveredIn party.session.outputs = deliveredIn twin.session.outputs
  sent : ∀ line, packetsOn line party.session.actions = packetsOn line twin.session.actions
  accepted : twin.accepted <+: party.accepted
  spent : party.Spent

namespace Silenced

private theorem take_twin (silenced : Silenced twin party) (input : Input P) :
    Silenced (twin.take input) party := by
  have inert := Session.inert_step silenced.twinOver input
  exact
    { silenced with
      twinOver := inert.isOver
      delivered := by
        rw [silenced.delivered, take, inert.outputs]
      sent := fun line => (silenced.sent line).trans (inert.sent line).symm
      accepted := by
        rw [take, Session.accepts_of_closed silenced.twinOver, List.append_nil]
        exact silenced.accepted }

theorem take (silenced : Silenced twin party) (input : Input P) :
    Silenced twin (party.take input) := by
  have inert := Session.inert_step silenced.isOver input
  exact
    { twinOver := silenced.twinOver
      isOver := inert.isOver
      delivered := by
        rw [Party.take, inert.outputs]
        exact silenced.delivered
      sent := fun line => (inert.sent line).trans (silenced.sent line)
      accepted := silenced.accepted.trans (List.prefix_append _ _)
      spent := silenced.spent.take input }

end Silenced

/-- How an end may stand to its twin, whose ids fit. -/
inductive Follows : Party P → Party P → Prop where
  | abreast (party : Party P) : Follows party party
  | muted {twin party : Party P} (muted : Session.Muted twin.session party.session)
      (accepted : twin.accepted <+: party.accepted) (spent : party.Spent) : Follows twin party
  | silenced {twin party : Party P} (silenced : Silenced twin party) : Follows twin party

namespace Follows

theorem delivered (follows : Follows twin party) :
    deliveredIn party.session.outputs = deliveredIn twin.session.outputs := by
  cases follows with
  | abreast => rfl
  | muted muted _ _ => exact muted.delivered
  | silenced silenced => exact silenced.delivered

theorem sent (follows : Follows twin party) (line : LineId) :
    packetsOn line party.session.actions = packetsOn line twin.session.actions := by
  cases follows with
  | abreast => rfl
  | muted muted _ _ => exact muted.sent line
  | silenced silenced => exact silenced.sent line

theorem accepted (follows : Follows twin party) : twin.accepted <+: party.accepted := by
  cases follows with
  | abreast => exact List.prefix_rfl
  | muted _ accepted _ => exact accepted
  | silenced silenced => exact silenced.accepted

theorem bindPending (follows : Follows twin party) (line : Line) :
    Follows (twin.take (.bindPending line)) (party.take (.bindPending line)) := by
  cases follows with
  | abreast => exact .abreast _
  | muted muted accepted spent =>
      refine .muted (muted.bindPending line).muted ?_ (spent.take _)
      simpa [take, Session.accepts] using accepted
  | silenced silenced => exact .silenced ((silenced.take_twin _).take _)

/-- The twin of an end that stops is ended by force. -/
theorem stops (follows : Follows twin party)
    (stops : Session.Stops party.session (party.session.step input))
    (spent : (party.take input).Spent) (reason : CloseReason) :
    Silenced (twin.take (.closeImmediately reason)) (party.take input) := by
  have forced := Session.stops_closeImmediately twin.session reason
  exact
    { twinOver := forced.isOver
      isOver := stops.isOver
      delivered := by
        rw [take, stops.delivered, take, forced.delivered]
        exact follows.delivered
      sent := by
        intro line
        rw [take, stops.sent, take, forced.sent]
        exact follows.sent line
      accepted := by
        have own : (twin.take (.closeImmediately reason)).accepted = twin.accepted :=
          List.append_nil _
        rw [own]
        exact follows.accepted.trans (List.prefix_append _ _)
      spent }

end Follows

/-- How the twin of an end keeps up with what is given to the end. -/
inductive KeepsUp (pushed : List (ReliableBody P)) (twin party : Party P) (input : Input P) :
    Prop where
  /-- It is given the same, and both ask for the same lines. -/
  | along (room : twin.assigned + twin.session.assignedBy input < UInt32.size)
      (follows : Follows (twin.take input) (party.take input))
      (told : ∃ new, (party.session.step input).outputs = party.session.outputs ++ new ∧
        (twin.session.step input).outputs = twin.session.outputs ++ new) :
      KeepsUp pushed twin party input
  /-- It is given nothing. -/
  | stays (wish : input.isLocal) (follows : Follows twin (party.take input))
      (dials : dialedIn (party.session.step input).outputs = dialedIn party.session.outputs) :
      KeepsUp pushed twin party input
  /-- It is ended by force. -/
  | stops (stops : Session.Stops party.session (party.session.step input))
      (spent : (party.take input).Spent) : KeepsUp pushed twin party input
  /-- It cannot keep up. -/
  | parts (same : twin = party) (brought : party.session.Brings input .fin)
      (parts : Session.Parts pushed party.session (party.session.step input))
      (spent : (party.take input).Spent) : KeepsUp pushed twin party input

section

variable {pushed : List (ReliableBody P)}

theorem overruns (books : Session.Books pushed party.session) (guarded : party.session.Guarded)
    (entered : party.session.closing.state ≠ .closeWait)
    (counted : pushed.length = party.assigned)
    (few : (party.session.step input).delivery.buffer.length < UInt32.size)
    (spent : (party.take input).Spent) :
    Session.Overruns pushed party.session (party.session.step input) input := by
  have small := books.length_lt
  have full : UInt32.size ≤ party.assigned + party.session.assignedBy input := spent
  have pushes : Session.Pushes party.session input (party.session.step input) := by
    apply Classical.byContradiction
    intro impossible
    rw [Session.assignedBy_eq_zero impossible] at full
    omega
  rw [← counted] at full
  exact pushes.overruns books guarded entered full few

private theorem keepsUp_abreast (books : Session.Books pushed party.session)
    (guarded : party.session.Guarded) (entered : party.session.closing.state ≠ .closeWait)
    (counted : pushed.length = party.assigned)
    (few : (party.session.step input).delivery.buffer.length < UInt32.size) :
    KeepsUp pushed party party input := by
  by_cases room : party.assigned + party.session.assignedBy input < UInt32.size
  · obtain ⟨_, new, _, told, _⟩ := Session.handles_step party.session input
    exact .along room (.abreast _) ⟨new, told, told⟩
  · -- Whoever gives out too many ids has no line, or it ends.
    have spent : (party.take input).Spent := Nat.le_of_not_lt room
    cases overruns books guarded entered counted few spent with
    | mutes unbound wish dials muted =>
        exact .stays wish (.muted muted (List.prefix_append _ _) spent) dials
    | breaks breaks => exact .stops breaks.toStops spent
    | parts brought parts => exact .parts rfl brought parts spent

private theorem keepsUp_muted (muted : Session.Muted twin.session party.session)
    (accepted : twin.accepted <+: party.accepted) (spent : party.Spent)
    (inOrder : twin.session.delivery.InOrder) (fits : twin.assigned < UInt32.size)
    (trusts : twin.session.Trusts input)
    (few : party.session.delivery.buffer.length < UInt32.size)
    (few' : (party.session.step input).delivery.buffer.length < UInt32.size) :
    KeepsUp pushed twin party input := by
  have longer : twin.accepted <+: (party.take input).accepted :=
    accepted.trans (List.prefix_append _ _)
  cases wish : input.isLocal with
  | true =>
      obtain ⟨hoarded, dials⟩ := muted.hoards inOrder wish few'
      exact .stays wish (.muted hoarded longer (spent.take _)) dials
  | false =>
      rcases muted.step inOrder few trusts wish with keeps | stops
      · have none := Session.assignedBy_of_unbound muted.twin_unbound wish
        refine .along (by rw [none]; exact fits) (.muted keeps.muted ?_ (spent.take _)) keeps.told
        rw [take, Session.accepts_of_foreign wish, List.append_nil]
        exact longer
      · exact .stops stops (spent.take _)

private theorem Follows.keepsUp (follows : Follows twin party)
    (books : Session.Books pushed twin.session)
    (guarded : twin.session.Guarded) (entered : twin.session.closing.state ≠ .closeWait)
    (counted : pushed.length = twin.assigned) (trusts : twin.session.Trusts input)
    (few : party.session.delivery.buffer.length < UInt32.size)
    (few' : (party.session.step input).delivery.buffer.length < UInt32.size) :
    KeepsUp pushed twin party input := by
  have fits : twin.assigned < UInt32.size := counted ▸ books.length_lt
  cases follows with
  | abreast => exact keepsUp_abreast books guarded entered counted few'
  | muted muted accepted spent =>
      exact keepsUp_muted muted accepted spent books.keeps.inOrder fits trusts few few'
  | silenced silenced =>
      have none := Session.assignedBy_of_closed silenced.twinOver input
      refine .along (by rw [none]; exact fits) (.silenced ((silenced.take_twin _).take _)) ⟨[], ?_⟩
      rw [List.append_nil, List.append_nil]
      exact ⟨(Session.inert_step silenced.isOver input).outputs,
        (Session.inert_step silenced.twinOver input).outputs⟩

end

end Party

namespace Exchange

variable {exchange twin : Exchange P} {pushed : Role → List (ReliableBody P)} {side : Role}
  {input : Input P}

theorem party_give (exchange : Exchange P) (side : Role) (input : Input P) :
    (exchange.give side input).party side = (exchange.party side).take input := by
  simp [give, Party.take, session]

private theorem unmoved_dial (exchange : Exchange P) (handshake : Handshake) (target : Role) :
    (exchange.party target).Unmoved ((exchange.dial handshake).party target) := by
  change (exchange.party target).Unmoved ((exchange.give .initiator (.bindPending _)).party target)
  rcases side_cases .initiator target with rfl | rfl
  · rw [party_give]
    exact Party.unmoved_bindPending _ _
  · rw [party_give_other]
    exact .refl _

private theorem unmoved_foldl_dial (handshakes : List Handshake) (target : Role) :
    ∀ exchange : Exchange P,
      (exchange.party target).Unmoved ((handshakes.foldl dial exchange).party target) := by
  induction handshakes with
  | nil => exact fun _ => .refl _
  | cons handshake handshakes induction =>
      exact fun exchange => (unmoved_dial exchange handshake target).trans (induction _)

theorem unmoved_feed (exchange : Exchange P) (side : Role) (input : Input P) (target : Role) :
    ((exchange.give side input).party target).Unmoved
      ((exchange.feed side input).party target) := by
  cases side with
  | responder => exact .refl _
  | initiator => exact unmoved_foldl_dial _ target _

theorem IdsFit.feed (fits : exchange.IdsFit)
    (room : (exchange.party side).assigned + (exchange.session side).assignedBy input <
      UInt32.size) : (exchange.feed side input).IdsFit := by
  intro target
  rw [(unmoved_feed exchange side input target).assigned]
  rcases side_cases side target with rfl | rfl
  · rw [party_give]
    exact room
  · rw [party_give_other]
    exact fits _

theorem feed_eq_give_of_dials (exchange : Exchange P)
    (dials : dialedIn ((exchange.session side).step input).outputs =
      dialedIn (exchange.session side).outputs) :
    exchange.feed side input = exchange.give side input := by
  obtain ⟨_, new, _, told, _⟩ := Session.handles_step (exchange.session side) input
  exact feed_eq_give exchange ⟨new, told.symm⟩ dials

/-- All that can be told of an exchange from outside is the same for its twin. -/
structure Mirrors (twin exchange : Exchange P) : Prop where
  lines : twin.lines = exchange.lines
  follows : ∀ side, (twin.party side).Follows (exchange.party side)

namespace Mirrors

variable {twin' exchange' : Exchange P}

theorem refl (exchange : Exchange P) : Mirrors exchange exchange :=
  ⟨rfl, fun _ => .abreast _⟩

private theorem of_end (mirrors : Mirrors twin exchange) (side : Role)
    (lines : twin'.lines = exchange'.lines)
    (own : (twin'.party side).Follows (exchange'.party side))
    (theirs : twin'.party side.other = twin.party side.other)
    (ours : exchange'.party side.other = exchange.party side.other) : Mirrors twin' exchange' := by
  refine ⟨lines, fun target => ?_⟩
  rcases side_cases side target with rfl | rfl
  · exact own
  · rw [theirs, ours]
    exact mirrors.follows _

theorem onLane (mirrors : Mirrors twin exchange) (side : Role) (line : Nat)
    (change : Lane → Lane) :
    Mirrors (twin.onLane side line change) (exchange.onLane side line change) where
  lines := by
    simp only [Exchange.onLane, mirrors.lines]
  follows := mirrors.follows

theorem arrival (mirrors : Mirrors twin exchange) (side : Role) (line : Nat) (clock : UInt32) :
    twin.arrival? side line clock = exchange.arrival? side line clock := by
  have sent : ∀ connection, twin.sentTo side line connection =
      exchange.sentTo side line connection := by
    intro connection
    cases side with
    | initiator => exact ((mirrors.follows .responder).sent ⟨line⟩).symm
    | responder =>
        exact congrArg (connection.handshake.toPacket :: ·)
          ((mirrors.follows .initiator).sent ⟨line⟩).symm
  simp only [arrival?, next?, mirrors.lines, sent]

theorem give (mirrors : Mirrors twin exchange)
    (follows : ((twin.party side).take input).Follows ((exchange.party side).take input)) :
    Mirrors (twin.give side input) (exchange.give side input) := by
  refine mirrors.of_end side mirrors.lines ?_ (party_give_other _ _ _) (party_give_other _ _ _)
  rw [party_give, party_give]
  exact follows

theorem dial (mirrors : Mirrors twin exchange) (handshake : Handshake) :
    Mirrors (twin.dial handshake) (exchange.dial handshake) := by
  have given := mirrors.give ((mirrors.follows .initiator).bindPending
    ⟨⟨exchange.lines.length⟩, handshake.lineIndex⟩)
  simp only [Exchange.dial, mirrors.lines]
  exact ⟨rfl, given.follows⟩

theorem foldl_dial (handshakes : List Handshake) :
    ∀ {twin exchange : Exchange P}, Mirrors twin exchange →
      Mirrors (handshakes.foldl Exchange.dial twin) (handshakes.foldl Exchange.dial exchange) := by
  induction handshakes with
  | nil => exact fun mirrors => mirrors
  | cons handshake handshakes induction => exact fun mirrors => induction (mirrors.dial handshake)

/-- The twin takes the same input, and the same lines are dialed. -/
theorem feed (mirrors : Mirrors twin exchange)
    (follows : ((twin.party side).take input).Follows ((exchange.party side).take input))
    (told : ∃ new,
      ((exchange.session side).step input).outputs = (exchange.session side).outputs ++ new ∧
        ((twin.session side).step input).outputs = (twin.session side).outputs ++ new) :
    Mirrors (twin.feed side input) (exchange.feed side input) := by
  have given := mirrors.give follows
  cases side with
  | responder => exact given
  | initiator =>
      obtain ⟨new, ours, theirs⟩ := told
      unfold Exchange.feed
      simp only [session_give, ours, theirs, List.drop_left]
      exact foldl_dial _ given

private theorem feed_stays (mirrors : Mirrors twin exchange)
    (follows : (twin.party side).Follows ((exchange.party side).take input))
    (dials : dialedIn ((exchange.session side).step input).outputs =
      dialedIn (exchange.session side).outputs) : Mirrors twin (exchange.feed side input) := by
  rw [feed_eq_give_of_dials exchange dials]
  refine mirrors.of_end side mirrors.lines ?_ rfl (party_give_other _ _ _)
  rw [party_give]
  exact follows

end Mirrors

/-- An end parts from its twin: its FinAck takes the last id, and its Fin finds none. -/
structure Divides (twin exchange : Exchange P) (pushed : Role → List (ReliableBody P))
    (side : Role) (input : Input P) : Prop where
  mirrors : Mirrors twin exchange
  agreement : twin.Agreement pushed
  same : twin.party side = exchange.party side
  brought : (exchange.session side).Brings input .fin
  next : (pushed side.other)[exchange.received side]? = some .fin
  parts : Session.Parts (pushed side) (exchange.session side) ((exchange.session side).step input)
  spent : ((exchange.party side).take input).Spent

/-- No send buffer holds as many packets as there are ids. -/
def Roomy (exchange : Exchange P) : Prop :=
  ∀ side, (exchange.session side).delivery.buffer.length < UInt32.size

theorem Roomy.give (roomy : (exchange.feed side input).Roomy) :
    ((exchange.session side).step input).delivery.buffer.length < UInt32.size := by
  have room := roomy side
  rw [session, (unmoved_feed exchange side input side).delivery, party_give] at room
  exact room

private theorem feed_closeImmediately (exchange : Exchange P) (side : Role) (reason : CloseReason) :
    exchange.feed side (.closeImmediately reason) =
      exchange.give side (.closeImmediately reason) :=
  feed_eq_give_of_dials exchange (Session.stops_closeImmediately _ reason).dials

namespace Mirrors

theorem stops (mirrors : Mirrors twin exchange)
    (stops : Session.Stops (exchange.session side) ((exchange.session side).step input))
    (spent : ((exchange.party side).take input).Spent) :
    Mirrors (twin.give side (.closeImmediately .bookkeeping)) (exchange.feed side input) ∧
      Party.Silenced ((twin.give side (.closeImmediately .bookkeeping)).party side)
        ((exchange.feed side input).party side) := by
  have silenced := (mirrors.follows side).stops stops spent .bookkeeping
  rw [feed_eq_give_of_dials exchange stops.dials, party_give, party_give]
  refine ⟨?_, silenced⟩
  refine mirrors.of_end side mirrors.lines ?_ (party_give_other _ _ _) (party_give_other _ _ _)
  rw [party_give, party_give]
  exact .silenced silenced

/-- After the end the twin may be given what it likes. -/
theorem feed_silenced (mirrors : Mirrors twin exchange)
    (silenced : Party.Silenced (twin.party side) (exchange.party side)) (input : Input P) :
    Mirrors (twin.feed side input) exchange := by
  have inert := Session.inert_step silenced.twinOver input
  rw [feed_eq_give_of_dials twin inert.stops.dials]
  refine mirrors.of_end side mirrors.lines ?_ (party_give_other _ _ _) rfl
  rw [party_give]
  exact .silenced (silenced.take_twin input)

end Mirrors

section

variable {settings settings' : SessionSettings} {limits : RebindLimits} {token : String}
  {sessionId : UInt32}

/-- The exchange has a twin that can come about without running out of ids. -/
def Mirrored (start exchange : Exchange P) : Prop :=
  ∃ twin, Reachable start twin ∧ twin.IdsFit ∧ Mirrors twin exchange

private theorem step_own {event : Event P} (own : event.own? = some (side, input)) :
    exchange.step? event = some (exchange.feed side input) := by
  cases event <;> simp only [Event.own?, Option.some.injEq, Prod.mk.injEq, reduceCtorEq] at own
  all_goals
    obtain ⟨rfl, rfl⟩ := own
    rfl

theorem Reachable.abort {first : Exchange P} (reachable : Reachable first exchange)
    (fits : exchange.IdsFit) (side : Role) (reason : CloseReason) :
    Reachable first (exchange.give side (.closeImmediately reason)) ∧
      (exchange.give side (.closeImmediately reason)).IdsFit := by
  have none := Session.assignedBy_closeImmediately (exchange.session side) reason
  have stepped : exchange.step? (.abort side reason) =
      some (exchange.feed side (.closeImmediately reason)) := rfl
  rw [← feed_closeImmediately]
  exact ⟨reachable.step stepped, fits.feed (by rw [none]; exact fits side)⟩

private theorem Mirrors.keepsUp (mirrors : Mirrors twin exchange)
    (agreement : twin.Agreement pushed)
    (trusts : (twin.session side).Trusts input) (roomy : exchange.Roomy)
    (roomy' : (exchange.feed side input).Roomy) :
    Party.KeepsUp (pushed side) (twin.party side) (exchange.party side) input :=
  (mirrors.follows side).keepsUp (agreement.books side) (agreement.records side).guarded
    (agreement.records side).not_closeWait (agreement.counted side) trusts (roomy side) roomy'.give

theorem Mirrored.own
    (mirrored : Mirrored (start settings limits token sessionId settings') exchange)
    {event : Event P} (own : event.own? = some (side, input)) (roomy : exchange.Roomy)
    (roomy' : (exchange.feed side input).Roomy) :
    Mirrored (start settings limits token sessionId settings') (exchange.feed side input) := by
  obtain ⟨twin, reachable, fits, mirrors⟩ := mirrored
  obtain ⟨pushed, agreement⟩ := reachable_agreement reachable fits
  cases mirrors.keepsUp agreement (Event.own_trusted own _) roomy roomy' with
  | along room follows told =>
      exact ⟨_, reachable.step (step_own own), fits.feed room, mirrors.feed follows told⟩
  | stays wish follows dials => exact ⟨twin, reachable, fits, mirrors.feed_stays follows dials⟩
  | stops stops spent =>
      obtain ⟨forced, fits'⟩ := reachable.abort fits side .bookkeeping
      exact ⟨_, forced, fits', (mirrors.stops stops spent).1⟩
  | parts same brought parts spent => exact absurd brought ((Event.own_brings own).2 _ _)

private theorem arrival_foreign {line : Nat} {clock : UInt32}
    (arrives : exchange.arrival? side line clock = some input) : input.isLocal = false := by
  obtain ⟨connection, packet, _, _, rfl⟩ := arrival_cases arrives
  have reports := Input.isReport_ofReport ⟨line⟩ clock (connection.report side packet)
  generalize Input.ofReport ⟨line⟩ clock (connection.report side packet) = input at reports ⊢
  cases input <;> first | rfl | cases reports

private theorem arrival_give (exchange : Exchange P) (side : Role) (input : Input P) (line : Nat)
    (clock : UInt32) :
    (exchange.give side input).arrival? side line clock = exchange.arrival? side line clock := by
  have same := sentTo_give exchange side input line
  simp only [arrival?, next?, same]
  rfl

theorem Mirrored.arrive
    (mirrored : Mirrored (start settings limits token sessionId settings') exchange)
    (few : exchange.lines.length ≤ UInt32.size) {line : Nat} {clock : UInt32}
    (arrives : exchange.arrival? side line clock = some input) (roomy : exchange.Roomy)
    (roomy' : ((exchange.onLane side line Lane.receive).feed side input).Roomy) :
    Mirrored (start settings limits token sessionId settings')
        ((exchange.onLane side line Lane.receive).feed side input) ∨
      ∃ twin pushed, Divides twin (exchange.onLane side line Lane.receive) pushed side input := by
  obtain ⟨twin, reachable, fits, mirrors⟩ := mirrored
  obtain ⟨pushed, agreement⟩ := reachable_agreement reachable fits
  have lineup := reachable_lineup reachable fits (mirrors.lines ▸ few)
  have comes : twin.arrival? side line clock = some input := by rw [mirrors.arrival, arrives]
  have moved := mirrors.onLane side line Lane.receive
  cases moved.keepsUp (agreement.onLane side line Lane.receive) (lineup.trusts agreement comes)
    roomy roomy' with
  | along room follows told =>
      have stepped : twin.step? (.arrive side line clock) =
          some ((twin.onLane side line Lane.receive).feed side input) := by
        rw [step?, comes]
        rfl
      have fits' : (twin.onLane side line Lane.receive).IdsFit := fits
      exact .inl ⟨_, reachable.step stepped, fits'.feed room, moved.feed follows told⟩
  -- Only what the application wants can be kept from the twin.
  | stays wish follows dials => simp [arrival_foreign arrives] at wish
  | stops stops spent =>
      left
      obtain ⟨forced, fits'⟩ := reachable.abort fits side .bookkeeping
      obtain ⟨ended, silenced⟩ := moved.stops stops spent
      have arrives' : (twin.give side (.closeImmediately .bookkeeping)).arrival? side line clock =
          some input := by
        rw [arrival_give, comes]
      have stepped : (twin.give side (.closeImmediately .bookkeeping)).step?
          (.arrive side line clock) = some (((twin.onLane side line Lane.receive).give side
            (.closeImmediately .bookkeeping)).feed side input) := by
        rw [step?, arrives']
        rfl
      have fitsOver : ((twin.onLane side line Lane.receive).give side
          (.closeImmediately .bookkeeping)).IdsFit := fits'
      have none := Session.assignedBy_of_closed silenced.twinOver input
      exact ⟨_, forced.step stepped, fitsOver.feed (by rw [session, none]; exact fitsOver side),
        ended.feed_silenced silenced input⟩
  | parts same brought parts spent =>
      right
      have mine : twin.session side = exchange.session side := congrArg Party.session same
      have next := (agreement.arrival comes).2 .fin (mine ▸ brought)
      rw [received, mine] at next
      exact ⟨_, pushed, moved, agreement.onLane side line Lane.receive, same, brought, next, parts,
        spent⟩

end

end Exchange

end ResumableSession
