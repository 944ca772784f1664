import ResumableSession.Proofs.Exchange.Farewell
import ResumableSession.Proofs.Exchange.System

/-!
# What two ends know of each other

The histories of both ends explain everything: what an end has received is a part
of what the other has pushed, what it takes for acknowledged was received, and
whatever is under way on any line, old or new, says the truth about both.
-/

namespace ResumableSession

namespace Exchange

variable {P : Type}

/-- How many bodies an end has received. -/
def received (exchange : Exchange P) (side : Role) : Nat :=
  (exchange.session side).delivery.lastRecvId.toNat

/-- Both ends agree with the histories of both. -/
structure Agreement (exchange : Exchange P) (pushed : Role → List (ReliableBody P)) :
    Prop where
  books : ∀ side, Session.Books (pushed side) (exchange.session side)
  counted : ∀ side, (pushed side).length = (exchange.party side).assigned
  heard : ∀ side, exchange.received side ≤ (pushed side.other).length
  acked : ∀ side, (exchange.session side).delivery.acked ≤ exchange.received side.other
  truthful : ∀ side line, ∀ packet ∈ packetsOn line (exchange.session side).actions,
    packet.Truthful (pushed side) (exchange.received side)
  requests : ∀ handshake ∈ exchange.lines.map (·.handshake),
    (handshake.toPacket : Packet P).Truthful (pushed .initiator) (exchange.received .initiator)
  records : ∀ side, Session.Records (exchange.party side).accepted (pushed side)
    ((pushed side.other).take (exchange.received side)) (exchange.session side)

theorem side_cases (side target : Role) : target = side ∨ target = side.other := by
  cases side <;> cases target <;> simp [Role.other]

section

variable (exchange : Exchange P) (side : Role) (input : Input P)

theorem session_give : (exchange.give side input).session side =
    (exchange.session side).step input := by
  simp [give, session]

theorem party_give_other :
    (exchange.give side input).party side.other = exchange.party side.other := by
  simp [give, Role.other_ne]

theorem session_give_other :
    (exchange.give side input).session side.other = exchange.session side.other := by
  rw [session, session, party_give_other]

private theorem received_give {fresh taken : List (ReliableBody P)}
    (turn : Session.Turn (exchange.session side) ((exchange.session side).step input) fresh taken) :
    (exchange.give side input).received side = exchange.received side + taken.length := by
  rw [received, session_give, turn.recvId]
  rfl

private theorem handshakes_onLane (line : Nat) (change : Lane → Lane) :
    (exchange.onLane side line change).lines.map (·.handshake) =
      exchange.lines.map (·.handshake) := by
  apply List.ext_getElem?
  intro index
  simp only [onLane, List.getElem?_map, List.getElem?_modify]
  cases exchange.lines[index]? with
  | none => rfl
  | some connection =>
      by_cases here : line = index <;> cases side <;> simp [here, Connection.onLane]

/-- The lines that an input makes the initiator ask for: none, or one with a true ack. -/
theorem dialed_give {pushed fresh taken : List (ReliableBody P)}
    (accounts : Session.Accounts input pushed fresh taken
      (exchange.session .initiator) ((exchange.session .initiator).step input)) :
    dialedIn (((exchange.give .initiator input).session .initiator).outputs.drop
        (exchange.session .initiator).outputs.length) = [] ∨
      ∃ sessionId index,
        dialedIn (((exchange.give .initiator input).session .initiator).outputs.drop
          (exchange.session .initiator).outputs.length) =
            [.rebind sessionId index
              ((exchange.give .initiator input).session .initiator).delivery.lastRecvId] := by
  rw [session_give]
  obtain ⟨new, grown⟩ := accounts.prefixed
  have dials := accounts.dials
  rw [← grown, List.drop_left]
  rw [← grown, dialedIn_append, List.append_right_eq_self] at dials
  rcases dials with none | ⟨sessionId, index, one⟩
  · exact .inl none
  · exact .inr ⟨sessionId, index, List.append_cancel_left one⟩

end

namespace Agreement

variable {exchange : Exchange P} {pushed : Role → List (ReliableBody P)} {side : Role}
  {input : Input P} {fresh taken : List (ReliableBody P)}

/-- What an end pushes and takes in keeps both histories as they are explained. -/
theorem give (agreement : exchange.Agreement pushed)
    (accounts : Session.Accounts input (pushed side) fresh taken (exchange.session side)
      ((exchange.session side).step input))
    (ack : input.ack ≤ exchange.received side.other)
    (next : ∀ body ∈ taken, (pushed side.other)[exchange.received side]? = some body) :
    (exchange.give side input).Agreement
      (Function.update pushed side (pushed side ++ fresh)) := by
  have own : Function.update pushed side (pushed side ++ fresh) side = pushed side ++ fresh :=
    Function.update_self _ _ _
  have others : Function.update pushed side (pushed side ++ fresh) side.other =
      pushed side.other :=
    Function.update_of_ne side.other_ne _ _
  have recv : (exchange.give side input).received side =
      exchange.received side + taken.length :=
    received_give exchange side input accounts.turn
  have recvOther : (exchange.give side input).received side.other =
      exchange.received side.other := by
    rw [received, session_give_other]
    rfl
  have bound : exchange.received side + taken.length ≤ (pushed side.other).length := by
    rcases taken with _ | ⟨body, _ | ⟨_, _⟩⟩
    · exact agreement.heard side
    · exact (List.getElem?_eq_some_iff.mp (next body (by simp))).1
    · have turn := accounts.turn
      cases turn
  exact
    { books := by
        intro target
        rcases side_cases side target with rfl | rfl
        · rw [own, session_give]
          exact accounts.books
        · rw [others, session_give_other]
          exact agreement.books _
      counted := by
        intro target
        rcases side_cases side target with rfl | rfl
        · have given := accounts.length_fresh (agreement.books target)
          have counted := agreement.counted target
          rw [own, List.length_append, given, counted]
          simp [Exchange.give]
        · rw [others, party_give_other]
          exact agreement.counted _
      heard := by
        intro target
        rcases side_cases side target with rfl | rfl
        · rw [others, recv]
          exact bound
        · have heard := agreement.heard side.other
          rw [Role.other_other] at heard ⊢
          rw [own, recvOther, List.length_append]
          omega
      acked := by
        intro target
        rcases side_cases side target with rfl | rfl
        · have before := agreement.acked target
          have heard := accounts.acked_le
          rw [session_give, recvOther]
          omega
        · have before := agreement.acked side.other
          rw [Role.other_other] at before ⊢
          rw [session_give_other, recv]
          omega
      truthful := by
        intro target line packet member
        rcases side_cases side target with rfl | rfl
        · rw [session_give] at member
          rw [own, received, session_give]
          rcases accounts.sent line packet member with old | new
          · refine (agreement.truthful target line packet old).mono (List.prefix_append _ _) ?_
            rw [accounts.turn.recvId]
            exact Nat.le_add_right _ _
          · exact new
        · rw [session_give_other] at member
          rw [others, recvOther]
          exact agreement.truthful _ line packet member
      requests := by
        intro handshake member
        have old := agreement.requests handshake member
        rcases side_cases side .initiator with same | other
        · rw [same] at old ⊢
          rw [own, recv]
          exact old.mono (List.prefix_append _ _) (Nat.le_add_right _ _)
        · rw [other] at old ⊢
          rw [others, recvOther]
          exact old
      records := by
        intro target
        rcases side_cases side target with rfl | rfl
        · have asked : .finAck ∈ pushed target.other → .fin ∈ pushed target := by
            intro answered
            have heardFin := (agreement.records target.other).finAck_pushed.mp answered
            have member := (agreement.records target.other).heardFin.mpr heardFin
            rw [Role.other_other] at member
            exact List.mem_of_mem_take member
          have accepted : ((exchange.give target input).party target).accepted =
              (exchange.party target).accepted ++ fresh.filterMap ReliableBody.payload? := by
            rw [accounts.payloads]
            simp [Exchange.give]
          rw [own, others, recv, accepted, session_give]
          exact (agreement.records target).turn (agreement.records target.other).mannered asked
            (agreement.books target).connected next accounts.turn
        · have records := agreement.records side.other
          have heard := agreement.heard side.other
          rw [Role.other_other] at records heard ⊢
          rw [own, others, recvOther, party_give_other, session_give_other,
            List.take_append_of_le_length heard]
          exact records }

theorem onLane (agreement : exchange.Agreement pushed) (side : Role) (line : Nat)
    (change : Lane → Lane) : (exchange.onLane side line change).Agreement pushed where
  books := agreement.books
  counted := agreement.counted
  heard := agreement.heard
  acked := agreement.acked
  truthful := agreement.truthful
  requests := by
    rw [handshakes_onLane]
    exact agreement.requests
  records := agreement.records

theorem dial (agreement : exchange.Agreement pushed) {handshake : Handshake}
    (truthful : (handshake.toPacket : Packet P).Truthful (pushed .initiator)
      (exchange.received .initiator)) :
    (exchange.dial handshake).Agreement pushed := by
  have accounts := Session.accounts_bindPending (agreement.books .initiator)
    ⟨⟨exchange.lines.length⟩, handshake.lineIndex⟩
  have given := agreement.give accounts (Nat.zero_le _) (by simp)
  rw [List.append_nil, Function.update_eq_self] at given
  exact
    { books := given.books
      counted := given.counted
      heard := given.heard
      acked := given.acked
      truthful := given.truthful
      requests := by
        intro dialed member
        simp only [Exchange.dial, List.map_append, List.map_cons, List.map_nil,
          List.mem_append, List.mem_singleton] at member
        rcases member with old | rfl
        · exact given.requests dialed old
        · have same : (exchange.give .initiator
              (.bindPending ⟨⟨exchange.lines.length⟩, dialed.lineIndex⟩)).received .initiator =
              exchange.received .initiator :=
            received_give exchange .initiator
              (.bindPending ⟨⟨exchange.lines.length⟩, dialed.lineIndex⟩) accounts.turn
          exact truthful.mono (List.prefix_refl _) (Nat.le_of_eq same.symm)
      records := given.records }

theorem feed (agreement : exchange.Agreement pushed)
    (room : (exchange.party side).assigned + (exchange.session side).assignedBy input <
      UInt32.size)
    (ack : input.ack ≤ exchange.received side.other)
    (next : ∀ body, (exchange.session side).Brings input body →
      (pushed side.other)[exchange.received side]? = some body) :
    ∃ pushed', (exchange.feed side input).Agreement pushed' := by
  obtain ⟨fresh, taken, accounts⟩ := Session.accounts_step (agreement.books side)
    (agreement.records side).guarded input (by rw [agreement.counted]; exact room)
  have given := agreement.give accounts ack
    (fun body member => next body (accounts.brought body member))
  cases side with
  | responder => exact ⟨_, given⟩
  | initiator =>
      refine ⟨Function.update pushed .initiator (pushed .initiator ++ fresh), ?_⟩
      unfold Exchange.feed
      rcases dialed_give exchange input accounts with none | ⟨sessionId, index, one⟩
      · simp only [none, List.foldl_nil]
        exact given
      · simp only [one, List.foldl_cons, List.foldl_nil]
        exact given.dial (Nat.le_refl _)

end Agreement

theorem arrival_cases {exchange : Exchange P} {side : Role} {line : Nat} {clock : UInt32}
    {input : Input P} (arrives : exchange.arrival? side line clock = some input) :
    ∃ connection packet,
      exchange.lines[line]? = some connection ∧
      (exchange.sentTo side line connection)[(connection.lane side).arrived]? = some packet ∧
      input = .ofReport ⟨line⟩ clock (connection.report side packet) := by
  simp only [arrival?, next?, Option.map_eq_some_iff, Option.bind_eq_some_iff] at arrives
  obtain ⟨⟨connection, packet⟩, ⟨found, atLine, inLane⟩, rfl⟩ := arrives
  split at inLane
  · rw [Option.map_eq_some_iff] at inLane
    obtain ⟨sent, atFront, same⟩ := inLane
    simp only [Prod.mk.injEq] at same
    obtain ⟨rfl, rfl⟩ := same
    exact ⟨found, sent, atLine, atFront, rfl⟩
  · simp at inLane

end Exchange

namespace Handshake

variable {P : Type}

theorem toPacket_of_ofPacket {packet : Packet P} {handshake : Handshake}
    (opens : ofPacket packet = .ok handshake) : packet = handshake.toPacket := by
  cases packet <;> simp only [ofPacket, Except.ok.injEq, reduceCtorEq] at opens <;>
    subst opens <;> rfl

end Handshake

theorem Connection.report_truthful {P : Type} {connection : Connection} {side : Role}
    {packet : Packet P} {pushed : List (ReliableBody P)} {received : Nat}
    (truthful : packet.Truthful pushed received) (line : LineId) (clock : UInt32) :
    (Input.ofReport line clock (connection.report side packet)).ack ≤ received ∧
      ∀ (session : Session P) (body : ReliableBody P),
        session.Brings (.ofReport line clock (connection.report side packet)) body →
          pushed[session.delivery.lastRecvId.toNat]? = some body := by
  unfold report
  split
  · refine ⟨?_, ?_⟩
    · cases packet with
      | reliable packet => exact truthful.2.2
      | ack latest => exact truthful
      | _ => exact Nat.zero_le _
    · rintro session body ⟨target, reliable, clock', same, rfl, next⟩
      simp only [Input.ofReport, Input.packet.injEq] at same
      obtain ⟨-, rfl, -⟩ := same
      have pushedBody := truthful.2.1
      rw [next] at pushedBody
      exact pushedBody
  · split
    · split
      · next handshake opens =>
          rw [Handshake.toPacket_of_ofPacket opens] at truthful
          cases handshake with
          | create token => exact ⟨Nat.zero_le _, by simp [Session.Brings, Input.ofReport]⟩
          | rebind _ _ clientAck => exact ⟨truthful, by simp [Session.Brings, Input.ofReport]⟩
      · exact ⟨Nat.zero_le _, by simp [Session.Brings, Input.ofReport]⟩
    · split
      · exact ⟨Nat.zero_le _, by simp [Session.Brings, Input.ofReport]⟩
      · exact ⟨truthful, by simp [Session.Brings, Input.ofReport]⟩
      · exact ⟨Nat.zero_le _, by simp [Session.Brings, Input.ofReport]⟩

namespace Exchange

variable {P : Type}

namespace Agreement

variable {exchange : Exchange P} {pushed : Role → List (ReliableBody P)}

theorem sent (agreement : exchange.Agreement pushed) {side : Role} {line : Nat}
    {connection : Connection} (found : exchange.lines[line]? = some connection)
    {packet : Packet P} (member : packet ∈ exchange.sentTo side line connection) :
    packet.Truthful (pushed side.other) (exchange.received side.other) := by
  cases side with
  | initiator => exact agreement.truthful .responder ⟨line⟩ packet member
  | responder =>
      rcases List.mem_cons.mp member with rfl | sent
      · exact agreement.requests _ (List.mem_map.mpr ⟨connection, List.mem_of_getElem? found, rfl⟩)
      · exact agreement.truthful .initiator ⟨line⟩ packet sent

/-- Whatever comes next to an end is true to the histories. -/
theorem arrival (agreement : exchange.Agreement pushed) {side : Role} {line : Nat}
    {clock : UInt32} {input : Input P}
    (arrives : exchange.arrival? side line clock = some input) :
    input.ack ≤ exchange.received side.other ∧
      ∀ body, (exchange.session side).Brings input body →
        (pushed side.other)[exchange.received side]? = some body := by
  obtain ⟨connection, packet, found, atFront, rfl⟩ := arrival_cases arrives
  have truthful := agreement.sent found (List.mem_of_getElem? atFront)
  obtain ⟨ack, brings⟩ := Connection.report_truthful truthful ⟨line⟩ clock
  exact ⟨ack, brings _⟩

end Agreement

/-- What an event that concerns one end alone is to its session. -/
def Event.own? : Event P → Option (Role × Input P)
  | .send side payload => some (side, .send payload)
  | .close side => some (side, .close)
  | .abort side reason => some (side, .closeImmediately reason)
  | .tick side time clock => some (side, .update time clock)
  | .lost side line => some (side, .lineClosed ⟨line⟩)
  | .arrive .. | .sever .. => none

/-- An event cuts a lane, concerns one end alone, or brings a packet. -/
theorem step_cases {exchange exchange' : Exchange P} {event : Event P}
    (stepped : exchange.step? event = some exchange') :
    (∃ side line count, event = .sever side line count ∧
        exchange' = exchange.onLane side line (·.sever count)) ∨
      (∃ side input, event.own? = some (side, input) ∧ exchange' = exchange.feed side input) ∨
      ∃ side line clock input, event = .arrive side line clock ∧
        exchange.arrival? side line clock = some input ∧
        exchange' = (exchange.onLane side line Lane.receive).feed side input := by
  cases event with
  | arrive side line clock =>
      simp only [step?, Option.map_eq_some_iff] at stepped
      obtain ⟨input, arrives, rfl⟩ := stepped
      exact .inr (.inr ⟨side, line, clock, input, rfl, arrives, rfl⟩)
  | sever side line count =>
      simp only [step?, Option.some.injEq] at stepped
      exact .inl ⟨side, line, count, rfl, stepped.symm⟩
  | _ =>
      simp only [step?, Option.some.injEq] at stepped
      exact .inr (.inl ⟨_, _, rfl, stepped.symm⟩)

theorem Event.own_brings {event : Event P} {side : Role} {input : Input P}
    (own : event.own? = some (side, input)) :
    input.ack = 0 ∧ ∀ (session : Session P) (body : ReliableBody P),
      ¬session.Brings input body := by
  cases event <;> simp only [Event.own?, Option.some.injEq, Prod.mk.injEq, reduceCtorEq] at own
  all_goals
    obtain ⟨-, rfl⟩ := own
    exact ⟨rfl, by simp [Session.Brings]⟩

private theorem assigned_give_le (exchange : Exchange P) (side : Role) (input : Input P)
    (target : Role) :
    (exchange.party target).assigned ≤ ((exchange.give side input).party target).assigned := by
  rcases side_cases side target with rfl | rfl
  · simp [give]
  · exact Nat.le_of_eq (by rw [party_give_other])

/-- Dialing is nothing that an end puts out or that closing learns of. -/
theorem session_foldl_dial (handshakes : List Handshake) (side : Role) :
    ∀ exchange : Exchange P,
      ((handshakes.foldl dial exchange).session side).outputs =
          (exchange.session side).outputs ∧
        ((handshakes.foldl dial exchange).session side).closing =
          (exchange.session side).closing := by
  induction handshakes with
  | nil => exact fun _ => ⟨rfl, rfl⟩
  | cons handshake handshakes induction =>
      intro exchange
      obtain ⟨outputs, closing⟩ := induction (exchange.dial handshake)
      have kept : ((exchange.dial handshake).session side).outputs =
            (exchange.session side).outputs ∧
          ((exchange.dial handshake).session side).closing =
            (exchange.session side).closing := by
        change ((exchange.give .initiator _).session side).outputs = _ ∧
          ((exchange.give .initiator _).session side).closing = _
        rcases side_cases .initiator side with rfl | rfl
        · rw [session_give]
          simp only [Session.step, Session.bindPending, Session.discard_eq]
          split <;> exact ⟨rfl, rfl⟩
        · rw [session_give_other]
          exact ⟨rfl, rfl⟩
      exact ⟨outputs.trans kept.1, closing.trans kept.2⟩

theorem session_feed (exchange : Exchange P) (side : Role) (input : Input P) :
    ((exchange.feed side input).session side).outputs =
        ((exchange.session side).step input).outputs ∧
      ((exchange.feed side input).session side).closing =
        ((exchange.session side).step input).closing := by
  rw [← session_give]
  cases side with
  | responder => exact ⟨rfl, rfl⟩
  | initiator => exact session_foldl_dial _ _ _

theorem session_feed_other (exchange : Exchange P) (side : Role) (input : Input P) :
    ((exchange.feed side input).session side.other).outputs =
      (exchange.session side.other).outputs := by
  rw [← session_give_other exchange side input]
  cases side with
  | responder => rfl
  | initiator => exact (session_foldl_dial _ _ _).1

private theorem assigned_dial_le (handshakes : List Handshake) (target : Role) :
    ∀ exchange : Exchange P,
      (exchange.party target).assigned ≤
        ((handshakes.foldl dial exchange).party target).assigned := by
  induction handshakes with
  | nil => exact fun _ => Nat.le_refl _
  | cons handshake handshakes induction =>
      intro exchange
      exact Nat.le_trans (assigned_give_le exchange .initiator _ target)
        (induction (exchange.dial handshake))

private theorem assigned_feed_le (exchange : Exchange P) (side : Role) (input : Input P)
    (target : Role) :
    ((exchange.give side input).party target).assigned ≤
      ((exchange.feed side input).party target).assigned := by
  cases side with
  | responder => exact Nat.le_refl _
  | initiator => exact assigned_dial_le _ target _

theorem assigned_step_le {exchange exchange' : Exchange P} {event : Event P}
    (stepped : exchange.step? event = some exchange') (target : Role) :
    (exchange.party target).assigned ≤ (exchange'.party target).assigned := by
  rcases step_cases stepped with ⟨_, _, _, _, rfl⟩ | ⟨side, input, _, rfl⟩ |
    ⟨side, line, _, input, _, _, rfl⟩
  · exact Nat.le_refl _
  · exact Nat.le_trans (assigned_give_le exchange side input target)
      (assigned_feed_le exchange side input target)
  · exact Nat.le_trans (assigned_give_le (exchange.onLane side line Lane.receive) side input target)
      (assigned_feed_le _ side input target)

theorem IdsFit.before {exchange exchange' : Exchange P} {event : Event P}
    (fits : exchange'.IdsFit) (stepped : exchange.step? event = some exchange') :
    exchange.IdsFit :=
  fun side => Nat.lt_of_le_of_lt (assigned_step_le stepped side) (fits side)

theorem IdsFit.room {exchange : Exchange P} {side : Role} {input : Input P}
    (fits : (exchange.feed side input).IdsFit) :
    (exchange.party side).assigned + (exchange.session side).assignedBy input <
      UInt32.size := by
  have given : ((exchange.give side input).party side).assigned =
      (exchange.party side).assigned + (exchange.session side).assignedBy input := by
    simp [give]
  rw [← given]
  exact Nat.lt_of_le_of_lt (assigned_feed_le exchange side input side) (fits side)

/-- Every event keeps the histories explained. -/
theorem Agreement.step {exchange exchange' : Exchange P} {event : Event P}
    {pushed : Role → List (ReliableBody P)} (agreement : exchange.Agreement pushed)
    (stepped : exchange.step? event = some exchange') (fits : exchange'.IdsFit) :
    ∃ pushed', exchange'.Agreement pushed' := by
  rcases step_cases stepped with ⟨side, line, count, _, rfl⟩ | ⟨side, input, own, rfl⟩ |
    ⟨side, line, clock, input, _, arrives, rfl⟩
  · exact ⟨pushed, agreement.onLane side line _⟩
  · obtain ⟨ack, brings⟩ := Event.own_brings own
    exact agreement.feed fits.room (by omega) (fun body brought => absurd brought (brings _ body))
  · obtain ⟨ack, brings⟩ := agreement.arrival arrives
    exact (agreement.onLane side line Lane.receive).feed fits.room ack brings

private theorem agreement_start (settings : SessionSettings) (limits : RebindLimits)
    (token : String)
    (sessionId : UInt32) (settings' : SessionSettings) :
    (start (P := P) settings limits token sessionId settings').Agreement fun _ => [] where
  books := by
    intro side
    cases side
    · exact (Session.Starts.initiator settings limits ChannelDriver.creatingLine).books
    · exact (Session.Starts.responder sessionId settings').books
  counted := by
    intro side
    cases side <;> rfl
  heard := by
    intro side
    cases side <;> exact Nat.le_refl _
  acked := by
    intro side
    cases side <;> exact Nat.le_refl _
  truthful := by
    intro side
    cases side <;> simp [session, start, Session.initiator, Session.responder]
  requests := by
    intro handshake member
    simp only [start, List.map_cons, List.map_nil, List.mem_singleton] at member
    subst member
    trivial
  records := by
    intro side
    cases side <;>
      exact
        { farewell := ⟨[], List.mem_cons_self, rfl⟩
          fin := by simp [session, start, Session.initiator, Session.responder]
          finAck := by simp [session, start, Session.initiator, Session.responder]
          heardFin := by
            simp [session, start, Session.initiator, Session.responder, CloseState.heardFin]
          heardFinAck := by
            simp [session, start, Session.initiator, Session.responder, CloseState.heardFinAck]
          delivered := rfl
          isOver := by simp [session, start, Session.initiator, Session.responder] }

/-- Two ends agree on everything that can come of them while ids fit. -/
theorem reachable_agreement {settings settings' : SessionSettings} {limits : RebindLimits}
    {token : String} {sessionId : UInt32} {exchange : Exchange P}
    (reachable : Reachable (start settings limits token sessionId settings') exchange)
    (fits : exchange.IdsFit) : ∃ pushed, exchange.Agreement pushed := by
  induction reachable with
  | start => exact ⟨_, agreement_start _ _ _ _ _⟩
  | step reachable stepped induction =>
      obtain ⟨pushed, agreement⟩ := induction (fits.before stepped)
      exact agreement.step stepped fits

end Exchange

end ResumableSession
