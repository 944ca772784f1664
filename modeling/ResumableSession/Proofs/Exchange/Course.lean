import ResumableSession.Proofs.Exchange.Rebinding

/-!
# Lines through a run

An event lets both ends go on, dials a line, or brings the first packet of a line
to an end that binds it.  Whichever it is, the lines stay lined up.
-/

namespace ResumableSession

variable {P : Type}

private theorem Handshake.count?_toPacket (handshake : Handshake) :
    ∃ count, (handshake.toPacket : Packet P).count? = some count := by
  cases handshake with
  | create token => exact ⟨0, rfl⟩
  | rebind _ _ clientAck => exact ⟨clientAck.toNat, rfl⟩

namespace Session

variable {session : Session P} {input : Input P} {bound : Line} {start : Nat}
  {response : List (Packet P)} {pending : Option Line} {index : UInt32}
  {line : LineId} {clock : UInt32} {connection : Connection} {packet : Packet P}

/-- A handshake that is answered never says that more has come through than there is. -/
theorem Greets.known {pushed : List (ReliableBody P)} (books : Books pushed session)
    (greets : Greets session input bound start response pending index) :
    start ≤ pushed.length := by
  cases greets with
  | created _ _ => exact Nat.zero_le _
  | attachCreated _ => exact Nat.zero_le _
  | rebound _ _ checked =>
      have passed := (books.keeps.inOrder.checkResync_eq_ok_iff _).mp checked
      rw [← books.keeps.counted]
      exact passed.2
  | attachRebind _ _ checked =>
      have passed := (books.keeps.inOrder.checkResync_eq_ok_iff _).mp checked
      rw [← books.keeps.counted]
      exact passed.2

/-- The initiator binds its pending line, by the first packet that comes back on it. -/
theorem greets_initiator (greets : Greets session input bound start response pending index)
    (reported : input = .ofReport line clock (connection.report .initiator packet)) :
    connection.toInitiator.arrived = 0 ∧ bound.id = line ∧ packet.count? = some start ∧
      session.pending = some bound ∧ response = [] ∧ pending = none ∧
        index = session.lastLineIndex := by
  unfold Connection.report at reported
  split at reported
  · subst reported
    cases greets
  · next first =>
      have first : connection.toInitiator.arrived = 0 := Classical.not_not.mp first
      simp only at reported
      split at reported
      · simp only [Input.ofReport] at reported
        cases greets with
        | created shaking _ =>
            simp only [Input.lineCreated.injEq] at reported
            exact ⟨first, reported.1, rfl, shaking, rfl, rfl, rfl⟩
        | _ => simp at reported
      · simp only [Input.ofReport] at reported
        cases greets with
        | rebound shaking _ _ =>
            simp only [Input.lineRebound.injEq] at reported
            obtain ⟨same, rfl⟩ := reported
            exact ⟨first, same, rfl, shaking, rfl, rfl, rfl⟩
        | _ => simp at reported
      · subst reported
        cases greets

/-- The responder binds a line by the request that comes on it. -/
theorem greets_responder (greets : Greets session input bound start response pending index)
    (reported : input = .ofReport line clock (connection.report .responder packet)) :
    connection.toResponder.arrived = 0 ∧ bound.id = line ∧ packet.count? = some start ∧
      (∃ handshake : Handshake, packet = handshake.toPacket ∧ bound.index = handshake.lineIndex) ∧
      index = bound.index ∧
      (session.phase = .connecting ∨ ¬bound.index < session.lastLineIndex) ∧
      ∃ answer, response = [answer] ∧
        (∃ count, answer.count? = some count ∧ count ≤ session.delivery.lastRecvId.toNat) ∧
        ∀ serverAck, answer = .rebindResponse serverAck →
          serverAck = session.delivery.lastRecvId := by
  unfold Connection.report at reported
  split at reported
  · subst reported
    cases greets
  · next first =>
      have first : connection.toResponder.arrived = 0 := Classical.not_not.mp first
      simp only at reported
      split at reported
      · next handshake opens =>
          obtain rfl := Handshake.toPacket_of_ofPacket opens
          cases handshake with
          | create token =>
              simp only [Input.ofReport] at reported
              cases greets with
              | attachCreated connecting =>
                  simp only [Input.attachCreated.injEq] at reported
                  subst reported
                  exact ⟨first, rfl, rfl, ⟨.create token, rfl, rfl⟩, rfl, .inl connecting, _, rfl,
                    ⟨0, rfl, Nat.zero_le _⟩, by simp⟩
              | _ => simp at reported
          | rebind sessionId lineIndex clientAck =>
              simp only [Input.ofReport] at reported
              cases greets with
              | attachRebind _ current _ =>
                  simp only [Input.attachRebind.injEq] at reported
                  obtain ⟨rfl, rfl⟩ := reported
                  exact ⟨first, rfl, rfl, ⟨.rebind sessionId lineIndex _, rfl, rfl⟩, rfl,
                    .inr current, _, rfl, ⟨_, rfl, Nat.le_refl _⟩, by simp⟩
              | _ => simp at reported
      · subst reported
        cases greets

end Session

namespace Exchange

variable {exchange exchange' : Exchange P} {pushed : Role → List (ReliableBody P)}
  {side : Role} {input : Input P}

theorem feed_eq_give (exchange : Exchange P)
    (prefixed : (exchange.session side).outputs <+: ((exchange.session side).step input).outputs)
    (dials : dialedIn ((exchange.session side).step input).outputs =
      dialedIn (exchange.session side).outputs) :
    exchange.feed side input = exchange.give side input := by
  cases side with
  | responder => rfl
  | initiator =>
      obtain ⟨new, grown⟩ := prefixed
      rw [← grown, dialedIn_append, List.append_right_eq_self] at dials
      unfold feed
      simp only [session_give, ← grown, List.drop_left, dials, List.foldl_nil]

/-- The first packet of a line is the request that it was dialed for. -/
theorem handshake_of_first {exchange : Exchange P} {line : Nat} {connection : Connection}
    {handshake : Handshake} (first : connection.toResponder.arrived = 0)
    (comes : (exchange.sentTo .responder line connection)[connection.toResponder.arrived]? =
      some handshake.toPacket) : connection.handshake = handshake := by
  rw [first] at comes
  have same := congrArg Handshake.ofPacket (Option.some.inj comes)
  rw [Handshake.ofPacket_toPacket, Handshake.ofPacket_toPacket] at same
  exact Except.ok.inj same

theorem sentTo_give (exchange : Exchange P) (side : Role) (input : Input P) (line : Nat)
    (connection : Connection) :
    (exchange.give side input).sentTo side line connection =
      exchange.sentTo side line connection := by
  rw [sentTo_eq, sentTo_eq]
  simp only [lineView, session_give_other]

namespace Lineup

theorem moves (lineup : exchange.Lineup) (agreement : exchange.Agreement pushed)
    {fresh taken : List (ReliableBody P)}
    (moves : Session.Moves input (pushed side) fresh taken (exchange.session side)
      ((exchange.session side).step input)) :
    exchange.feed side input = exchange.give side input ∧ (exchange.give side input).Lineup := by
  obtain ⟨reasons, advances, _⟩ := moves.advances
  refine ⟨feed_eq_give exchange advances.outputs advances.dials, ?_⟩
  have proceeds : ∀ target, Session.Proceeds (pushed target)
      (Function.update pushed side (pushed side ++ fresh) target) (exchange.session target)
      ((exchange.give side input).session target) := by
    intro target
    rcases side_cases side target with rfl | rfl
    · rw [session_give, Function.update_self]
      exact moves.proceeds (agreement.books target)
    · rw [session_give_other, Function.update_of_ne side.other_ne]
      exact (agreement.books side.other).proceeds
  exact lineup.proceed rfl proceeds

private theorem feed_binds (exchange : Exchange P) {bound : Line} {heard start : Nat}
    {history : List (ReliableBody P)} {response : List (Packet P)} {pending : Option Line} {index : UInt32}
    (binds : Session.Binds heard history bound start response pending index
      (exchange.session side) ((exchange.session side).step input)) :
    exchange.feed side input = exchange.give side input ∧
      (exchange.give side input).received side = exchange.received side := by
  obtain ⟨opened, opens, elapses⟩ := binds
  obtain ⟨_, advances, _⟩ := elapses.advances
  constructor
  · apply feed_eq_give
    · exact opens.prefixed.trans advances.outputs
    · exact advances.dials.trans opens.dials
  · rw [received, received, session_give, elapses.recvId, opens.delivery]

theorem own (lineup : exchange.Lineup) (agreement : exchange.Agreement pushed) {event : Event P}
    (own : event.own? = some (side, input)) (fits : (exchange.feed side input).IdsFit)
    (few : (exchange.feed side input).lines.length ≤ UInt32.size) :
    (exchange.feed side input).Lineup := by
  obtain ⟨fresh, taken, course⟩ := Session.course_step (agreement.books side)
    (agreement.records side).guarded input (by rw [agreement.counted]; exact fits.room)
  cases course with
  | moves moves =>
      obtain ⟨same, after⟩ := lineup.moves agreement moves
      rw [same]
      exact after
  | binds greets _ =>
      cases event <;> simp only [Event.own?, Option.some.injEq, Prod.mk.injEq, reduceCtorEq] at own
      all_goals
        obtain ⟨-, rfl⟩ := own
        cases greets
  | @rebinds time clock running due =>
      cases side with
      | responder =>
          obtain ⟨_, ⟨_, paced, _⟩ | ⟨undue, _⟩⟩ :=
            (exchange.session .responder).liveness.tick_cases time
          · simp [lineup.answering.unpaced] at paced
          · simp [due] at undue
      | initiator =>
          obtain ⟨⟨sessionId, lines⟩, others, redials⟩ :=
            lineup.feed_rebinds time clock running due
          obtain ⟨unbound, _, _⟩ := Session.update_idle lineup.dialing.idle running time clock due
          rw [lines, List.length_append, List.length_singleton] at few
          exact lineup.dial lines others redials unbound few
  | dials =>
      cases event <;> simp [Event.own?] at own

theorem heard (lineup : exchange.Lineup) (agreement : exchange.Agreement pushed) {line : Nat}
    {clock : UInt32} {connection : Connection} {packet : Packet P}
    (found : exchange.lines[line]? = some connection)
    (reported : input = .ofReport ⟨line⟩ clock (connection.report side packet))
    {reasons : List CloseReason}
    (frame : Session.Frame reasons (exchange.session side) ((exchange.session side).step input))
    (bound : ((exchange.session side).step input).current.map (·.id) = some ⟨line⟩) {id : Nat}
    (numbered : packet.reliableId? = some id) :
    id ≤ ((exchange.session side).step input).delivery.lastRecvId.toNat := by
  have ours : (exchange.session side).current.map (·.id) = some ⟨line⟩ := by
    rcases frame.current with same | none
    · rwa [same] at bound
    · simp [none] at bound
  have running : (exchange.session side).phase ≠ .closed := by
    simp [(agreement.books side).connected (Session.isSome_of_id ours)]
  have begun : (connection.lane side).arrived ≠ 0 :=
    ((lineup.orderly line connection found side).begun ours).1
  cases packet with
  | reliable packet =>
      obtain rfl : packet.id.toNat = id := Option.some.inj numbered
      unfold Connection.report at reported
      rw [if_pos begun] at reported
      subst reported
      exact UInt32.le_iff_toNat_le.mp
        (Session.le_recvId_onPacket clock running ours (Session.isSome_of_id bound))
  | _ => simp [Packet.reliableId?] at numbered

/-- The first packet of a line says where the other end's history is taken up. -/
theorem start?_of_first {line start : Nat} {connection : Connection} {packet : Packet P}
    (comes : (exchange.sentTo side line connection)[(connection.lane side).arrived]? = some packet)
    (first : (connection.lane side).arrived = 0) (counts : packet.count? = some start) :
    (exchange.lineView side.other line connection).start? = some start := by
  rw [sentTo_eq, first, ← List.head?_eq_getElem?] at comes
  rw [LineView.start?, comes]
  exact counts

variable {line start : Nat} {connection : Connection} {packet : Packet P} {clock : UInt32}
  {bound : Line} {response : List (Packet P)} {pending : Option Line} {index : UInt32}

private theorem arrival_initiator (lineup : exchange.Lineup) (agreement : exchange.Agreement pushed)
    (laned : (exchange.onLane .initiator line Lane.receive).Lineup)
    (found : exchange.lines[line]? = some connection)
    (comes : (exchange.sentTo .initiator line connection)[connection.toInitiator.arrived]? =
      some packet)
    (reported : input = .ofReport ⟨line⟩ clock (connection.report .initiator packet))
    (greets : Session.Greets (exchange.session .initiator) input bound start response pending index)
    (binds : Session.Binds input.ack (pushed .initiator) bound start response pending index
      (exchange.session .initiator) ((exchange.session .initiator).step input)) :
    ((exchange.onLane .initiator line Lane.receive).give .initiator input).Lineup := by
  have known := greets.known (agreement.books .initiator)
  obtain ⟨first, ours, counts, shaking, rfl, rfl, rfl⟩ :=
    Session.greets_initiator greets reported
  obtain ⟨_, received⟩ :=
    feed_binds (exchange.onLane .initiator line Lane.receive) binds
  have foundLaned : (exchange.onLane .initiator line Lane.receive).lines[bound.id.number]? =
      some (connection.onLane .initiator Lane.receive) := by
    simp [Exchange.onLane, ours, found]
  have unspoken : packetsOn bound.id (exchange.session .initiator).actions = [] := by
    rw [ours]
    rcases (lineup.orderly line connection found .initiator).speaks with ⟨silent, _⟩ | ⟨begun, _⟩
    · exact silent
    · exact absurd first begun
  have starts := start?_of_first comes first counts
  rw [show line = bound.id.number by rw [ours]] at starts
  have asked : ∃ count, (connection.handshake.toPacket : Packet P).count? = some count ∧
      count ≤ exchange.received .initiator := by
    obtain ⟨count, asked⟩ := connection.handshake.count?_toPacket (P := P)
    refine ⟨count, asked, ?_⟩
    have truthful := agreement.requests connection.handshake
      (List.mem_map.mpr ⟨connection, List.mem_of_getElem? found, rfl⟩)
    cases handshake : connection.handshake <;> rw [handshake] at asked truthful
    · obtain rfl : 0 = count := Option.some.inj asked
      exact Nat.zero_le _
    · obtain rfl := Option.some.inj asked
      exact truthful
  have given : ((exchange.onLane .initiator line Lane.receive).give .initiator input).session
      .initiator = (exchange.session .initiator).step input :=
    session_give _ _ _
  rw [← given] at binds
  refine laned.binds_initiator rfl (session_give_other _ _ _) shaking foundLaned ?_ unspoken
    starts ?_ known binds
  · simp [Connection.onLane, Lane.receive, first]
  · rw [received]
    exact asked

private theorem arrival_responder (lineup : exchange.Lineup) (agreement : exchange.Agreement pushed)
    (laned : (exchange.onLane .responder line Lane.receive).Lineup)
    (found : exchange.lines[line]? = some connection)
    (comes : (exchange.sentTo .responder line connection)[connection.toResponder.arrived]? =
      some packet)
    (reported : input = .ofReport ⟨line⟩ clock (connection.report .responder packet))
    (greets : Session.Greets (exchange.session .responder) input bound start response pending index)
    (binds : Session.Binds input.ack (pushed .responder) bound start response pending index
      (exchange.session .responder) ((exchange.session .responder).step input)) :
    ((exchange.onLane .responder line Lane.receive).give .responder input).Lineup := by
  have known := greets.known (agreement.books .responder)
  obtain ⟨first, ours, counts, ⟨handshake, rfl, sameIndex⟩, rfl, rises, answer, responds,
    reports, grants⟩ := Session.greets_responder greets reported
  obtain ⟨_, received⟩ :=
    feed_binds (exchange.onLane .responder line Lane.receive) binds
  have foundLaned : (exchange.onLane .responder line Lane.receive).lines[bound.id.number]? =
      some (connection.onLane .responder Lane.receive) := by
    simp [Exchange.onLane, ours, found]
  have unspoken : packetsOn bound.id (exchange.session .responder).actions = [] := by
    rw [ours]
    by_contra spoken
    exact (lineup.answered line connection found spoken).1 first
  have starts := start?_of_first comes first counts
  rw [show line = bound.id.number by rw [ours]] at starts
  have numbered : bound.index.toNat = bound.id.number := by
    rw [sameIndex, ← handshake_of_first first comes, lineup.indices line connection found, ours]
  have later : (exchange.session .responder).lastLineIndex.toNat ≤ bound.index.toNat := by
    rcases rises with connecting | current
    · rw [lineup.answering.untouched connecting]
      exact Nat.zero_le _
    · exact Nat.le_of_not_lt current
  have given : ((exchange.onLane .responder line Lane.receive).give .responder input).session
      .responder = (exchange.session .responder).step input :=
    session_give _ _ _
  rw [← given] at binds
  refine laned.binds_responder rfl (session_give_other _ _ _) foundLaned ?_ unspoken starts
    responds ?_ ?_ numbered later known binds
  · simp [Connection.onLane, Lane.receive, first]
  · rw [received]
    exact reports
  · intro serverAck answers
    rw [grants serverAck answers]
    exact agreement.acked .initiator

/-- Whatever comes on a line, the lines stay in order. -/
theorem arrival (lineup : exchange.Lineup) (agreement : exchange.Agreement pushed)
    (arrives : exchange.arrival? side line clock = some input)
    (fits : ((exchange.onLane side line Lane.receive).feed side input).IdsFit) :
    ((exchange.onLane side line Lane.receive).feed side input).Lineup := by
  obtain ⟨connection, packet, found, comes, reported⟩ := arrival_cases arrives
  obtain ⟨fresh, taken, course⟩ := Session.course_step (agreement.books side)
    (agreement.records side).guarded input (by rw [agreement.counted]; exact fits.room)
  have comesTo : ∀ connection', exchange.lines[line]? = some connection' →
      (exchange.sentTo side line connection')[(connection'.lane side).arrived]? = some packet := by
    intro connection' found'
    obtain rfl : connection' = connection := Option.some.inj (found'.symm.trans found)
    exact comes
  have reports := Input.isReport_ofReport ⟨line⟩ clock (connection.report side packet)
  rw [← reported] at reports
  cases course with
  | moves moves =>
      obtain ⟨reasons, advances, _⟩ := moves.advances
      -- The end may as well be given the packet before the lane counts it.
      have given : (exchange.onLane side line Lane.receive).feed side input =
          (exchange.give side input).onLane side line Lane.receive :=
        feed_eq_give (exchange.onLane side line Lane.receive) advances.outputs advances.dials
      rw [given]
      have comesGiven : ∀ connection',
          (exchange.give side input).lines[line]? = some connection' →
          ((exchange.give side input).sentTo side line connection')[
            (connection'.lane side).arrived]? = some packet := by
        intro connection' found'
        rw [sentTo_give]
        exact comesTo connection' found'
      apply (lineup.moves agreement moves).2.receive comesGiven
      · intro bound id numbered
        rw [session_give] at bound
        rw [received, session_give]
        exact lineup.heard agreement found reported advances.toFrame bound numbered
  | binds greets binds =>
      obtain ⟨same, _⟩ := feed_binds (exchange.onLane side line Lane.receive) binds
      rw [same]
      have first : (connection.lane side).arrived = 0 := by
        cases side with
        | initiator => exact (Session.greets_initiator greets reported).1
        | responder => exact (Session.greets_responder greets reported).1
      have laned : (exchange.onLane side line Lane.receive).Lineup := by
        apply lineup.receive comesTo
        intro ours
        exact absurd first ((lineup.orderly line connection found side).begun ours).1
      cases side with
      | initiator =>
          exact lineup.arrival_initiator agreement laned found comes reported greets binds
      | responder =>
          exact lineup.arrival_responder agreement laned found comes reported greets binds
  | rebinds _ _ => simp [Input.isReport] at reports
  | dials => simp [Input.isReport] at reports

theorem step (lineup : exchange.Lineup) (agreement : exchange.Agreement pushed)
    {event : Event P} (stepped : exchange.step? event = some exchange') (fits : exchange'.IdsFit)
    (few : exchange'.lines.length ≤ UInt32.size) : exchange'.Lineup := by
  rcases step_cases stepped with ⟨side, line, count, _, rfl⟩ | ⟨side, input, own, rfl⟩ |
    ⟨side, line, clock, input, _, arrives, rfl⟩
  · exact lineup.sever side line count
  · exact lineup.own agreement own fits few
  · exact lineup.arrival agreement arrives fits

end Lineup

private theorem lines_foldl_dial (handshakes : List Handshake) :
    ∀ exchange : Exchange P,
      exchange.lines.length ≤ (handshakes.foldl dial exchange).lines.length := by
  induction handshakes with
  | nil => exact fun _ => Nat.le_refl _
  | cons handshake handshakes induction =>
      intro exchange
      apply Nat.le_trans _ (induction (exchange.dial handshake))
      simp [dial]

theorem lines_step_le {event : Event P} (stepped : exchange.step? event = some exchange') :
    exchange.lines.length ≤ exchange'.lines.length := by
  have fed : ∀ (exchange : Exchange P) (side : Role) (input : Input P),
      exchange.lines.length ≤ (exchange.feed side input).lines.length := by
    intro exchange side input
    cases side with
    | responder => exact Nat.le_refl _
    | initiator => exact lines_foldl_dial _ (exchange.give .initiator input)
  rcases step_cases stepped with ⟨side, line, count, _, rfl⟩ | ⟨side, input, _, rfl⟩ |
    ⟨side, line, clock, input, _, _, rfl⟩
  · simp [onLane]
  · exact fed exchange side input
  · apply Nat.le_trans _ (fed (exchange.onLane side line Lane.receive) side input)
    simp [onLane]

private theorem lineup_start (settings : SessionSettings) (limits : RebindLimits) (token : String)
    (sessionId : UInt32) (settings' : SessionSettings) :
    (start (P := P) settings limits token sessionId settings').Lineup := by
  have only : ∀ {line : Nat} {connection : Connection},
      (start (P := P) settings limits token sessionId settings').lines[line]? = some connection →
        line = 0 ∧ connection = { handshake := .create token } := by
    intro line connection found
    obtain ⟨inside, same⟩ := List.getElem?_eq_some_iff.mp found
    simp only [start, List.length_singleton] at inside
    obtain rfl : line = 0 := by omega
    exact ⟨rfl, same.symm⟩
  constructor
  case dialing =>
    constructor
    · rfl
    · intro line known
      rcases known with current | pending
      · simp [session, start, Session.initiator] at current
      · obtain rfl : ChannelDriver.creatingLine = line := Option.some.inj pending
        rfl
    · intro bound
      simp [session, start, Session.initiator] at bound
    · exact fun _ => ⟨rfl, rfl⟩
  case answering =>
    constructor
    · intro line current
      simp [session, start, Session.responder] at current
    · rfl
    · exact fun _ => rfl
  case indices =>
    intro line connection found
    obtain ⟨rfl, rfl⟩ := only found
    rfl
  case orderly =>
    intro line connection found side
    obtain ⟨rfl, rfl⟩ := only found
    have unbound : ∀ line, ((start (P := P) settings limits token sessionId settings').session
        side).current.map (·.id) ≠ some line := by
      cases side <;> simp [session, start, Session.initiator, Session.responder]
    constructor
    · cases side <;> exact Nat.zero_le _
    · left
      refine ⟨?_, unbound _⟩
      cases side <;> rfl
    · exact fun bound => absurd bound (unbound _)
  case unnamed =>
    intro side line _
    cases side <;> rfl
  case answered =>
    intro line connection _ spoken
    exact absurd rfl spoken
  case stale =>
    intro bound
    simp [session, start, Session.initiator] at bound
  case fresh =>
    intro line connection found _ _ _ _ asks
    obtain ⟨rfl, rfl⟩ := only found
    simp at asks
  case granted =>
    intro line connection _ _ _ serverAck answer
    simp [session, start, Session.responder] at answer

/-- The lines of all exchanges that can come about are lined up, while ids and
indices fit. -/
theorem reachable_lineup {settings settings' : SessionSettings} {limits : RebindLimits}
    {token : String} {sessionId : UInt32} {exchange : Exchange P}
    (reachable : Reachable (start settings limits token sessionId settings') exchange)
    (fits : exchange.IdsFit) (few : exchange.lines.length ≤ UInt32.size) : exchange.Lineup := by
  induction reachable with
  | start => exact lineup_start _ _ _ _ _
  | step reachable stepped induction =>
      have before := fits.before stepped
      obtain ⟨pushed, agreement⟩ := reachable_agreement reachable before
      exact (induction before (Nat.le_trans (lines_step_le stepped) few)).step agreement stepped
        fits few

end Exchange

end ResumableSession
