import ResumableSession.Proofs.Exchange.Agreement

/-!
# Exactly once, in order, and nothing lost at the end

What an end has delivered is a prefix of what the other took from its
application, and all that is missing waits in the other's send buffer.  After a
graceful end nothing is missing, in either direction.
-/

namespace ResumableSession

namespace Exchange

variable {P : Type} {settings settings' : SessionSettings} {limits : RebindLimits}
  {token : String} {sessionId : UInt32} {exchange exchange' : Exchange P}
  {pushed : Role → List (ReliableBody P)}

/-- What was delivered are the payloads of the part of the other's history that
was received. -/
theorem Agreement.delivered (agreement : exchange.Agreement pushed) (side : Role) :
    deliveredIn (exchange.session side).outputs =
      ((pushed side.other).take (exchange.received side)).filterMap ReliableBody.payload? :=
  (agreement.records side).delivered

/-- What an end has not received is still in the other's send buffer. -/
theorem Agreement.buffered (agreement : exchange.Agreement pushed) (side : Role) :
    (pushed side.other).drop (exchange.received side) <:+
      (exchange.session side.other).delivery.buffer.map (·.body) := by
  have acked := agreement.acked side.other
  rw [Role.other_other] at acked
  have split : exchange.received side =
      (exchange.session side.other).delivery.acked +
        (exchange.received side - (exchange.session side.other).delivery.acked) := by
    omega
  rw [(agreement.books side.other).keeps.bodies, split, ← List.drop_drop]
  exact List.drop_suffix _ _

/-- Payloads are delivered exactly once and in order, whatever becomes of the lines:
what was delivered is a prefix of what the other end took from its application,
and the rest is still in the other's send buffer. -/
theorem delivered_in_order
    (reachable : Reachable (start settings limits token sessionId settings') exchange)
    (fits : exchange.IdsFit) (side : Role) :
    deliveredIn (exchange.session side).outputs <+: (exchange.party side.other).accepted ∧
      ∃ missing, missing <:+ (exchange.session side.other).delivery.buffer.map (·.body) ∧
        (exchange.party side.other).accepted =
          deliveredIn (exchange.session side).outputs ++
            missing.filterMap ReliableBody.payload? := by
  obtain ⟨pushed, agreement⟩ := reachable_agreement reachable fits
  have all : (exchange.party side.other).accepted =
      deliveredIn (exchange.session side).outputs ++
        ((pushed side.other).drop (exchange.received side)).filterMap ReliableBody.payload? := by
    rw [agreement.delivered, ← List.filterMap_append, List.take_append_drop]
    exact (agreement.records side.other).accepted_eq.symm
  refine ⟨?_, _, agreement.buffered side, all⟩
  rw [all]
  exact List.prefix_append _ _

/-- A line is cut with a payload in flight, and the next one makes up for it. -/
def interrupted : List (Event Nat) :=
  [.send .initiator 1, .arrive .responder 0 0, .arrive .initiator 0 0, .send .initiator 2,
    .send .responder 9, .arrive .responder 0 0, .sever .responder 0 2, .lost .initiator 0,
    .tick .initiator (.ofSeconds 1) 0, .arrive .responder 1 0, .arrive .initiator 1 0,
    .arrive .responder 1 0]

/-- What the interruption has led to. -/
def resumed : Exchange Nat :=
  ((start {} {} "" 7 {}).run? interrupted).getD (start {} {} "" 7 {})

private theorem reachable_resumed : Reachable (start {} {} "" 7 {}) resumed := by
  have ran : ((start {} {} "" 7 {}).run? interrupted).isSome := by decide +kernel
  obtain ⟨exchange, done⟩ := Option.isSome_iff_exists.mp ran
  rw [resumed, done]
  exact Reachable.start.run interrupted done

private theorem idsFit_resumed : resumed.IdsFit := by
  intro side
  cases side <;> decide +kernel

theorem delivered_resumed :
    deliveredIn (resumed.session .responder).outputs = [1, 2] ∧
      deliveredIn (resumed.session .responder).outputs <+:
        (resumed.party Role.responder.other).accepted :=
  ⟨by decide +kernel, (delivered_in_order reachable_resumed idsFit_resumed .responder).1⟩

/-- An end that ends was given an input that justifies it. -/
theorem Agreement.ends_feed (agreement : exchange.Agreement pushed) {fed side : Role}
    {input : Input P} (fits : (exchange.feed fed input).IdsFit) {reason : CloseReason}
    (running : .closed reason ∉ (exchange.session side).outputs)
    (ended : .closed reason ∈ ((exchange.feed fed input).session side).outputs) :
    side = fed ∧
      (exchange.session side).Justified input ((exchange.session side).step input) reason := by
  rcases side_cases fed side with rfl | rfl
  · obtain ⟨fresh, taken, accounts⟩ := Session.accounts_step (agreement.books side)
      (agreement.records side).guarded input (by rw [agreement.counted]; exact fits.room)
    rw [(session_feed exchange side input).1] at ended
    exact ⟨rfl, (accounts.ends reason ended).resolve_left running⟩
  · rw [session_feed_other] at ended
    exact absurd ended running

/-- An end ends in a step because of an input that concerns it alone or came to it. -/
theorem Agreement.ends_step (agreement : exchange.Agreement pushed) {event : Event P}
    (stepped : exchange.step? event = some exchange') (fits : exchange'.IdsFit) {side : Role}
    {reason : CloseReason} (running : .closed reason ∉ (exchange.session side).outputs)
    (ended : .closed reason ∈ (exchange'.session side).outputs) :
    ∃ input,
      (event.own? = some (side, input) ∨
        ∃ line clock, exchange.arrival? side line clock = some input) ∧
      (exchange.session side).Justified input ((exchange.session side).step input) reason ∧
      (exchange'.session side).closing = ((exchange.session side).step input).closing := by
  rcases step_cases stepped with ⟨_, _, _, _, rfl⟩ | ⟨fed, input, own, rfl⟩ |
    ⟨fed, line, clock, input, _, arrives, rfl⟩
  · exact absurd ended running
  · obtain ⟨rfl, justified⟩ := agreement.ends_feed fits running ended
    exact ⟨input, .inl own, justified, (session_feed exchange side input).2⟩
  · have laned := agreement.onLane fed line Lane.receive
    obtain ⟨rfl, justified⟩ := laned.ends_feed fits running ended
    exact ⟨input, .inr ⟨line, clock, arrives⟩, justified,
      (session_feed (exchange.onLane side line Lane.receive) side input).2⟩

/-- Only the owner of a session ends it by force. -/
theorem Event.own_forced {event : Event P} {side : Role} {reason : CloseReason}
    (own : event.own? = some (side, .closeImmediately reason)) : event = .abort side reason := by
  cases event <;> simp_all [Event.own?]

theorem arrival_unforced {side : Role} {line : Nat} {clock : UInt32} {input : Input P}
    (arrives : exchange.arrival? side line clock = some input) (reason : CloseReason) :
    input ≠ .closeImmediately reason := by
  obtain ⟨connection, packet, _, _, rfl⟩ := arrival_cases arrives
  intro forced
  have reports := Input.isReport_ofReport ⟨line⟩ clock (connection.report side packet)
  simp [forced, Input.isReport] at reports

/-- An end whose close machine came to its end knows that nothing is missing. -/
theorem Agreement.complete (agreement : exchange.Agreement pushed) {side : Role}
    (closed : (exchange.session side).closing.state = .closed) :
    (∀ target, deliveredIn (exchange.session target).outputs =
        (exchange.party target.other).accepted) ∧
      (exchange.session side.other).closing.state.heardFin := by
  have mine := agreement.records side
  have others := agreement.records side.other
  rw [Role.other_other] at others
  have fin : .fin ∈ (pushed side.other).take (exchange.received side) := by
    rw [mine.heardFin, closed]
    rfl
  have finAck : .finAck ∈ (pushed side.other).take (exchange.received side) := by
    rw [mine.heardFinAck, closed]
    rfl
  have answered : (exchange.session side.other).closing.state.heardFin :=
    others.finAck_pushed.mp (List.mem_of_mem_take finAck)
  have otherFin : .fin ∈ (pushed side).take (exchange.received side.other) :=
    others.heardFin.mpr answered
  refine ⟨?_, answered⟩
  intro target
  rcases side_cases side target with rfl | rfl
  · rw [mine.delivered, others.mannered.heard_payloads fin, others.accepted_eq]
  · rw [others.delivered, mine.mannered.heard_payloads otherFin, mine.accepted_eq,
      Role.other_other]

/-- A session that ends gracefully, unless it is told to, has delivered everything
that the other end took from its application, so has the other end, and the other
end knows that this one wants to close. -/
theorem graceful_complete
    (reachable : Reachable (start settings limits token sessionId settings') exchange)
    {event : Event P} (stepped : exchange.step? event = some exchange') (fits : exchange'.IdsFit)
    {side : Role} (running : .closed .graceful ∉ (exchange.session side).outputs)
    (ended : .closed .graceful ∈ (exchange'.session side).outputs)
    (unforced : event ≠ .abort side .graceful) :
    (∀ target, deliveredIn (exchange'.session target).outputs =
        (exchange'.party target.other).accepted) ∧
      (exchange'.session side.other).closing.state ∈
        [.lastAck, .closing, .timeWait, .closed] := by
  obtain ⟨pushed, agreement⟩ := reachable_agreement reachable (fits.before stepped)
  obtain ⟨pushed', agreement'⟩ := agreement.step stepped fits
  have closed : (exchange'.session side).closing.state = .closed := by
    obtain ⟨input, source, justified, same⟩ := agreement.ends_step stepped fits running ended
    rw [same]
    refine justified.resolve_left fun forced => ?_
    rcases source with own | ⟨line, clock, arrives⟩
    · rw [forced] at own
      exact unforced (Event.own_forced own)
    · exact arrival_unforced arrives .graceful forced
  obtain ⟨complete, answered⟩ := agreement'.complete closed
  refine ⟨complete, ?_⟩
  cases state : (exchange'.session side.other).closing.state <;>
    simp [state, CloseState.heardFin] at answered ⊢

/-- After the interruption the initiator closes, and both ends take their leave. -/
def parting : List (Event Nat) :=
  [.arrive .initiator 1 0, .close .initiator, .arrive .responder 1 0, .arrive .initiator 1 0,
    .arrive .initiator 1 0]

/-- Where only the last FinAck is still under way. -/
def parted : Exchange Nat := (resumed.run? parting).getD resumed

private theorem reachable_parted : Reachable (start {} {} "" 7 {}) parted := by
  have ran : (resumed.run? parting).isSome := by decide +kernel
  obtain ⟨exchange, done⟩ := Option.isSome_iff_exists.mp ran
  rw [parted, done]
  exact reachable_resumed.run parting done

/-- Where the last FinAck has come. -/
def finished : Exchange Nat := (parted.step? (.arrive .responder 1 0)).getD parted

private theorem step_parted : parted.step? (.arrive .responder 1 0) = some finished := by
  have stepped : (parted.step? (.arrive .responder 1 0)).isSome := by decide +kernel
  obtain ⟨exchange, done⟩ := Option.isSome_iff_exists.mp stepped
  rw [finished, done]
  rfl

private theorem idsFit_finished : finished.IdsFit := by
  intro side
  cases side <;> decide +kernel

theorem graceful_finished :
    .closed .graceful ∉ (parted.session .responder).outputs ∧
      .closed .graceful ∈ (finished.session .responder).outputs ∧
      (∀ target, deliveredIn (finished.session target).outputs =
        (finished.party target.other).accepted) :=
  have running : .closed .graceful ∉ (parted.session .responder).outputs := by decide +kernel
  have ended : .closed .graceful ∈ (finished.session .responder).outputs := by decide +kernel
  ⟨running, ended,
    (graceful_complete reachable_parted step_parted idsFit_finished running ended
      (by simp)).1⟩

end Exchange

end ResumableSession
