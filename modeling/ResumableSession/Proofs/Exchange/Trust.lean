import ResumableSession.Proofs.Exchange.Course
import ResumableSession.Proofs.Exchange.Delivery
import Mathlib.Data.List.Induction

/-!
# Two honest ends trust each other

Whatever comes to an end passes every check that it makes: no ack is out of
range, no id leaves a gap, and there is a place for every Fin and FinAck.  So no
session ends over what its peer has sent.
-/

namespace ResumableSession

variable {P : Type}

private theorem Delivery.accept_of_le {delivery : Delivery P} {id : UInt32}
    (expected : id.toNat ≤ delivery.lastRecvId.toNat + 1) :
    delivery.accept id = .ok (delivery, .duplicate) ∨
      id.toNat = delivery.lastRecvId.toNat + 1 ∧
        delivery.accept id = .ok ({ delivery with lastRecvId := id }, .accepted) := by
  unfold accept
  by_cases old : id ≤ delivery.lastRecvId
  · rw [if_pos old]
    exact .inl rfl
  · rw [if_neg old]
    rw [UInt32.le_iff_toNat_le] at old
    have next : id.toNat = delivery.lastRecvId.toNat + 1 := by omega
    have small := id.toNat_lt_size
    have same : id = delivery.lastRecvId + 1 := by
      apply UInt32.toNat_inj.mp
      rw [toNat_succ (by omega), next]
    refine .inr ⟨next, ?_⟩
    simp only
    rw [if_neg (by simp [same])]

namespace Exchange

variable {exchange exchange' : Exchange P} {pushed : Role → List (ReliableBody P)}
  {side : Role} {input : Input P}

/-- A reliable packet whose id leaves no gap passes every check. -/
theorem Agreement.welcomes (agreement : exchange.Agreement pushed)
    (bound : (exchange.session side).current.isSome) {packet : ReliablePacket P}
    (truthful : (Packet.reliable packet).Truthful (pushed side.other)
      (exchange.received side.other))
    (expected : packet.id.toNat ≤ exchange.received side + 1) :
    (exchange.session side).Welcomes packet := by
  rcases Delivery.accept_of_le expected with old | ⟨next, accepted⟩
  · exact ⟨_, _, old, by simp⟩
  · refine ⟨_, _, accepted, fun _ => ?_⟩
    have records := agreement.records side
    have mannered := (agreement.records side.other).mannered
    have follows : (pushed side.other)[exchange.received side]? = some packet.body := by
      have body := truthful.2.1
      rw [next] at body
      exact body
    rcases Session.told_removeAcked (agreement.books side) bound next rfl with
      told | ⟨_, lingered, _⟩
    · refine ⟨by simp [told.open_], fun isFin => ?_, fun isFinAck => ?_⟩
      · apply records.onFin_ok _ told.noted
        rw [isFin] at follows
        exact mannered.unheard rfl follows
      · rw [isFinAck] at follows
        apply records.onFinAck_ok _ _ told.noted
        · exact mannered.unheard rfl follows
        · have answered := (agreement.records side.other).finAck_pushed.mp
            (List.mem_of_getElem? follows)
          have heardFin := (agreement.records side.other).heardFin.mpr answered
          rw [Role.other_other] at heardFin
          exact List.mem_of_mem_take heardFin
    · exact absurd lingered.timeWait (records.not_timeWait mannered follows)

/-- Whatever comes next to an end passes every check that it makes. -/
theorem Lineup.trusts (lineup : exchange.Lineup) (agreement : exchange.Agreement pushed)
    {line : Nat} {clock : UInt32} (arrives : exchange.arrival? side line clock = some input) :
    (exchange.session side).Trusts input := by
  obtain ⟨connection, packet, found, comes, rfl⟩ := arrival_cases arrives
  have truthful := agreement.sent found (List.mem_of_getElem? comes)
  unfold Connection.report
  split
  · intro running ours
    have near := lineup.orderly line connection found side
    have far := lineup.orderly line connection found side.other
    rw [Role.other_other] at far
    rw [sentTo_eq] at comes
    obtain ⟨ordinary, start, reports, follows⟩ := near.next far ours comes
    refine ⟨ordinary, ?_⟩
    rintro reliable rfl
    apply agreement.welcomes (Session.isSome_of_id ours) truthful
    obtain ⟨start', reports', heard⟩ := near.hears ours
    obtain rfl : start = start' := Option.some.inj (reports.symm.trans reports')
    rw [follows reliable.id.toNat rfl]
    exact Nat.succ_le_succ heard
  · next first =>
      have first : (connection.lane side).arrived = 0 := Classical.not_not.mp first
      have counted := fun target => (agreement.books target).keeps.counted
      cases side with
      | responder =>
          simp only
          split
          · next handshake opens =>
              obtain rfl := Handshake.toPacket_of_ofPacket opens
              cases handshake with
              | create token => trivial
              | rebind sessionId lineIndex clientAck =>
                  intro connected current
                  have asks := handshake_of_first first comes
                  have numbered := lineup.indices line connection found
                  rw [asks] at numbered
                  have heard := agreement.heard .initiator
                  have acked := agreement.acked .responder
                  rcases lineup.fresh line connection found first _ _ _ asks with
                    outdated | upToDate
                  · rw [UInt32.lt_iff_toNat_lt] at current
                    exact absurd (numbered ▸ outdated) current
                  · subst upToDate
                    apply ((agreement.books .responder).keeps.inOrder.checkResync_eq_ok_iff _).mpr
                    rw [counted]
                    exact ⟨acked, heard⟩
          · trivial
      | initiator =>
          simp only
          split
          · trivial
          · next serverAck _ _ =>
              intro connected shaking
              apply ((agreement.books .initiator).keeps.inOrder.checkResync_eq_ok_iff _).mpr
              constructor
              · apply lineup.granted line connection found shaking first
                rw [first] at comes
                rw [List.head?_eq_getElem?]
                exact comes
              · rw [counted]
                exact Nat.le_trans truthful (agreement.heard .responder)
          · trivial

theorem Event.own_trusted {event : Event P} (own : event.own? = some (side, input))
    (session : Session P) : session.Trusts input := by
  cases event <;> simp only [Event.own?, Option.some.injEq, Prod.mk.injEq, reduceCtorEq] at own
  all_goals
    obtain ⟨-, rfl⟩ := own
    trivial

/-- An end that ends over a check was told to end so. -/
theorem Lineup.ends (lineup : exchange.Lineup) (agreement : exchange.Agreement pushed)
    {event : Event P} (stepped : exchange.step? event = some exchange') (fits : exchange'.IdsFit)
    {reason : CloseReason}
    (checks : reason ∈ [.resyncRejected, .protocolViolation, .bookkeeping])
    (running : .closed reason ∉ (exchange.session side).outputs)
    (ended : .closed reason ∈ (exchange'.session side).outputs) : event = .abort side reason := by
  obtain ⟨input, source, justified, _⟩ := agreement.ends_step stepped fits running ended
  have trusted : (exchange.session side).Trusts input := by
    rcases source with own | ⟨line, clock, arrives⟩
    · exact Event.own_trusted own _
    · exact lineup.trusts agreement arrives
  rcases justified with rfl | refused
  · rcases source with own | ⟨line, clock, arrives⟩
    · exact Event.own_forced own
    · exact absurd rfl (arrival_unforced arrives reason)
  · simp only [List.mem_cons, List.not_mem_nil, or_false] at checks
    rcases checks with rfl | rfl | rfl
    · exact absurd trusted refused
    · exact absurd trusted refused
    · exact refused.elim

variable {settings settings' : SessionSettings} {limits : RebindLimits} {token : String}
  {sessionId : UInt32}

/-- Two honest ends never trip each other's checks: whatever comes to an end passes
them all and leaves its line bound, and no session ends over a check unless its
owner says so. -/
theorem run_trusted {events : List (Event P)}
    (ran : (start settings limits token sessionId settings').run? events = some exchange)
    (fits : exchange.IdsFit) (few : exchange.lines.length ≤ UInt32.size) (side : Role) :
    (∀ line clock input, exchange.arrival? side line clock = some input →
      (exchange.session side).Trusts input ∧
        ∀ target packet clock', input = .packet target packet clock' →
          ((exchange.session side).step input).current = (exchange.session side).current ∨
            ((exchange.session side).step input).phase = .closed) ∧
      ∀ reason ∈ [.resyncRejected, .protocolViolation, .bookkeeping],
        .closed reason ∈ (exchange.session side).outputs → .abort side reason ∈ events := by
  constructor
  · intro line clock input arrives
    have reachable := Reachable.start.run events ran
    obtain ⟨pushed, agreement⟩ := reachable_agreement reachable fits
    have trusts := (reachable_lineup reachable fits few).trusts agreement arrives
    refine ⟨trusts, ?_⟩
    rintro target packet clock' rfl
    exact trusts.holds
  · intro reason checks
    -- The last event is split off, since what happened before it is a run of its own.
    induction events using List.reverseRecOn generalizing exchange with
    | nil =>
        intro ended
        simp only [run?, List.foldlM_nil, Option.pure_def, Option.some.injEq] at ran
        subst ran
        cases side <;> simp [session, start, Session.initiator, Session.responder] at ended
    | append_singleton events event induction =>
        intro ended
        simp only [run?, List.foldlM_append, List.foldlM_cons, List.foldlM_nil, Option.pure_def,
          Option.bind_eq_bind, Option.bind_eq_some_iff] at ran
        obtain ⟨before, ranBefore, last, stepped, same⟩ := ran
        obtain rfl : last = exchange := Option.some.inj same
        have reachable := Reachable.start.run events ranBefore
        have fitsBefore := fits.before stepped
        have fewBefore := Nat.le_trans (lines_step_le stepped) few
        by_cases running : .closed reason ∈ (before.session side).outputs
        · exact List.mem_append_left _ (induction ranBefore fitsBefore fewBefore running)
        · obtain ⟨pushed, agreement⟩ := reachable_agreement reachable fitsBefore
          have forced := (reachable_lineup reachable fitsBefore fewBefore).ends agreement stepped
            fits checks running ended
          rw [forced]
          exact List.mem_append_right _ (List.mem_singleton.mpr rfl)

/-- The first attempt to rebind is given up, and its request comes only after the
second attempt was answered. -/
def overtaken : List (Event Nat) :=
  [.arrive .responder 0 0, .arrive .initiator 0 0, .send .initiator 1, .lost .initiator 0,
    .tick .initiator (.ofSeconds 1) 0, .tick .initiator (.ofSeconds 2) 0,
    .arrive .responder 2 0, .arrive .initiator 2 0]

/-- Where the late request and the payload are still under way. -/
def late : Exchange Nat := ((start {} {} "" 7 {}).run? overtaken).getD (start {} {} "" 7 {})

private theorem run_overtaken : (start {} {} "" 7 {}).run? overtaken = some late := by
  have ran : ((start {} {} "" 7 {}).run? overtaken).isSome := by decide +kernel
  obtain ⟨exchange, done⟩ := Option.isSome_iff_exists.mp ran
  rw [late, done]
  rfl

private theorem idsFit_late : late.IdsFit := by
  intro side
  cases side <;> decide +kernel

theorem late_trusted :
    (late.arrival? .responder 1 0 = some (.attachRebind ⟨⟨1⟩, 1⟩ 0) ∧
        (late.session .responder).Trusts (.attachRebind ⟨⟨1⟩, 1⟩ 0)) ∧
      (late.arrival? .responder 2 0 = some (.packet ⟨2⟩ (.reliable ⟨1, 0, .data 1⟩) 0) ∧
        (late.session .responder).Trusts (.packet ⟨2⟩ (.reliable ⟨1, 0, .data 1⟩) 0)) ∧
      .closed .protocolViolation ∉ (late.session .responder).outputs := by
  have few : late.lines.length ≤ UInt32.size := by decide +kernel
  have request : late.arrival? .responder 1 0 = some (.attachRebind ⟨⟨1⟩, 1⟩ 0) := by
    decide +kernel
  have payload : late.arrival? .responder 2 0 =
      some (.packet ⟨2⟩ (.reliable ⟨1, 0, .data 1⟩) 0) := by
    decide +kernel
  obtain ⟨trusted, ends⟩ := run_trusted run_overtaken idsFit_late few .responder
  refine ⟨⟨request, (trusted _ _ _ request).1⟩, ⟨payload, (trusted _ _ _ payload).1⟩, ?_⟩
  intro ended
  have forced := ends .protocolViolation (by simp) ended
  simp [overtaken] at forced

end Exchange

end ResumableSession
