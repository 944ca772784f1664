import ResumableSession.Proofs.Exchange.Parting
import Mathlib.Data.List.Infix

/-!
# An end without ids

An end that has given out all of its ids sends nothing any more.  If a line is bound by then,
its session ends at once; otherwise it waits without a line, and ends with the first handshake
that is checked.
-/

namespace ResumableSession

variable {P : Type}

/-- The ids given out are counted in the last one, as far as it goes. -/
theorem Party.counted_take {party : Party P}
    (counted : party.session.delivery.lastSendId.toNat = party.assigned % UInt32.size)
    (input : Input P) :
    (party.take input).session.delivery.lastSendId.toNat =
      (party.take input).assigned % UInt32.size := by
  have grown : (party.session.step input).delivery.lastSendId =
      party.session.delivery.lastSendId +
        ((party.session.step input).delivery.lastSendId - party.session.delivery.lastSendId) := by
    rw [UInt32.add_comm, UInt32.sub_add_cancel]
  change (party.session.step input).delivery.lastSendId.toNat =
    (party.assigned + party.session.assignedBy input) % UInt32.size
  rw [grown, UInt32.toNat_add, counted, Session.assignedBy]
  exact Nat.mod_add_mod _ _ _

namespace Exchange

variable {exchange exchange' : Exchange P} {side : Role} {input : Input P}
  {settings settings' : SessionSettings} {limits : RebindLimits} {token : String}
  {sessionId : UInt32}

private theorem counted_feed
    (counted : ∀ side, (exchange.session side).delivery.lastSendId.toNat =
      (exchange.party side).assigned % UInt32.size) (target side : Role) :
    ((exchange.feed target input).session side).delivery.lastSendId.toNat =
      ((exchange.feed target input).party side).assigned % UInt32.size := by
  have unmoved := unmoved_feed exchange target input side
  rw [session, unmoved.delivery, unmoved.assigned]
  rcases side_cases target side with rfl | rfl
  · rw [party_give]
    exact Party.counted_take (counted side) input
  · rw [party_give_other]
    exact counted _

theorem reachable_counted
    (reachable : Reachable (start settings limits token sessionId settings') exchange) :
    ∀ side, (exchange.session side).delivery.lastSendId.toNat =
      (exchange.party side).assigned % UInt32.size := by
  induction reachable with
  | start => exact fun side => by cases side <;> rfl
  | step _ stepped induction =>
      rcases step_cases stepped with ⟨_, _, _, _, rfl⟩ | ⟨target, input, _, rfl⟩ |
        ⟨target, line, _, input, _, _, rfl⟩
      · exact induction
      · exact counted_feed induction target
      · intro side
        refine counted_feed ?_ target side
        exact induction

/-! ## What explains an exchange -/

/-- The exchange has a twin that keeps to its ids, or one of its ends has parted from it. -/
def Explained (start exchange : Exchange P) : Prop :=
  Mirrored start exchange ∨ ∃ side mine theirs, Parted exchange.party side mine theirs

namespace Explained

theorem step (explained : Explained (start settings limits token sessionId settings') exchange)
    (few : exchange.lines.length ≤ UInt32.size) (roomy : exchange.Roomy)
    (roomy' : exchange'.Roomy) {event : Event P} (stepped : exchange.step? event = some exchange') :
    Explained (start settings limits token sessionId settings') exchange' := by
  rcases explained with mirrored | ⟨side, mine, theirs, parted⟩
  · rcases step_cases stepped with ⟨side, line, count, _, rfl⟩ | ⟨side, input, own, rfl⟩ |
      ⟨side, line, clock, input, _, arrives, rfl⟩
    · obtain ⟨twin, reachable, fits, mirrors⟩ := mirrored
      have severed : twin.step? (.sever side line count) =
          some (twin.onLane side line (·.sever count)) := rfl
      exact .inl ⟨_, reachable.step severed, fits, mirrors.onLane side line _⟩
    · exact .inl (mirrored.own own roomy roomy')
    · rcases mirrored.arrive few arrives roomy roomy' with mirrored | ⟨_, _, divides⟩
      · exact .inl mirrored
      · exact .inr ⟨_, _, _, divides.parted⟩
  · exact .inr ⟨side, mine, theirs, (parted.step stepped).1⟩

theorem truthful (explained : Explained (start settings limits token sessionId settings') exchange)
    (side : Role) :
    ∃ history received, ∀ line, ∀ packet ∈ packetsOn line (exchange.session side).actions,
      packet.Truthful history received := by
  rcases explained with ⟨twin, reachable, fits, mirrors⟩ | ⟨one, mine, theirs, parted⟩
  · obtain ⟨pushed, agreement⟩ := reachable_agreement reachable fits
    refine ⟨pushed side, twin.received side, fun line packet member => ?_⟩
    rw [session, (mirrors.follows side).sent] at member
    exact agreement.truthful side line packet member
  · rcases side_cases one side with rfl | rfl
    · exact ⟨mine, UInt32.size, parted.mineTruthful⟩
    · exact ⟨theirs, UInt32.size, parted.theirsTruthful⟩

theorem delivered
    (explained : Explained (start settings limits token sessionId settings') exchange)
    (side : Role) :
    deliveredIn (exchange.session side).outputs <+: (exchange.party side.other).accepted := by
  rcases explained with ⟨twin, reachable, fits, mirrors⟩ | ⟨one, mine, theirs, parted⟩
  · obtain ⟨pushed, agreement⟩ := reachable_agreement reachable fits
    rw [session, (mirrors.follows side).delivered]
    exact (agreement.delivered_early side).trans (mirrors.follows side.other).accepted
  · rcases side_cases one side with rfl | rfl
    · exact parted.delivered
    · rw [Role.other_other]
      rcases parted.rest with waits | ⟨_, delivered⟩
      · exact waits.delivered parted.payloads
      · exact delivered

end Explained

/-! ## What an end without ids still does -/

/-- The session of an end is over, or it waits without a line for a handshake that ends it. -/
def Drained (exchange : Exchange P) (side : Role) : Prop :=
  (exchange.session side).phase = .closed ∨
    ∃ twin, Session.Muted twin (exchange.session side) ∧ twin.delivery.InOrder ∧
      ∀ line clock input, exchange.arrival? side line clock = some input → twin.Trusts input

theorem Explained.drained
    (explained : Explained (start settings limits token sessionId settings') exchange)
    (few : exchange.lines.length ≤ UInt32.size) (spent : (exchange.party side).Spent) :
    exchange.Drained side := by
  rcases explained with ⟨twin, reachable, fits, mirrors⟩ | ⟨one, mine, theirs, parted⟩
  · obtain ⟨pushed, agreement⟩ := reachable_agreement reachable fits
    have lineup := reachable_lineup reachable fits (mirrors.lines ▸ few)
    have books := agreement.books side
    have trusts : ∀ line clock input, exchange.arrival? side line clock = some input →
        (twin.session side).Trusts input := by
      intro line clock input arrives
      rw [← mirrors.arrival] at arrives
      exact lineup.trusts agreement arrives
    have follows := mirrors.follows side
    have small := fits side
    unfold Drained
    unfold session at *
    generalize exchange.party side = party at *
    generalize twin.party side = other at *
    cases follows with
    | abreast => exact absurd spent (Nat.not_le_of_lt small)
    | muted muted _ _ => exact .inr ⟨_, muted, books.keeps.inOrder, trusts⟩
    | silenced silenced => exact .inl silenced.isOver
  · left
    rcases side_cases one side with rfl | rfl
    · exact parted.isOver
    · rcases parted.rest with waits | ⟨isOver, _⟩
      · exact absurd spent waits.unspent
      · exact isOver

namespace Drained

theorem unbound (drained : exchange.Drained side)
    (running : (exchange.session side).phase ≠ .closed) :
    (exchange.session side).current = none := by
  obtain ⟨twin, muted, _⟩ := drained.resolve_left running
  exact muted.unbound

theorem rejects (drained : exchange.Drained side) (roomy : exchange.Roomy) {line : Nat}
    {clock : UInt32} (arrives : exchange.arrival? side line clock = some input)
    (resyncs : (exchange.session side).Resyncs input) :
    Session.Breaks .resyncRejected (exchange.session side)
      ((exchange.session side).step input) := by
  rcases drained with isOver | ⟨twin, muted, inOrder, trusts⟩
  · simp [resyncs.connected] at isOver
  · exact muted.rejects inOrder (roomy side) (trusts _ _ _ arrives) resyncs

private theorem silent_give (drained : exchange.Drained side) (roomy : exchange.Roomy)
    (few : ((exchange.session side).step input).delivery.buffer.length < UInt32.size)
    (source : (∃ event : Event P, event.own? = some (side, input)) ∨
      ∃ line clock, exchange.arrival? side line clock = some input) (target : LineId) :
    packetsOn target ((exchange.session side).step input).actions =
      packetsOn target (exchange.session side).actions := by
  rcases drained with isOver | ⟨twin, muted, inOrder, trusts⟩
  · exact (Session.inert_step isOver input).sent target
  · have trusted : twin.Trusts input := by
      rcases source with ⟨event, own⟩ | ⟨line, clock, arrives⟩
      · exact Event.own_trusted own twin
      · exact trusts line clock input arrives
    exact muted.silent inOrder (roomy side) few trusted target

theorem silent (drained : exchange.Drained side) (roomy : exchange.Roomy)
    (roomy' : exchange'.Roomy) {event : Event P} (stepped : exchange.step? event = some exchange')
    (target : LineId) :
    packetsOn target (exchange'.session side).actions =
      packetsOn target (exchange.session side).actions := by
  rcases step_cases stepped with ⟨_, _, _, _, rfl⟩ | ⟨fed, input, own, rfl⟩ |
    ⟨fed, line, clock, input, _, arrives, rfl⟩
  · rfl
  · rw [session, (unmoved_feed exchange fed input side).sent]
    rcases side_cases fed side with rfl | rfl
    · rw [party_give]
      exact drained.silent_give roomy roomy'.give (.inl ⟨event, own⟩) target
    · rw [party_give_other]
      rfl
  · rw [session, (unmoved_feed _ fed input side).sent]
    rcases side_cases fed side with rfl | rfl
    · rw [party_give]
      exact drained.silent_give roomy roomy'.give (.inr ⟨line, clock, arrives⟩) target
    · rw [party_give_other]
      rfl

end Drained

/-! ## The step that takes the last id -/

/-- With a line at hand the session ends with the input that makes it run out of ids. -/
theorem Mirrored.ends
    (mirrored : Mirrored (start settings limits token sessionId settings') exchange)
    (few : ((exchange.session side).step input).delivery.buffer.length < UInt32.size)
    (unspent : ¬(exchange.party side).Spent) (spent : ((exchange.party side).take input).Spent)
    (bound : (exchange.session side).current.isSome) :
    ((exchange.session side).step input).phase = .closed ∧
      .closed .bookkeeping ∈ ((exchange.session side).step input).outputs ∧
      dialedIn ((exchange.session side).step input).outputs =
        dialedIn (exchange.session side).outputs := by
  obtain ⟨twin, reachable, fits, mirrors⟩ := mirrored
  obtain ⟨pushed, agreement⟩ := reachable_agreement reachable fits
  have books := agreement.books side
  have records := agreement.records side
  have counted := agreement.counted side
  have same : twin.party side = exchange.party side := by
    have follows := mirrors.follows side
    generalize exchange.party side = party at follows unspent
    generalize twin.party side = other at follows
    cases follows with
    | abreast => rfl
    | muted _ _ spent => exact absurd spent unspent
    | silenced silenced => exact absurd silenced.spent unspent
  rw [session, same] at books records
  rw [same] at counted
  have overruns :=
    Party.overruns books records.guarded records.not_closeWait counted few spent
  exact overruns.ends bound

/-- Only what it is given makes an end run out of ids. -/
theorem spent_feed {fed : Role} (unspent : ¬(exchange.party side).Spent)
    (spent : ((exchange.feed fed input).party side).Spent) :
    fed = side ∧ ((exchange.party side).take input).Spent := by
  rw [Party.Spent, (unmoved_feed exchange fed input side).assigned] at spent
  rcases side_cases fed side with rfl | rfl
  · rw [party_give] at spent
    exact ⟨rfl, spent⟩
  · rw [party_give_other] at spent
    exact absurd spent unspent

theorem Explained.flushes
    (explained : Explained (start settings limits token sessionId settings') exchange)
    (roomy : exchange'.Roomy) {event : Event P} (stepped : exchange.step? event = some exchange')
    (unspent : ¬(exchange.party side).Spent) (spent : (exchange'.party side).Spent)
    (bound : (exchange.session side).current.isSome) :
    (exchange'.session side).phase = .closed ∧
      .closed .bookkeeping ∈ (exchange'.session side).outputs := by
  rcases explained with mirrored | ⟨one, mine, theirs, parted⟩
  · -- A lane that moves on is nothing to the ends, so an arrival is like any other input.
    have fed : ∀ (base : Exchange P) {target : Role} {input : Input P},
        base.party = exchange.party → exchange' = base.feed target input →
          (exchange'.session side).phase = .closed ∧
            .closed .bookkeeping ∈ (exchange'.session side).outputs := by
      rintro base target input same rfl
      have unspent' : ¬(base.party side).Spent := same ▸ unspent
      obtain ⟨rfl, spent'⟩ := spent_feed unspent' spent
      have few := roomy.give
      have sessions : base.session target = exchange.session target :=
        congrArg (fun party => (party target).session) same
      rw [sessions] at few
      rw [same] at spent'
      obtain ⟨isOver, told, dials⟩ := mirrored.ends few unspent spent' bound
      rw [← sessions] at isOver told dials
      rw [feed_eq_give_of_dials base dials, session_give]
      exact ⟨isOver, told⟩
    rcases step_cases stepped with ⟨_, _, _, _, rfl⟩ | ⟨_, _, _, same⟩ |
      ⟨_, _, _, _, _, _, same⟩
    · exact absurd spent unspent
    · exact fed exchange rfl same
    · exact fed (exchange.onLane _ _ Lane.receive) rfl same
  · rw [Party.Spent, (parted.step stepped).2 side] at spent
    exact absurd spent unspent

end Exchange

end ResumableSession
