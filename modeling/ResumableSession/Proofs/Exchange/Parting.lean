import ResumableSession.Proofs.Exchange.Mirror

/-!
# A Fin that finds no id

Whoever answers a Fin gives out two ids, one for the FinAck and one for its own Fin.  If
only one is left, the FinAck is sent and the session ends over the other.  Its peer has
closed already, so that it gives out no more ids either, and waits for a Fin that never
comes.
-/

namespace ResumableSession

variable {P : Type}

namespace Session

variable {session after : Session P} {input : Input P} {accepted : List P}
  {mine theirs : List (ReliableBody P)}

/-- The last of as many bodies as there are ids has no id. -/
theorem fin_unnumbered (payloads : mine = accepted.map .data ++ [.finAck, .fin])
    (full : mine.length = UInt32.size) {count : Nat} (found : mine[count]? = some .fin)
    {id : UInt32} (next : id.toNat = count + 1) : False := by
  have small := id.toNat_lt_size
  rw [payloads] at found full
  obtain ⟨begun, inFarewell⟩ := Mannered.in_farewell found rfl
  simp only [List.length_append, List.length_map, List.length_cons, List.length_nil] at full
  have place : count - accepted.length = 0 ∨ count - accepted.length = 1 := by
    have inside := (List.getElem?_eq_some_iff.mp inFarewell).1
    simp only [List.length_cons, List.length_nil] at inside
    omega
  rcases place with first | second
  · simp [first] at inFarewell
  · omega

private theorem assignedBy_of_waiting {heard : List (ReliableBody P)}
    (records : Records accepted theirs heard session) (finSent : .fin ∈ theirs)
    (unheard : ¬session.Brings input .fin) : session.assignedBy input = 0 := by
  have same : (session.step input).delivery.lastSendId = session.delivery.lastSendId := by
    rcases (session.outcome_step input).pushes with same | pushes
    · exact same
    · generalize session.step input = after at pushes ⊢
      cases pushes with
      | sends running unsent =>
          have sent : session.closing.finSent := records.fin.mpr finSent
          simp [unsent] at sent
      | closes connected =>
          have begun := records.fin_pushed.mp finSent
          rw [CloseMachine.localClose_begun begun records.not_closeWait]
          exact lastSendId_applyClose rfl
      | @answers line packet clock _ _ _ _ bound next acked open_ isFin decided =>
          exact absurd ⟨line, packet, clock, rfl, isFin, next⟩ unheard
  rw [assignedBy, same, UInt32.sub_self]
  rfl

end Session

/-- An end that has pushed its Fin and hears from a peer with this history, as far as it
has an id. -/
structure Party.Waits (mine theirs : List (ReliableBody P)) (party : Party P) : Prop where
  books : Session.Books theirs party.session
  records : Session.Records party.accepted theirs
    (mine.take party.session.delivery.lastRecvId.toNat) party.session
  finSent : .fin ∈ theirs
  counted : theirs.length = party.assigned

namespace Party.Waits

variable {party : Party P} {input : Input P} {accepted : List P}
  {mine theirs : List (ReliableBody P)}

theorem unspent (waits : party.Waits mine theirs) : ¬party.Spent := by
  have small := waits.books.length_lt
  have counted := waits.counted
  unfold Spent
  omega

theorem delivered (waits : party.Waits mine theirs)
    (payloads : mine = accepted.map .data ++ [.finAck, .fin]) :
    deliveredIn party.session.outputs <+: accepted := by
  have all : mine.filterMap ReliableBody.payload? = accepted := by
    have wrapped : ReliableBody.payload? ∘ ReliableBody.data = (some : P → Option P) := rfl
    rw [payloads, List.filterMap_append, List.filterMap_map, wrapped, List.filterMap_some]
    exact List.append_nil _
  have heard := List.take_prefix party.session.delivery.lastRecvId.toNat mine
  rw [waits.records.delivered, ← all]
  exact heard.filterMap _

theorem idle (waits : party.Waits mine theirs)
    (payloads : mine = accepted.map .data ++ [.finAck, .fin]) (full : mine.length = UInt32.size)
    (next : ∀ body, party.session.Brings input body →
      mine[party.session.delivery.lastRecvId.toNat]? = some body) :
    party.session.assignedBy input = 0 := by
  refine Session.assignedBy_of_waiting waits.records waits.finSent fun brought => ?_
  have found := next .fin brought
  obtain ⟨_, packet, _, _, _, numbered⟩ := brought
  exact Session.fin_unnumbered payloads full found numbered

theorem take (waits : party.Waits mine theirs)
    (payloads : mine = accepted.map .data ++ [.finAck, .fin]) (full : mine.length = UInt32.size)
    (next : ∀ body, party.session.Brings input body →
      mine[party.session.delivery.lastRecvId.toNat]? = some body) :
    (party.take input).Waits mine theirs ∧
      ∀ line, ∀ packet ∈ packetsOn line (party.take input).session.actions,
        packet ∈ packetsOn line party.session.actions ∨ packet.Truthful theirs UInt32.size := by
  have none := waits.idle payloads full next
  obtain ⟨fresh, taken, accounts⟩ := Session.accounts_step waits.books waits.records.guarded input
    (by rw [none]; exact waits.books.length_lt)
  have given := accounts.length_fresh waits.books
  obtain rfl : fresh = [] := List.length_eq_zero_iff.mp (given.trans none)
  have mannered : Mannered mine := ⟨accepted, [.finAck, .fin], by simp, payloads⟩
  have records := waits.records.turn mannered (fun _ => waits.finSent) waits.books.connected
    (fun body member => next body (accounts.brought body member)) accounts.turn
  have books := accounts.books
  simp only [List.append_nil, List.filterMap_nil] at records books
  have unaccepted : (party.take input).accepted = party.accepted := by
    rw [Party.take, ← accounts.payloads]
    exact List.append_nil _
  refine ⟨⟨books, ?_, waits.finSent, ?_⟩, ?_⟩
  · rw [unaccepted, Party.take, accounts.turn.recvId]
    exact records
  · rw [Party.take, none, waits.counted, Nat.add_zero]
  · intro line packet member
    refine (accounts.sent line packet member).imp_right fun truthful => ?_
    rw [List.append_nil] at truthful
    exact truthful.mono List.prefix_rfl (Nat.le_of_lt (UInt32.toNat_lt_size _))

end Party.Waits

namespace Exchange

variable {exchange exchange' twin : Exchange P} {pushed : Role → List (ReliableBody P)}
  {side target : Role} {input : Input P} {mine theirs : List (ReliableBody P)}

/-- One end has ended over the id of its Fin. -/
structure Parted (party : Role → Party P) (side : Role) (mine theirs : List (ReliableBody P)) :
    Prop where
  isOver : (party side).session.phase = .closed
  spent : (party side).Spent
  payloads : mine = (party side).accepted.map .data ++ [.finAck, .fin]
  full : mine.length = UInt32.size
  delivered : deliveredIn (party side).session.outputs <+: (party side.other).accepted
  mineTruthful : ∀ line, ∀ packet ∈ packetsOn line (party side).session.actions,
    packet.Truthful mine UInt32.size
  theirsTruthful : ∀ line, ∀ packet ∈ packetsOn line (party side.other).session.actions,
    packet.Truthful theirs UInt32.size
  rest : (party side.other).Waits mine theirs ∨
    (party side.other).session.phase = .closed ∧
      deliveredIn (party side.other).session.outputs <+: (party side).accepted

namespace Parted

/-- Whatever either end is given, the one stays silent and the other waits. -/
theorem give (parted : Parted exchange.party side mine theirs)
    (next : target = side.other → ∀ body, (exchange.session target).Brings input body →
      mine[exchange.received target]? = some body) :
    Parted (exchange.give target input).party side mine theirs := by
  rcases side_cases side target with rfl | rfl
  · have inert := Session.inert_step parted.isOver input
    have unaccepted : ((exchange.party target).take input).accepted =
        (exchange.party target).accepted := by
      rw [Party.take, Session.accepts_of_closed parted.isOver, List.append_nil]
    constructor
    case payloads =>
      rw [party_give, unaccepted]
      exact parted.payloads
    case delivered =>
      rw [party_give, party_give_other, Party.take, inert.outputs]
      exact parted.delivered
    case rest =>
      rw [party_give, party_give_other, unaccepted]
      exact parted.rest
    case isOver =>
      rw [party_give]
      exact inert.isOver
    case spent =>
      rw [party_give]
      exact parted.spent.take input
    case full => exact parted.full
    case mineTruthful =>
      intro line packet member
      rw [party_give, Party.take, inert.sent] at member
      exact parted.mineTruthful line packet member
    case theirsTruthful =>
      intro line packet member
      rw [party_give_other] at member
      exact parted.theirsTruthful line packet member
  · have others := party_give_other exchange side.other input
    rw [Role.other_other] at others
    have grows : (exchange.party side.other).accepted <+:
        ((exchange.party side.other).take input).accepted :=
      List.prefix_append _ _
    have moved : (∀ line, ∀ packet ∈ packetsOn line
          ((exchange.party side.other).take input).session.actions,
        packet ∈ packetsOn line (exchange.party side.other).session.actions ∨
          packet.Truthful theirs UInt32.size) ∧
      (((exchange.party side.other).take input).Waits mine theirs ∨
        ((exchange.party side.other).take input).session.phase = .closed ∧
          deliveredIn ((exchange.party side.other).take input).session.outputs <+:
            (exchange.party side).accepted) := by
      rcases parted.rest with waits | ⟨isOver, delivered⟩
      · obtain ⟨waits', truthful⟩ := waits.take parted.payloads parted.full (next rfl)
        exact ⟨truthful, .inl waits'⟩
      · have inert := Session.inert_step isOver input
        refine ⟨fun line packet member => ?_, .inr ⟨inert.isOver, ?_⟩⟩
        · rw [Party.take, inert.sent] at member
          exact .inl member
        · rw [Party.take, inert.outputs]
          exact delivered
    constructor
    case isOver =>
      rw [others]
      exact parted.isOver
    case spent =>
      rw [others]
      exact parted.spent
    case payloads =>
      rw [others]
      exact parted.payloads
    case full => exact parted.full
    case delivered =>
      rw [others, party_give]
      exact parted.delivered.trans grows
    case mineTruthful =>
      rw [others]
      exact parted.mineTruthful
    case theirsTruthful =>
      intro line packet member
      rw [party_give] at member
      exact (moved.1 line packet member).elim (parted.theirsTruthful line packet) id
    case rest =>
      rw [others, party_give]
      exact moved.2

theorem foldl_dial (handshakes : List Handshake) :
    ∀ {exchange : Exchange P}, Parted exchange.party side mine theirs →
      Parted (handshakes.foldl dial exchange).party side mine theirs := by
  induction handshakes with
  | nil => exact fun parted => parted
  | cons handshake handshakes induction =>
      intro exchange parted
      apply induction
      exact parted.give fun _ body brought => by simp [Session.Brings] at brought

theorem feed (parted : Parted exchange.party side mine theirs)
    (next : target = side.other → ∀ body, (exchange.session target).Brings input body →
      mine[exchange.received target]? = some body) :
    Parted (exchange.feed target input).party side mine theirs := by
  have given := parted.give next
  cases target with
  | responder => exact given
  | initiator => exact foldl_dial _ given

theorem sent (parted : Parted exchange.party side mine theirs) {line : Nat}
    {connection : Connection} {packet : Packet P}
    (member : packet ∈ exchange.sentTo side.other line connection) :
    packet.Truthful mine UInt32.size := by
  cases side with
  | responder => exact parted.mineTruthful ⟨line⟩ packet member
  | initiator =>
      rcases List.mem_cons.mp member with rfl | sent
      · cases connection.handshake with
        | create _ => trivial
        | rebind _ _ clientAck => exact Nat.le_of_lt clientAck.toNat_lt_size
      · exact parted.mineTruthful ⟨line⟩ packet sent

theorem arrival (parted : Parted exchange.party side mine theirs) {line : Nat} {clock : UInt32}
    (arrives : exchange.arrival? target line clock = some input) :
    target = side.other → ∀ body, (exchange.session target).Brings input body →
      mine[exchange.received target]? = some body := by
  rintro rfl
  obtain ⟨connection, packet, _, atFront, rfl⟩ := arrival_cases arrives
  have truthful := parted.sent (List.mem_of_getElem? atFront)
  exact (Connection.report_truthful truthful ⟨line⟩ clock).2 _

private theorem assigned_feed (parted : Parted exchange.party side mine theirs)
    (next : target = side.other → ∀ body, (exchange.session target).Brings input body →
      mine[exchange.received target]? = some body) (either : Role) :
    ((exchange.feed target input).party either).assigned = (exchange.party either).assigned := by
  rw [(unmoved_feed exchange target input either).assigned]
  rcases side_cases target either with rfl | rfl
  · have idle : (exchange.session either).assignedBy input = 0 := by
      rcases side_cases side either with rfl | rfl
      · exact Session.assignedBy_of_closed parted.isOver input
      · rcases parted.rest with waits | ⟨isOver, _⟩
        · exact waits.idle parted.payloads parted.full (next rfl)
        · exact Session.assignedBy_of_closed isOver input
    rw [party_give]
    exact congrArg ((exchange.party either).assigned + ·) idle
  · rw [party_give_other]

/-- From then on no end gives out ids. -/
theorem step (parted : Parted exchange.party side mine theirs) {event : Event P}
    (stepped : exchange.step? event = some exchange') :
    Parted exchange'.party side mine theirs ∧
      ∀ either, (exchange'.party either).assigned = (exchange.party either).assigned := by
  rcases step_cases stepped with ⟨_, _, _, _, rfl⟩ | ⟨target, input, own, rfl⟩ |
    ⟨target, line, clock, input, _, arrives, rfl⟩
  · exact ⟨parted, fun _ => rfl⟩
  · have next : target = side.other → ∀ body, (exchange.session target).Brings input body →
        mine[exchange.received target]? = some body :=
      fun _ body brought => absurd brought ((Event.own_brings own).2 _ body)
    exact ⟨parted.feed next, parted.assigned_feed next⟩
  · have laned : Parted (exchange.onLane target line Lane.receive).party side mine theirs := parted
    exact ⟨laned.feed (parted.arrival arrives), laned.assigned_feed (parted.arrival arrives)⟩

end Parted

theorem Agreement.delivered_early (agreement : exchange.Agreement pushed) (side : Role) :
    deliveredIn (exchange.session side).outputs <+: (exchange.party side.other).accepted := by
  have heard := List.take_prefix (exchange.received side) (pushed side.other)
  rw [agreement.delivered, ← (agreement.records side.other).accepted_eq]
  exact heard.filterMap _

/-- An end that has pushed its Fin waits, whatever its peer may push yet. -/
theorem Agreement.waits (agreement : exchange.Agreement pushed)
    (finSent : .fin ∈ pushed side.other) (later : List (ReliableBody P)) :
    (exchange.party side.other).Waits (pushed side ++ later) (pushed side.other) := by
  have records := agreement.records side.other
  have heard := agreement.heard side.other
  rw [Role.other_other] at records heard
  have cut : (pushed side ++ later).take (exchange.received side.other) =
      (pushed side).take (exchange.received side.other) :=
    List.take_append_of_le_length heard
  exact
    { books := agreement.books side.other
      records := cut.symm ▸ records
      finSent
      counted := agreement.counted side.other }

theorem Divides.parted (divides : Divides twin exchange pushed side input) :
    Parted (exchange.feed side input).party side (pushed side ++ [.finAck, .fin])
      (pushed side.other) := by
  obtain ⟨mirrors, agreement, same, brought, next, parts, spent⟩ := divides
  have mine : twin.session side = exchange.session side := congrArg Party.session same
  have theirs := mirrors.follows side.other
  have foreign : input.isLocal = false := by
    obtain ⟨line, packet, clock, rfl, _⟩ := brought
    rfl
  have unaccepted : ((exchange.party side).take input).accepted = (twin.party side).accepted := by
    rw [Party.take, Session.accepts_of_foreign foreign, List.append_nil, same]
  have history : pushed side = (twin.party side).accepted.map .data := by
    obtain ⟨farewell, farewells, history⟩ := (agreement.records side).farewell
    rw [mine, parts.active] at farewells
    obtain rfl : farewell = [] := List.mem_singleton.mp farewells
    simpa using history
  rw [feed_eq_give_of_dials exchange parts.dials]
  constructor
  case isOver =>
    rw [party_give]
    exact parts.isOver
  case spent =>
    rw [party_give]
    exact spent
  case payloads => rw [party_give, unaccepted, history]
  case full =>
    rw [List.length_append]
    exact parts.last
  case delivered =>
    rw [party_give, party_give_other]
    have before := agreement.delivered_early side
    rw [mine, ← parts.delivered] at before
    exact before.trans theirs.accepted
  case mineTruthful =>
    intro line packet member
    rw [party_give] at member
    rcases parts.sent line packet member with old | new
    · have truthful := agreement.truthful side line packet (mine ▸ old)
      exact truthful.mono (List.prefix_append _ _) (Nat.le_of_lt (UInt32.toNat_lt_size _))
    · refine new.mono ?_ (Nat.le_refl _)
      exact ⟨[.fin], by simp⟩
  case theirsTruthful =>
    intro line packet member
    rw [party_give_other, theirs.sent] at member
    have truthful := agreement.truthful side.other line packet member
    exact truthful.mono List.prefix_rfl (Nat.le_of_lt (UInt32.toNat_lt_size _))
  case rest =>
    rw [party_give, party_give_other, unaccepted]
    have finSent := List.mem_of_getElem? next
    have waits := agreement.waits finSent [.finAck, .fin]
    have delivered := agreement.delivered_early side.other
    rw [Role.other_other, session] at delivered
    generalize exchange.party side.other = party at theirs ⊢
    generalize twin.party side.other = other at theirs waits delivered
    cases theirs with
    | abreast => exact .inl waits
    | muted muted _ _ => exact absurd muted.active (waits.records.fin_pushed.mp finSent)
    | silenced silenced =>
        refine .inr ⟨silenced.isOver, ?_⟩
        rw [silenced.delivered]
        exact delivered

end Exchange

end ResumableSession
