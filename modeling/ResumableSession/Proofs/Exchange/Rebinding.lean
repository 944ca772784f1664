import ResumableSession.Proofs.Exchange.Lineup

/-!
# Lines come and go

The three ways in which an exchange gets a line: the initiator dials one, the
responder answers it, and the initiator takes the answer.
-/

namespace ResumableSession

variable {P : Type}

namespace Session

/-- A session without a line has asked for one, and was given it to wait for. -/
structure Redials (number : Nat) (before after : Session P) : Prop where
  current : after.current = none
  pending : after.pending = some ⟨⟨number⟩, before.lastLineIndex + 1⟩
  index : after.lastLineIndex = before.lastLineIndex + 1
  connected : after.phase = .connected
  delivery : after.delivery = before.delivery
  sent : ∀ line, packetsOn line after.actions = packetsOn line before.actions

theorem update_idle {session : Session P} (idle : session.Idle) (running : session.phase ≠ .closed)
    (time : Duration) (clock : UInt32) (due : (session.liveness.tick time).2 = [.rebindDue]) :
    session.current = none ∧ session.phase = .connected ∧
      session.update time clock =
        startRebind { session with liveness := (session.liveness.tick time).1 } := by
  have active : ¬(session.liveness.rebind = .stopped ∧ session.liveness.cooltime = .stopped) := by
    obtain ⟨_, ⟨_, _, active⟩ | ⟨undue, _⟩⟩ := session.liveness.tick_cases time
    · exact active
    · simp [due] at undue
  have unbound : session.current = none := by
    by_contra bound
    exact active (idle (.inl (Option.isSome_iff_ne_none.mpr bound)))
  have connected : session.phase = .connected := by
    cases phase : session.phase with
    | connecting => exact absurd (idle (.inr phase)) active
    | connected => rfl
    | closed => exact absurd phase running
  refine ⟨unbound, connected, ?_⟩
  rcases update_rebindDue running time clock due with silent | told
  · exact silent
  · rw [told]
    unfold sendAck
    rw [startRebind_eq, if_pos]
    simp [unbound]

private theorem redials_bindPending {session : Session P} (idle : session.Idle)
    (running : session.phase ≠ .closed) (time : Duration) (clock : UInt32)
    (due : (session.liveness.tick time).2 = [.rebindDue]) (number : Nat) :
    Redials number session
      ((session.update time clock).bindPending ⟨⟨number⟩, session.lastLineIndex + 1⟩) := by
  obtain ⟨unbound, connected, same⟩ := update_idle idle running time clock due
  rw [same, startRebind_eq]
  unfold bindPending
  rw [if_neg (by simp [connected])]
  constructor
  · exact unbound
  · rfl
  · rfl
  · exact connected
  · rfl
  · intro line
    simp [discard_eq]

theorem Dialing.redials {count : Nat} {before after : Session P} (dialing : Dialing count before)
    (room : count < UInt32.size) (redials : Redials count before after) :
    Dialing (count + 1) after := by
  have last := dialing.index
  constructor
  · rw [redials.index, Delivery.toNat_succ (by omega), last]
  · intro line known
    rcases known with current | shaking
    · simp [redials.current] at current
    · rw [redials.pending] at shaking
      rw [← Option.some.inj shaking]
  · intro bound
    simp [redials.current] at bound
  · intro resting
    simp [redials.current, redials.connected] at resting

end Session

namespace Exchange

namespace Lineup

variable {exchange exchange' : Exchange P}

theorem feed_rebinds (lineup : exchange.Lineup) (time : Duration) (clock : UInt32)
    (running : (exchange.session .initiator).phase ≠ .closed)
    (due : ((exchange.session .initiator).liveness.tick time).2 = [.rebindDue]) :
    (∃ sessionId, (exchange.feed .initiator (.update time clock)).lines =
        exchange.lines ++ [{
          handshake := .rebind sessionId ((exchange.session .initiator).lastLineIndex + 1)
            (exchange.session .initiator).delivery.lastRecvId }]) ∧
      (exchange.feed .initiator (.update time clock)).session .responder =
        exchange.session .responder ∧
      Session.Redials exchange.lines.length (exchange.session .initiator)
        ((exchange.feed .initiator (.update time clock)).session .initiator) := by
  obtain ⟨_, _, same⟩ := Session.update_idle lineup.dialing.idle running time clock due
  have given : (exchange.give .initiator (.update time clock)).session .initiator =
      (exchange.session .initiator).update time clock :=
    session_give exchange .initiator (.update time clock)
  have asked : dialedIn
      (((exchange.give .initiator (.update time clock)).session .initiator).outputs.drop
        (exchange.session .initiator).outputs.length) =
      [.rebind (exchange.session .initiator).sessionId
        ((exchange.session .initiator).lastLineIndex + 1)
        (exchange.session .initiator).delivery.lastRecvId] := by
    rw [given, same, Session.startRebind_eq]
    simp only [List.drop_left]
    rfl
  have redials := Session.redials_bindPending lineup.dialing.idle running time clock due
    exchange.lines.length
  unfold Exchange.feed
  simp only [asked, List.foldl_cons, List.foldl_nil]
  refine ⟨⟨_, rfl⟩, rfl, ?_⟩
  have dialed := session_give (exchange.give .initiator (.update time clock)) .initiator
    (.bindPending ⟨⟨exchange.lines.length⟩, (exchange.session .initiator).lastLineIndex + 1⟩)
  rw [given] at dialed
  exact dialed ▸ redials

/-- The initiator dials a line, whose request says what it has received so far. -/
theorem dial (lineup : exchange.Lineup) {sessionId : UInt32}
    (lines : exchange'.lines = exchange.lines ++ [{
      handshake := .rebind sessionId ((exchange.session .initiator).lastLineIndex + 1)
        (exchange.session .initiator).delivery.lastRecvId }])
    (others : exchange'.session .responder = exchange.session .responder)
    (redials : Session.Redials exchange.lines.length (exchange.session .initiator)
      (exchange'.session .initiator))
    (unbound : (exchange.session .initiator).current = none)
    (few : exchange.lines.length < UInt32.size) : exchange'.Lineup := by
  have count : exchange'.lines.length = exchange.lines.length + 1 := by simp [lines]
  have last := lineup.dialing.index
  have number :
      ((exchange.session .initiator).lastLineIndex + 1).toNat = exchange.lines.length := by
    rw [Delivery.toNat_succ (by omega), last]
  have known_cases : ∀ {index : Nat} {connection : Connection},
      exchange'.lines[index]? = some connection →
        exchange.lines[index]? = some connection ∨
          index = exchange.lines.length ∧ connection = {
            handshake := .rebind sessionId ((exchange.session .initiator).lastLineIndex + 1)
              (exchange.session .initiator).delivery.lastRecvId } := by
    intro index connection found
    rw [lines, List.getElem?_append] at found
    split at found
    · exact .inl found
    · next beyond =>
        obtain ⟨inside, same⟩ := List.getElem?_eq_some_iff.mp found
        simp only [List.length_singleton] at inside
        have first : index = exchange.lines.length := by omega
        refine .inr ⟨first, ?_⟩
        subst first
        simpa using same.symm
  have received : ∀ side, exchange'.received side = exchange.received side := by
    intro side
    cases side with
    | initiator => simp only [Exchange.received, redials.delivery]
    | responder => simp only [Exchange.received, others]
  have sent : ∀ side line, packetsOn line (exchange'.session side).actions =
      packetsOn line (exchange.session side).actions := by
    intro side line
    cases side with
    | initiator => exact redials.sent line
    | responder => rw [others]
  have views : ∀ side index connection, exchange'.lineView side index connection =
      exchange.lineView side index connection := by
    intro side index connection
    cases side with
    | initiator =>
        simp only [lineView, received, sent, redials.delivery, redials.current, unbound]
    | responder => simp only [lineView, received, others]
  constructor
  case dialing =>
    rw [count]
    exact lineup.dialing.redials few redials
  case answering =>
    rw [count, others]
    exact lineup.answering.mono (Nat.le_succ _)
  case indices =>
    intro index connection found
    rcases known_cases found with old | ⟨rfl, rfl⟩
    · exact lineup.indices index connection old
    · exact number
  case orderly =>
    intro index connection found side
    rw [views, views]
    rcases known_cases found with old | ⟨rfl, rfl⟩
    · exact lineup.orderly index connection old side
    · have silent := lineup.unnamed side exchange.lines.length (Nat.le_refl _)
      have unboundTo := lineup.unbound side (Nat.le_refl exchange.lines.length)
      constructor
      · cases side <;> exact Nat.zero_le _
      · left
        refine ⟨?_, unboundTo⟩
        simp only [lineView, silent, List.append_nil]
        cases side <;> rfl
      · exact fun bound => absurd bound unboundTo
  case unnamed =>
    intro side line beyond
    rw [count] at beyond
    rw [sent]
    exact lineup.unnamed side line (by omega)
  case answered =>
    intro index connection found spoken
    rw [sent] at spoken
    rw [others]
    rcases known_cases found with old | ⟨rfl, rfl⟩
    · exact lineup.answered index connection old spoken
    · exact absurd (lineup.unnamed .responder _ (Nat.le_refl _)) spoken
  case stale =>
    intro bound
    simp [redials.current] at bound
  case fresh =>
    intro index connection found unheard sessionId' lineIndex clientAck asks
    rw [others, redials.delivery]
    rcases known_cases found with old | ⟨rfl, rfl⟩
    · exact lineup.fresh index connection old unheard _ _ _ asks
    · simp only [Handshake.rebind.injEq] at asks
      exact .inr asks.2.2.symm
  case granted =>
    intro index connection found shaking unheard serverAck answer
    rw [sent] at answer
    rw [redials.pending] at shaking
    simp only [Option.map_some, Option.some.injEq, LineId.mk.injEq] at shaking
    subst shaking
    simp [lineup.unnamed .responder _ (Nat.le_refl _)] at answer

section

variable {history : List (ReliableBody P)} {heard start : Nat} {line : Line}
  {response : List (Packet P)} {pending : Option Line} {index : UInt32}

private theorem sent_of_binds {before after : Session P}
    (binds : Session.Binds heard history line start response pending index before after)
    (known : start ≤ history.length) :
    ∃ packets finish, Stretch start finish packets ∧
      (∀ target, packetsOn target after.actions = packetsOn target before.actions ++
        if line.id = target then response ++ packets else []) ∧
      (after.current.isSome → finish = history.length) := by
  obtain ⟨opened, opens, elapses⟩ := binds
  obtain ⟨_, advances, _⟩ := elapses.advances
  obtain ⟨packets, finish, stream, sent, reached⟩ := advances.sends
  rw [List.length_take_of_le known] at stream
  refine ⟨packets, finish, stream.toStretch, ?_, reached⟩
  intro target
  rw [sent, opens.sent, opens.current]
  simp only [Option.map_some, Option.some.injEq]
  split <;> simp

private theorem current_of_binds {before after : Session P}
    (binds : Session.Binds heard history line start response pending index before after) :
    after.current = some line ∨ after.current = none := by
  obtain ⟨opened, opens, elapses⟩ := binds
  obtain ⟨_, advances, _⟩ := elapses.advances
  rw [← opens.current]
  exact advances.current

/-- Both directions of every line stay in order when a line is bound, whose peer has
reported what it has. -/
theorem orderly_binds (lineup : exchange.Lineup) (side : Role)
    (lines : exchange'.lines = exchange.lines)
    (others : exchange'.session side.other = exchange.session side.other)
    (binds : Session.Binds heard history line start response pending index
      (exchange.session side) (exchange'.session side))
    (known : start ≤ history.length)
    (unspoken : packetsOn line.id (exchange.session side).actions = [])
    (begun : ∀ connection, exchange.lines[line.id.number]? = some connection →
      (connection.lane side).arrived = 1 ∧
      (exchange.lineView side.other line.id.number connection).start? = some start ∧
      ∃ first count, connection.opening side ++ response = [first] ∧
        first.count? = some count ∧ count ≤ exchange'.received side)
    (index : Nat) (connection : Connection)
    (found : exchange'.lines[index]? = some connection) (target : Role) :
    (exchange'.lineView target index connection).Orderly
      (exchange'.lineView target.other index connection) := by
  rw [lines] at found
  obtain ⟨packets, finish, stretch, sent, reached⟩ := sent_of_binds binds known
  obtain ⟨opened, opens, elapses⟩ := binds
  obtain ⟨_, advances, _⟩ := elapses.advances
  have pushedAfter : (exchange'.session side).delivery.lastSendId.toNat = history.length :=
    advances.books.keeps.counted
  have still : ∀ view, exchange'.lineView side.other view connection =
      exchange.lineView side.other view connection := by
    intro view
    simp only [lineView, received, others]
  have longer : (exchange.lineView side index connection).sent <+:
      (exchange'.lineView side index connection).sent := by
    simp only [lineView, sent, ← List.append_assoc]
    exact List.prefix_append _ _
  rcases side_cases side target with rfl | rfl
  · rw [still]
    by_cases here : line.id = ⟨index⟩
    · have same : line.id.number = index := congrArg LineId.number here
      rw [same] at begun
      obtain ⟨arrived, starts, first, count, answer, counts, counted⟩ := begun connection found
      have spoken : (exchange'.lineView target index connection).sent = first :: packets := by
        simp only [lineView, sent, if_pos here]
        rw [← here, unspoken, List.nil_append, ← List.append_assoc, answer]
        rfl
      obtain ⟨opening, rest, opens', unnumbered⟩ := LineView.sent_of_start? starts
      have one : (exchange'.lineView target index connection).arrived = 1 := arrived
      constructor
      · rw [one, opens']
        exact Nat.succ_le_succ (Nat.zero_le _)
      · right
        refine ⟨by simp [one], start, finish, starts, ?_, ?_⟩
        · rw [spoken]
          exact stretch
        · intro bound
          rw [reached (Session.isSome_of_id bound)]
          exact pushedAfter.symm
      · intro _
        refine ⟨count, ?_, ?_⟩
        · rw [LineView.start?, spoken]
          exact counts
        · rw [one, opens']
          simpa [unnumbered, lineView] using counted
    · apply (lineup.orderly index connection found target).grow _ (List.prefix_refl _)
      have unbound : ¬(exchange'.lineView target index connection).bound := by
        intro bound
        simp only [lineView] at bound
        rcases current_of_binds ⟨opened, opens, elapses⟩ with current | none
        · rw [current] at bound
          exact here (Option.some.inj bound)
        · simp [none] at bound
      constructor
      · rfl
      · exact fun bound => absurd bound unbound
      · simp only [lineView, received, ← opens.delivery]
        exact advances.received
      · refine ⟨[], _, ?_, fun _ => rfl, .nil _, fun bound => absurd bound unbound⟩
        simp only [lineView, sent, if_neg here, List.append_nil]
  · have before := lineup.orderly index connection found side.other
    rw [Role.other_other] at before ⊢
    rw [still]
    exact before.grow (.refl _) longer

/-- The initiator binds the newest line: its request has arrived, and all others
that have not are out of date. -/
theorem binds_initiator (lineup : exchange.Lineup) (lines : exchange'.lines = exchange.lines)
    (others : exchange'.session .responder = exchange.session .responder)
    (shaking : (exchange.session .initiator).pending = some line) {connection : Connection}
    (found : exchange.lines[line.id.number]? = some connection)
    (arrived : connection.toInitiator.arrived = 1)
    (unspoken : packetsOn line.id (exchange.session .initiator).actions = [])
    (starts : (exchange.lineView .responder line.id.number connection).start? = some start)
    (asked : ∃ count, (connection.handshake.toPacket : Packet P).count? = some count ∧
      count ≤ exchange'.received .initiator)
    (known : start ≤ history.length)
    (binds : Session.Binds heard history line start [] none
      (exchange.session .initiator).lastLineIndex (exchange.session .initiator)
      (exchange'.session .initiator)) : exchange'.Lineup := by
  have newest := lineup.dialing.newest line (.inr shaking)
  obtain ⟨dialing, pending⟩ := lineup.dialing.binds shaking binds
  have orderly := lineup.orderly_binds .initiator lines others binds known unspoken (by
    intro connection' found'
    obtain rfl : connection' = connection := Option.some.inj (found'.symm.trans found)
    obtain ⟨count, counts, counted⟩ := asked
    exact ⟨arrived, starts, _, count, rfl, counts, counted⟩)
  have answeredIt : packetsOn line.id (exchange.session .responder).actions ≠ [] := by
    obtain ⟨first, rest, sent, _⟩ := LineView.sent_of_start? starts
    simp only [lineView, Connection.opening, List.nil_append] at sent
    intro silent
    rw [silent] at sent
    simp at sent
  obtain ⟨heardIt, newestKnown⟩ := lineup.answered _ connection found answeredIt
  have outdated : ∀ (index : Nat) (connection : Connection),
      exchange.lines[index]? = some connection → connection.toResponder.arrived = 0 →
        index < (exchange.session .responder).lastLineIndex.toNat := by
    intro index connection' found' unheard
    obtain ⟨inside, _⟩ := List.getElem?_eq_some_iff.mp found'
    have apart : index ≠ line.id.number := by
      rintro rfl
      obtain rfl : connection' = connection := Option.some.inj (found'.symm.trans found)
      exact heardIt unheard
    omega
  obtain ⟨packets, finish, _, sent, _⟩ := sent_of_binds binds known
  constructor
  case dialing =>
    rw [lines]
    exact dialing
  case answering =>
    rw [others, lines]
    exact lineup.answering
  case indices =>
    rw [lines]
    exact lineup.indices
  case orderly => exact orderly
  case unnamed =>
    intro target index beyond
    rw [lines] at beyond
    cases target with
    | initiator =>
        rw [sent, lineup.unnamed .initiator index beyond, if_neg]
        · rfl
        · rintro same
          rw [same] at newest
          simp only at newest
          omega
    | responder =>
        rw [others]
        exact lineup.unnamed .responder index beyond
  case answered =>
    rw [others, lines]
    exact lineup.answered
  case stale =>
    intro _
    rw [others, lines]
    exact outdated
  case fresh =>
    intro index connection' found' unheard _ _ _ _
    rw [others]
    rw [lines] at found'
    exact .inl (outdated index connection' found' unheard)
  case granted =>
    intro _ _ _ shakes
    simp [pending] at shakes

/-- The responder binds a line whose request is not out of date. -/
theorem binds_responder (lineup : exchange.Lineup) (lines : exchange'.lines = exchange.lines)
    (others : exchange'.session .initiator = exchange.session .initiator)
    {connection : Connection} (found : exchange.lines[line.id.number]? = some connection)
    (arrived : connection.toResponder.arrived = 1)
    (unspoken : packetsOn line.id (exchange.session .responder).actions = [])
    (starts : (exchange.lineView .initiator line.id.number connection).start? = some start)
    {answer : Packet P} (responds : response = [answer])
    (counts : ∃ count, answer.count? = some count ∧ count ≤ exchange'.received .responder)
    (grants : ∀ serverAck, answer = .rebindResponse serverAck →
      (exchange.session .initiator).delivery.acked ≤ serverAck.toNat)
    (numbered : line.index.toNat = line.id.number)
    (rises : (exchange.session .responder).lastLineIndex.toNat ≤ line.index.toNat)
    (known : start ≤ history.length)
    (binds : Session.Binds heard history line start response pending line.index
      (exchange.session .responder) (exchange'.session .responder)) : exchange'.Lineup := by
  obtain ⟨inside, _⟩ := List.getElem?_eq_some_iff.mp found
  have orderly := lineup.orderly_binds .responder lines others binds known unspoken (by
    intro connection' found'
    obtain rfl : connection' = connection := Option.some.inj (found'.symm.trans found)
    obtain ⟨count, counts, counted⟩ := counts
    exact ⟨arrived, starts, answer, count, by rw [responds]; rfl, counts, counted⟩)
  have answering := lineup.answering.binds inside binds
  obtain ⟨packets, finish, _, sent, _⟩ := sent_of_binds binds known
  obtain ⟨opened, opens, elapses⟩ := binds
  obtain ⟨_, advances, _⟩ := elapses.advances
  have index : (exchange'.session .responder).lastLineIndex = line.index := by
    rw [advances.index, opens.index]
  have elsewhere : ∀ target : LineId, line.id ≠ target →
      packetsOn target (exchange'.session .responder).actions =
        packetsOn target (exchange.session .responder).actions := by
    intro target apart
    rw [sent, if_neg apart, List.append_nil]
  constructor
  case dialing =>
    rw [others, lines]
    exact lineup.dialing
  case answering =>
    rw [lines]
    exact answering
  case indices =>
    rw [lines]
    exact lineup.indices
  case orderly => exact orderly
  case unnamed =>
    intro target number beyond
    rw [lines] at beyond
    cases target with
    | initiator =>
        rw [others]
        exact lineup.unnamed .initiator number beyond
    | responder =>
        rw [elsewhere]
        · exact lineup.unnamed .responder number beyond
        · intro same
          rw [same] at inside
          exact absurd inside (Nat.not_lt.mpr beyond)
  case answered =>
    intro number connection' found' spoken
    rw [lines] at found'
    rw [index]
    by_cases here : line.id = ⟨number⟩
    · obtain rfl : line.id.number = number := congrArg LineId.number here
      obtain rfl : connection' = connection := Option.some.inj (found'.symm.trans found)
      exact ⟨by simp [arrived], Nat.le_of_eq numbered.symm⟩
    · rw [elsewhere _ here] at spoken
      obtain ⟨heardIt, below⟩ := lineup.answered number connection' found' spoken
      exact ⟨heardIt, Nat.le_trans below rises⟩
  case stale =>
    intro bound number connection' found' unheard
    rw [others] at bound
    rw [lines] at found'
    rw [index]
    exact Nat.lt_of_lt_of_le (lineup.stale bound number connection' found' unheard) rises
  case fresh =>
    intro number connection' found' unheard _ _ _ asks
    rw [lines] at found'
    rw [index, others]
    exact (lineup.fresh number connection' found' unheard _ _ _ asks).imp_left
      (Nat.lt_of_lt_of_le · rises)
  case granted =>
    intro number connection' found' shaking unheard serverAck answers
    rw [others] at shaking ⊢
    rw [lines] at found'
    by_cases here : line.id = ⟨number⟩
    · rw [sent, if_pos here, ← here, unspoken, responds] at answers
      exact grants serverAck (Option.some.inj answers)
    · rw [elsewhere _ here] at answers
      exact lineup.granted number connection' found' shaking unheard serverAck answers

end

end Lineup

end Exchange

end ResumableSession
