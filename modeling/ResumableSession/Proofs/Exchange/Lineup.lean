import ResumableSession.Proofs.Exchange.Agreement
import ResumableSession.Proofs.Exchange.LineOrder
import ResumableSession.Proofs.Session.Holding

/-!
# All lines of an exchange

Lines are dialed one after the other, and each with a higher index, only while
the initiator has none.  A request that is still under way is therefore either
out of date already, or it says exactly what the initiator has received; and the
answer to the newest request says no less than what the initiator knows to be
acknowledged.
-/

namespace ResumableSession

variable {P : Type}

namespace Session

/-- A session goes on without binding a line or asking for one. -/
structure Proceeds (pushed pushed' : List (ReliableBody P)) (before after : Session P) :
    Prop where
  counted : before.delivery.lastSendId.toNat = pushed.length
  advances : ∃ heard reasons, Advances heard reasons pushed pushed' before after
  deaf : before.current = none → after.delivery.lastRecvId = before.delivery.lastRecvId

theorem Books.proceeds {pushed : List (ReliableBody P)} {session : Session P}
    (books : Books pushed session) : Proceeds pushed pushed session session := by
  constructor
  · exact books.keeps.counted
  · exact ⟨0, [], .refl books⟩
  · exact fun _ => rfl

theorem Moves.proceeds {input : Input P} {pushed fresh taken : List (ReliableBody P)}
    {before after : Session P} (moves : Moves input pushed fresh taken before after)
    (books : Books pushed before) : Proceeds pushed (pushed ++ fresh) before after := by
  obtain ⟨reasons, advances, _⟩ := moves.advances
  constructor
  · exact books.keeps.counted
  · exact ⟨_, reasons, advances⟩
  · intro unbound
    cases moves.turn with
    | quiet deaf _ => exact deaf.recvId
    | expired deaf _ _ => exact deaf.recvId
    | sent deaf _ _ _ => exact deaf.recvId
    | closes deaf _ _ => exact deaf.recvId
    | hears bound _ _ => simp [unbound] at bound

/-- A session that dials lines and has dialed so many: its line is the newest one, and
no attempt is due while it has one. -/
structure Dialing (count : Nat) (session : Session P) : Prop where
  index : session.lastLineIndex.toNat + 1 = count
  newest : ∀ line : Line, session.current = some line ∨ session.pending = some line →
    line.id.number + 1 = count
  alone : session.Alone
  idle : session.Idle

/-- A session that is dialed and never dials. -/
structure Answering (count : Nat) (session : Session P) : Prop where
  named : ∀ line : Line, session.current = some line → line.id.number < count
  unpaced : session.liveness.rebindLimits = none
  untouched : session.phase = .connecting → session.lastLineIndex = 0

section

variable {count heard start : Nat} {reasons : List CloseReason} {before after : Session P}
  {history : List (ReliableBody P)} {line : Line} {response : List (Packet P)}
  {pending : Option Line} {index : UInt32}

theorem Dialing.proceed (dialing : Dialing count before) (frame : Frame reasons before after) :
    Dialing count after := by
  constructor
  · rw [frame.index, dialing.index]
  · intro line known
    apply dialing.newest
    rcases known with current | shaking
    · rcases frame.current with same | none
      · exact .inl (same ▸ current)
      · simp [none] at current
    · rcases frame.pending with same | none
      · exact .inr (same ▸ shaking)
      · simp [none] at shaking
  · exact frame.alone dialing.alone
  · exact frame.idle dialing.alone dialing.idle

theorem Answering.proceed (answering : Answering count before)
    (frame : Frame reasons before after) : Answering count after := by
  constructor
  · intro line current
    apply answering.named
    rcases frame.current with same | none
    · exact same ▸ current
    · simp [none] at current
  · rw [frame.limits, answering.unpaced]
  · intro connecting
    rw [frame.index]
    apply answering.untouched
    rcases frame.phase with same | closed
    · exact same ▸ connecting
    · simp [closed] at connecting

theorem Answering.mono {count' : Nat} (answering : Answering count before)
    (more : count ≤ count') : Answering count' before := by
  constructor
  · intro line current
    exact Nat.lt_of_lt_of_le (answering.named line current) more
  · exact answering.unpaced
  · exact answering.untouched

/-- A line that is bound is the one bound last, and an attempt ends with it. -/
theorem Dialing.binds (dialing : Dialing count before) (shaking : before.pending = some line)
    (binds : Binds heard history line start response none before.lastLineIndex before after) :
    Dialing count after ∧ after.pending = none := by
  obtain ⟨opened, opens, elapses⟩ := binds
  obtain ⟨_, advances, _⟩ := elapses.advances
  have dialingOpened : Dialing count opened := by
    constructor
    · rw [opens.index, dialing.index]
    · intro target known
      rcases known with current | shakes
      · rw [opens.current] at current
        exact Option.some.inj current ▸ dialing.newest line (.inr shaking)
      · simp [opens.pending] at shakes
    · exact fun _ => opens.pending
    · exact fun _ => opens.resting
  refine ⟨dialingOpened.proceed advances.toFrame, ?_⟩
  rcases advances.pending with same | none
  · rw [same, opens.pending]
  · exact none

theorem Answering.binds (answering : Answering count before) (inside : line.id.number < count)
    (binds : Binds heard history line start response pending index before after) :
    Answering count after := by
  obtain ⟨opened, opens, elapses⟩ := binds
  obtain ⟨_, advances, _⟩ := elapses.advances
  have answeringOpened : Answering count opened := by
    constructor
    · intro target current
      rw [opens.current] at current
      exact Option.some.inj current ▸ inside
    · rw [opens.limits, answering.unpaced]
    · simp [opens.phase]
  exact answeringOpened.proceed advances.toFrame

end

end Session

/-- What an end has sent on a line before its session was bound to it. -/
def Connection.opening (connection : Connection) : Role → List (Packet P)
  | .initiator => [connection.handshake.toPacket]
  | .responder => []

namespace Exchange

/-- How a line looks from an end. -/
def lineView (exchange : Exchange P) (side : Role) (line : Nat) (connection : Connection) :
    LineView P where
  sent := connection.opening side ++ packetsOn ⟨line⟩ (exchange.session side).actions
  arrived := (connection.lane side).arrived
  bound := (exchange.session side).current.map (·.id) = some ⟨line⟩
  pushed := (exchange.session side).delivery.lastSendId.toNat
  received := exchange.received side

theorem sentTo_eq (exchange : Exchange P) (side : Role) (line : Nat) (connection : Connection) :
    exchange.sentTo side line connection =
      (exchange.lineView side.other line connection).sent := by
  cases side <;> rfl

/-- How the lines of an exchange stand to each other and to both sessions. -/
structure Lineup (exchange : Exchange P) : Prop where
  dialing : (exchange.session .initiator).Dialing exchange.lines.length
  answering : (exchange.session .responder).Answering exchange.lines.length
  indices : ∀ (line : Nat) (connection : Connection), exchange.lines[line]? = some connection →
    connection.handshake.lineIndex.toNat = line
  orderly : ∀ (line : Nat) (connection : Connection),
    exchange.lines[line]? = some connection → ∀ side,
      (exchange.lineView side line connection).Orderly
        (exchange.lineView side.other line connection)
  unnamed : ∀ side line, exchange.lines.length ≤ line →
    packetsOn ⟨line⟩ (exchange.session side).actions = []
  answered : ∀ (line : Nat) (connection : Connection), exchange.lines[line]? = some connection →
    packetsOn ⟨line⟩ (exchange.session .responder).actions ≠ [] →
      connection.toResponder.arrived ≠ 0 ∧
        line ≤ (exchange.session .responder).lastLineIndex.toNat
  stale : (exchange.session .initiator).current.isSome →
    ∀ (line : Nat) (connection : Connection), exchange.lines[line]? = some connection →
      connection.toResponder.arrived = 0 →
        line < (exchange.session .responder).lastLineIndex.toNat
  fresh : ∀ (line : Nat) (connection : Connection), exchange.lines[line]? = some connection →
    connection.toResponder.arrived = 0 → ∀ sessionId lineIndex clientAck,
      connection.handshake = .rebind sessionId lineIndex clientAck →
        line < (exchange.session .responder).lastLineIndex.toNat ∨
          clientAck = (exchange.session .initiator).delivery.lastRecvId
  granted : ∀ (line : Nat) (connection : Connection), exchange.lines[line]? = some connection →
    (exchange.session .initiator).pending.map (·.id) = some ⟨line⟩ →
      connection.toInitiator.arrived = 0 → ∀ serverAck,
        (packetsOn ⟨line⟩ (exchange.session .responder).actions).head? =
          some (.rebindResponse serverAck) →
            (exchange.session .initiator).delivery.acked ≤ serverAck.toNat

namespace Lineup

variable {exchange exchange' : Exchange P} {pushed pushed' : Role → List (ReliableBody P)}

private theorem sent_of_advances {heard : Nat} {reasons : List CloseReason}
    {pushed pushed' : List (ReliableBody P)} {before after : Session P}
    (advances : Session.Advances heard reasons pushed pushed' before after) {line : LineId}
    (elsewhere : before.current.map (·.id) ≠ some line) :
    packetsOn line after.actions = packetsOn line before.actions := by
  obtain ⟨packets, finish, _, sent, _⟩ := advances.sends
  rw [sent, if_neg elsewhere, List.append_nil]

theorem grows {side : Role} {pushed pushed' : List (ReliableBody P)}
    (proceeds : Session.Proceeds pushed pushed' (exchange.session side) (exchange'.session side))
    (line : Nat) (connection : Connection) :
    (exchange.lineView side line connection).Grows (exchange'.lineView side line connection) := by
  obtain ⟨heard, reasons, advances⟩ := proceeds.advances
  obtain ⟨packets, finish, stream, sent, reached⟩ := advances.sends
  have stays : (exchange'.lineView side line connection).bound →
      (exchange.lineView side line connection).bound := by
    intro bound
    simp only [lineView] at bound ⊢
    rcases advances.current with same | none
    · rwa [← same]
    · simp [none] at bound
  constructor
  · rfl
  · exact stays
  · exact advances.received
  · by_cases bound : (exchange.session side).current.map (·.id) = some ⟨line⟩
    · refine ⟨packets, finish, ?_, fun unbound => absurd bound unbound, ?_, ?_⟩
      · simp only [lineView, sent, if_pos bound, List.append_assoc]
      · simp only [lineView, proceeds.counted]
        exact stream.toStretch
      · intro bound'
        simp only [lineView, advances.books.keeps.counted]
        exact reached (Session.isSome_of_id bound')
    · refine ⟨[], _, ?_, fun _ => rfl, .nil _, fun bound' => absurd (stays bound') bound⟩
      simp only [lineView, sent, if_neg bound, List.append_nil]

theorem spoken {side : Role} {line : Nat} {connection : Connection} (lineup : exchange.Lineup)
    (found : exchange.lines[line]? = some connection)
    (bound : (exchange.session side).current.map (·.id) = some ⟨line⟩) :
    ∃ first rest, connection.opening side ++
      packetsOn ⟨line⟩ (exchange.session side).actions = first :: rest := by
  obtain ⟨start, reports, _⟩ := (lineup.orderly line connection found side).hears bound
  obtain ⟨first, rest, sent, _⟩ := LineView.sent_of_start? reports
  exact ⟨first, rest, sent⟩

theorem unbound (lineup : exchange.Lineup) (side : Role) {line : Nat}
    (beyond : exchange.lines.length ≤ line) :
    (exchange.session side).current.map (·.id) ≠ some ⟨line⟩ := by
  cases current : (exchange.session side).current with
  | none => simp
  | some bound =>
      have inside : bound.id.number < exchange.lines.length := by
        cases side with
        | initiator =>
            have newest := lineup.dialing.newest bound (.inl current)
            omega
        | responder => exact lineup.answering.named bound current
      intro same
      simp only [Option.map_some, Option.some.injEq] at same
      rw [same] at inside
      exact absurd inside (Nat.not_lt.mpr beyond)

theorem proceed (lineup : exchange.Lineup) (lines : exchange'.lines = exchange.lines)
    (proceeds : ∀ side, Session.Proceeds (pushed side) (pushed' side) (exchange.session side)
      (exchange'.session side)) : exchange'.Lineup := by
  obtain ⟨_, _, initiator⟩ := (proceeds .initiator).advances
  obtain ⟨_, _, responder⟩ := (proceeds .responder).advances
  constructor
  case dialing =>
    rw [lines]
    exact lineup.dialing.proceed initiator.toFrame
  case answering =>
    rw [lines]
    exact lineup.answering.proceed responder.toFrame
  case indices =>
    rw [lines]
    exact lineup.indices
  case orderly =>
    intro line connection found side
    rw [lines] at found
    exact (lineup.orderly line connection found side).grow (grows (proceeds side) line connection)
      (grows (proceeds side.other) line connection).longer
  case unnamed =>
    intro side line beyond
    rw [lines] at beyond
    obtain ⟨_, _, advances⟩ := (proceeds side).advances
    rw [sent_of_advances advances (lineup.unbound side beyond)]
    exact lineup.unnamed side line beyond
  case answered =>
    intro line connection found spoken
    rw [lines] at found
    rw [responder.index]
    apply lineup.answered line connection found
    by_cases bound : (exchange.session .responder).current.map (·.id) = some ⟨line⟩
    · obtain ⟨first, rest, sent⟩ := lineup.spoken found bound
      simp only [Connection.opening, List.nil_append] at sent
      simp [sent]
    · rwa [sent_of_advances responder bound] at spoken
  case stale =>
    intro bound line connection found unheard
    rw [lines] at found
    rw [responder.index]
    refine lineup.stale ?_ line connection found unheard
    rcases initiator.current with same | none
    · rwa [same] at bound
    · simp [none] at bound
  case fresh =>
    intro line connection found unheard sessionId lineIndex clientAck asks
    rw [lines] at found
    rw [responder.index]
    cases current : (exchange.session .initiator).current with
    | none =>
        rw [(proceeds .initiator).deaf current]
        exact lineup.fresh line connection found unheard _ _ _ asks
    | some bound => exact .inl (lineup.stale (by simp [current]) line connection found unheard)
  case granted =>
    intro line connection found shaking unheard serverAck answer
    rw [lines] at found
    have shook : (exchange.session .initiator).pending.map (·.id) = some ⟨line⟩ := by
      rcases initiator.pending with same | none
      · rwa [same] at shaking
      · simp [none] at shaking
    have unbound : (exchange.session .initiator).current = none := by
      by_contra bound
      simp [lineup.dialing.alone (Option.isSome_iff_ne_none.mpr bound)] at shook
    rw [initiator.unheard unbound]
    apply lineup.granted line connection found shook unheard
    by_cases bound : (exchange.session .responder).current.map (·.id) = some ⟨line⟩
    · obtain ⟨first, rest, sent⟩ := lineup.spoken found bound
      obtain ⟨packets, _, _, grown, _⟩ := responder.sends
      simp only [Connection.opening, List.nil_append] at sent
      rw [grown, sent] at answer
      rw [sent]
      exact answer
    · rwa [sent_of_advances responder bound] at answer

private theorem found_onLane {side : Role} {line index : Nat} {change : Lane → Lane}
    {connection : Connection}
    (found : (exchange.onLane side line change).lines[index]? = some connection) :
    ∃ before, exchange.lines[index]? = some before ∧
      connection = if line = index then before.onLane side change else before := by
  simp only [Exchange.onLane, List.getElem?_modify, Option.map_eq_map, Option.map_eq_some_iff]
    at found
  obtain ⟨before, was, rfl⟩ := found
  refine ⟨before, was, ?_⟩
  split <;> rfl

/-- Something happens to a lane that does not take back what has come through. -/
theorem onLane (lineup : exchange.Lineup) {side : Role} {line : Nat} {change : Lane → Lane}
    (later : ∀ lane : Lane, lane.arrived ≤ (change lane).arrived)
    (orderly : ∀ connection, exchange.lines[line]? = some connection →
      (exchange.lineView side line (connection.onLane side change)).Orderly
        (exchange.lineView side.other line connection)) :
    (exchange.onLane side line change).Lineup := by
  have kept : ∀ (index : Nat) (connection : Connection),
      (exchange.onLane side line change).lines[index]? = some connection →
      ∃ before, exchange.lines[index]? = some before ∧
        connection.handshake = before.handshake ∧
        before.toInitiator.arrived ≤ connection.toInitiator.arrived ∧
        before.toResponder.arrived ≤ connection.toResponder.arrived := by
    intro index connection found
    obtain ⟨before, was, rfl⟩ := found_onLane found
    refine ⟨before, was, ?_⟩
    split
    · cases side with
      | initiator => exact ⟨rfl, later _, Nat.le_refl _⟩
      | responder => exact ⟨rfl, Nat.le_refl _, later _⟩
    · exact ⟨rfl, Nat.le_refl _, Nat.le_refl _⟩
  have count : (exchange.onLane side line change).lines.length = exchange.lines.length := by
    simp [Exchange.onLane]
  constructor
  case dialing =>
    rw [count]
    exact lineup.dialing
  case answering =>
    rw [count]
    exact lineup.answering
  case indices =>
    intro index connection found
    obtain ⟨before, was, handshake, _⟩ := kept index connection found
    rw [handshake]
    exact lineup.indices index before was
  case orderly =>
    intro index connection found target
    obtain ⟨before, was, rfl⟩ := found_onLane found
    split
    · next here =>
        subst here
        have changed := orderly before was
        have others := lineup.orderly line before was side.other
        rcases side_cases side target with rfl | rfl
        · cases target <;> exact changed
        · cases side <;> exact ⟨others.inside, others.speaks, others.hears⟩
    · exact lineup.orderly index before was target
  case unnamed =>
    rw [count]
    exact lineup.unnamed
  case answered =>
    intro index connection found spoken
    obtain ⟨before, was, _, _, arrived⟩ := kept index connection found
    obtain ⟨heard, known⟩ := lineup.answered index before was spoken
    exact ⟨by omega, known⟩
  case stale =>
    intro bound index connection found unheard
    obtain ⟨before, was, _, _, arrived⟩ := kept index connection found
    exact lineup.stale bound index before was (by omega)
  case fresh =>
    intro index connection found unheard sessionId lineIndex clientAck asks
    obtain ⟨before, was, handshake, _, arrived⟩ := kept index connection found
    rw [handshake] at asks
    exact lineup.fresh index before was (by omega) _ _ _ asks
  case granted =>
    intro index connection found shaking unheard serverAck answer
    obtain ⟨before, was, _, arrived, _⟩ := kept index connection found
    exact lineup.granted index before was shaking (by omega) serverAck answer

theorem sever (lineup : exchange.Lineup) (side : Role) (line count : Nat) :
    (exchange.onLane side line (·.sever count)).Lineup := by
  apply lineup.onLane
  · exact fun _ => Nat.le_refl _
  · intro connection found
    have before := lineup.orderly line connection found side
    cases side <;> exact ⟨before.inside, before.speaks, before.hears⟩

/-- The next packet comes to an end that, if it is bound to the line, has received it. -/
theorem receive (lineup : exchange.Lineup) {side : Role} {line : Nat} {packet : Packet P}
    (comes : ∀ connection, exchange.lines[line]? = some connection →
      (exchange.sentTo side line connection)[(connection.lane side).arrived]? = some packet)
    (heard : (exchange.session side).current.map (·.id) = some ⟨line⟩ →
      ∀ id, packet.reliableId? = some id → id ≤ exchange.received side) :
    (exchange.onLane side line Lane.receive).Lineup := by
  apply lineup.onLane
  · exact fun _ => Nat.le_succ _
  · intro connection found
    have next := comes connection found
    have near := lineup.orderly line connection found side
    have far := lineup.orderly line connection found side.other
    rw [Role.other_other] at far
    rw [sentTo_eq] at next
    have received := near.receive far next heard
    cases side <;> exact ⟨received.inside, received.speaks, received.hears⟩

end Lineup

end Exchange

end ResumableSession
