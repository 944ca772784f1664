import ResumableSession.Proofs.Exchange.Runs
import ResumableSession.Proofs.Exchange.SpentIds

/-!
# Running out of ids is the end

As long as the indices of lines suffice, ids are never used twice, an end that has given out
all of them sends nothing any more, and nothing but a prefix of what the other end took from
its application is delivered.  With more lines than there are indices an old request may bind
a line as if it were new, and then the ids start over.
-/

namespace ResumableSession

variable {P : Type}

namespace Exchange

variable {exchange : Exchange P} {side : Role} {settings settings' : SessionSettings}
  {limits : RebindLimits} {token : String} {sessionId : UInt32}

private theorem explained_run {events : List (Event P)}
    (ran : (start settings limits token sessionId settings').run? events = some exchange)
    (sustained : Sustained (start settings limits token sessionId settings') events)
    (few : exchange.lines.length ≤ UInt32.size) :
    Explained (start settings limits token sessionId settings') exchange := by
  induction events using List.reverseRecOn generalizing exchange with
  | nil =>
      simp only [run?, List.foldlM_nil, Option.pure_def, Option.some.injEq] at ran
      subst ran
      refine .inl ⟨_, .start, fun side => ?_, .refl _⟩
      cases side <;> exact Nat.zero_lt_succ _
  | append_singleton events event induction =>
      obtain ⟨before, ranBefore, stepped⟩ := run_append ran
      rw [run_singleton] at stepped
      have part : events <+: events ++ [event] := List.prefix_append _ _
      have fewBefore := Nat.le_trans (lines_step_le stepped) few
      have explained := induction ranBefore (sustained.mono part) fewBefore
      exact explained.step fewBefore ((sustained.mono part).roomy ranBefore)
        (sustained.roomy ran) stepped

/-- What was sent when the ids had run out is all that is ever sent. -/
theorem silent_run {events earlier : List (Event P)} {middle : Exchange P}
    (ran : (start settings limits token sessionId settings').run? events = some exchange)
    (sustained : Sustained (start settings limits token sessionId settings') events)
    (few : exchange.lines.length ≤ UInt32.size) (part : earlier <+: events)
    (ranEarlier : (start settings limits token sessionId settings').run? earlier = some middle)
    (spent : (middle.party side).Spent) :
    (exchange.party side).Spent ∧ ∀ line,
      packetsOn line (exchange.session side).actions =
        packetsOn line (middle.session side).actions := by
  induction events using List.reverseRecOn generalizing exchange with
  | nil =>
      obtain rfl := List.prefix_nil.mp part
      obtain rfl : middle = exchange := Option.some.inj (ranEarlier.symm.trans ran)
      exact ⟨spent, fun _ => rfl⟩
  | append_singleton events event induction =>
      rcases List.prefix_concat_iff.mp part with all | inside
      · rw [all] at ranEarlier
        obtain rfl : middle = exchange := Option.some.inj (ranEarlier.symm.trans ran)
        exact ⟨spent, fun _ => rfl⟩
      · obtain ⟨before, ranBefore, stepped⟩ := run_append ran
        rw [run_singleton] at stepped
        have sustainedBefore := sustained.mono (List.prefix_append events [event])
        have fewBefore := Nat.le_trans (lines_step_le stepped) few
        obtain ⟨spentBefore, silent⟩ := induction ranBefore sustainedBefore fewBefore inside
        have drained := (explained_run ranBefore sustainedBefore fewBefore).drained fewBefore
          spentBefore
        refine ⟨Nat.le_trans spentBefore (assigned_step_le stepped side), fun line => ?_⟩
        rw [← silent line]
        exact drained.silent (sustainedBefore.roomy ranBefore) (sustained.roomy ran) stepped line

/-- What an end keeps to, however much it sends. -/
structure FailStop (start : Exchange P) (events : List (Event P)) (exchange : Exchange P)
    (side : Role) : Prop where
  /-- The last id tells how many were given out, as far as it goes. -/
  counted : (exchange.session side).delivery.lastSendId.toNat =
    (exchange.party side).assigned % UInt32.size
  /-- No line ever carries a packet with id zero. -/
  numbered : ∀ line packet,
    .reliable packet ∈ packetsOn line (exchange.session side).actions → packet.id ≠ 0
  /-- Two packets with one id have one body, whatever lines carry them. -/
  unique : ∀ line line' packet packet',
    .reliable packet ∈ packetsOn line (exchange.session side).actions →
      .reliable packet' ∈ packetsOn line' (exchange.session side).actions →
        packet.id = packet'.id → packet.body = packet'.body
  /-- What was delivered is a prefix of what the other end took from its application. -/
  delivered : deliveredIn (exchange.session side).outputs <+:
    (exchange.party side.other).accepted
  /-- Once the ids have run out, nothing is sent any more. -/
  silent : ∀ earlier middle, earlier <+: events → start.run? earlier = some middle →
    (middle.party side).Spent → ∀ line,
      packetsOn line (exchange.session side).actions =
        packetsOn line (middle.session side).actions
  /-- If a line is bound when they do, the session ends. -/
  flushes : ∀ earlier event before after, earlier ++ [event] <+: events →
    start.run? earlier = some before → before.step? event = some after →
      ¬(before.party side).Spent → (after.party side).Spent →
        (before.session side).current.isSome →
          (after.session side).phase = .closed ∧
            .closed .bookkeeping ∈ (after.session side).outputs
  /-- A session that goes on without ids has no line. -/
  unbound : (exchange.party side).Spent → (exchange.session side).phase ≠ .closed →
    (exchange.session side).current = none
  /-- It ends with the first handshake that it checks. -/
  resyncs : (exchange.party side).Spent → ∀ line clock input,
    exchange.arrival? side line clock = some input → (exchange.session side).Resyncs input →
      ((exchange.session side).step input).phase = .closed ∧
        .closed .resyncRejected ∈ ((exchange.session side).step input).outputs

/-- However much both ends send, as long as no send buffer grows full: no id is ever used
twice, an end that has given out all of them sends nothing any more and ends with the next
flush or the next handshake, and nothing is delivered out of order.

The index of a line is as narrow as an id.  With more lines than there are indices a request
from long ago could pass for a new one, and its ack for one of the ids that start over. -/
theorem run_failStop {events : List (Event P)}
    (ran : (start settings limits token sessionId settings').run? events = some exchange)
    (sustained : Sustained (start settings limits token sessionId settings') events)
    (few : exchange.lines.length ≤ UInt32.size) (side : Role) :
    FailStop (start settings limits token sessionId settings') events exchange side := by
  have explained := explained_run ran sustained few
  have roomy := sustained.roomy ran
  obtain ⟨history, received, truthful⟩ := explained.truthful side
  constructor
  case counted => exact reachable_counted (Reachable.start.run events ran) side
  case numbered =>
    intro line packet member zero
    have positive := (truthful line _ member).1
    simp [zero] at positive
  case unique =>
    intro line line' packet packet' member member' same
    have body := (truthful line _ member).2.1
    have body' := (truthful line' _ member').2.1
    rw [same, body'] at body
    exact (Option.some.inj body).symm
  case delivered => exact explained.delivered side
  case silent =>
    intro earlier middle part ranEarlier spent
    exact (silent_run ran sustained few part ranEarlier spent).2
  case flushes =>
    intro earlier event before after part ranBefore stepped unspent spent bound
    obtain ⟨later, rfl⟩ := part
    obtain ⟨next, ranNext, ranLater⟩ := run_append ran
    have ranAfter := run_concat ranBefore stepped
    obtain rfl : next = after := Option.some.inj (ranNext.symm.trans ranAfter)
    have fewBefore := Nat.le_trans (lines_step_le stepped)
      (Nat.le_trans (lines_run_le ranLater) few)
    have sustained' := sustained.mono (List.prefix_append _ later)
    exact (explained_run ranBefore (sustained'.mono (List.prefix_append _ _)) fewBefore).flushes
      (sustained'.roomy ranAfter) stepped unspent spent bound
  case unbound =>
    intro spent running
    exact (explained.drained few spent).unbound running
  case resyncs =>
    intro spent line clock input arrives resyncs
    have breaks := (explained.drained few spent).rejects roomy arrives resyncs
    exact ⟨breaks.isOver, breaks.told⟩

/-! ### An end that runs out of ids -/

/-- The session is created, and one payload is sent and acknowledged. -/
def acquaintance : List (Event Nat) :=
  [.arrive .responder 0 0, .arrive .initiator 0 0, .send .initiator 0, .arrive .responder 0 0,
    .tick .responder (.ofSeconds 0) 0, .arrive .initiator 0 0]

/-- After that the initiator sends on and on. -/
def flood (count : Nat) : List (Event Nat) :=
  acquaintance ++ List.replicate count (.send .initiator 0)

private theorem flood_succ (count : Nat) :
    flood (count + 1) = flood count ++ [.send .initiator 0] := by
  rw [flood, flood, List.replicate_succ', List.append_assoc]

/-- Where the exchange has come when so many more payloads were sent. -/
structure Flooded (count : Nat) (exchange : Exchange Nat) : Prop where
  leads : Leads (start {} {} "" 7 {}) (flood count) exchange
  given : (exchange.party .initiator).assigned = count + 1
  unanswered : (exchange.party .responder).assigned = 0
  running : (exchange.session .initiator).phase ≠ .closed
  bound : (exchange.session .initiator).current.isSome
  unsent : (exchange.session .initiator).closing.finSent = false
  buffered : (exchange.session .initiator).delivery.buffer.length = count
  idle : (exchange.session .responder).delivery.buffer = []
  line : exchange.lines.length = 1

private theorem flooded_zero : ∃ exchange, Flooded 0 exchange := by
  have ran : ((start {} {} "" 7 {}).run? acquaintance).isSome := by decide +kernel
  obtain ⟨exchange, done⟩ := Option.isSome_iff_exists.mp ran
  have all : ((start {} {} "" 7 {}).run? acquaintance).all fun exchange =>
      (exchange.party .initiator).assigned == 1 && (exchange.party .responder).assigned == 0 &&
        (exchange.session .initiator).phase != .closed &&
        (exchange.session .initiator).current.isSome &&
        !(exchange.session .initiator).closing.finSent &&
        (exchange.session .initiator).delivery.buffer.length == 0 &&
        (exchange.session .responder).delivery.buffer == [] && exchange.lines.length == 1 := by
    decide +kernel
  have roomy : ∀ earlier ∈ acquaintance.inits, ((start {} {} "" 7 {}).run? earlier).all
      fun middle => (middle.session .initiator).delivery.buffer.length < UInt32.size &&
        (middle.session .responder).delivery.buffer.length < UInt32.size := by
    decide +kernel
  simp only [done, Option.all_some, Bool.and_eq_true, beq_iff_eq, bne_iff_ne,
    Bool.not_eq_true'] at all
  obtain ⟨⟨⟨⟨⟨⟨⟨given, unanswered⟩, running⟩, bound⟩, unsent⟩, buffered⟩, idle⟩, line⟩ := all
  refine ⟨exchange, .of_run _ done ?_, given, unanswered, running, bound, unsent, buffered, idle,
    line⟩
  intro earlier middle part ranEarlier
  have both := roomy earlier ((List.mem_inits _ _).mpr part)
  simp only [ranEarlier, Option.all_some, Bool.and_eq_true, decide_eq_true_eq] at both
  intro side
  cases side with
  | initiator => exact both.1
  | responder => exact both.2

namespace Flooded

variable {count : Nat} {exchange : Exchange Nat}

theorem books (flooded : Flooded count exchange) (few : count + 1 < UInt32.size) :
    ∃ pushed, Session.Books pushed (exchange.session .initiator) ∧ pushed.length = count + 1 := by
  have fits : exchange.IdsFit := by
    intro side
    cases side with
    | initiator =>
        rw [flooded.given]
        exact few
    | responder =>
        rw [flooded.unanswered]
        exact Nat.zero_lt_succ _
  obtain ⟨pushed, agreement⟩ :=
    reachable_agreement (Reachable.start.run (flood count) flooded.leads.ran) fits
  exact ⟨_, agreement.books .initiator, (agreement.counted .initiator).trans flooded.given⟩

private theorem step_send (flooded : Flooded count exchange) :
    (exchange.session .initiator).step (.send 0) =
      ((exchange.session .initiator).pushReliable (.data 0)).1 := by
  simp [Session.step, Session.send, flooded.running, flooded.unsent, Except.toOption]

theorem assignedBy (flooded : Flooded count exchange) :
    (exchange.session .initiator).assignedBy (.send 0) = 1 := by
  rw [Session.assignedBy, flooded.step_send, Session.lastSendId_pushReliable, UInt32.add_comm,
    UInt32.add_sub_cancel]
  rfl

theorem succ (flooded : Flooded count exchange) (room : count + 2 < UInt32.size) :
    ∃ next, Flooded (count + 1) next := by
  obtain ⟨pushed, books, length⟩ := flooded.books (by omega)
  have inOrder := (books.keeps.push (by omega) (.data 0)).inOrder
  have unfolded : ((exchange.session .initiator).pushReliable (.data 0)).1 =
      Session.flush { exchange.session .initiator with
        delivery := ((exchange.session .initiator).delivery.push (.data 0)).1 } := rfl
  have handed := flooded.step_send
  rw [unfolded, Session.flush_eq _ inOrder] at handed
  simp only [flooded.bound, if_true] at handed
  have dials : dialedIn ((exchange.session .initiator).step (.send 0)).outputs =
      dialedIn (exchange.session .initiator).outputs := by
    rw [handed]
  have fed := feed_eq_give_of_dials exchange dials
  have stepped : exchange.step? (.send .initiator 0) =
      some (exchange.give .initiator (.send 0)) :=
    congrArg some fed
  have buffered : ((exchange.session .initiator).step (.send 0)).delivery.buffer.length =
      count + 1 := by
    rw [handed, inOrder.length_handed]
    simp [Delivery.push, flooded.buffered]
  have others : (exchange.give .initiator (.send 0)).party .responder =
      exchange.party .responder :=
    party_give_other exchange .initiator _
  have roomy : (exchange.give .initiator (.send 0)).Roomy := by
    intro side
    cases side with
    | initiator =>
        rw [session_give, buffered]
        omega
    | responder =>
        rw [session, others, ← session, flooded.idle]
        exact Nat.zero_lt_succ _
  have leads := flooded.leads.trans (.single flooded.leads.roomy stepped roomy)
  rw [← flood_succ] at leads
  refine ⟨_, leads, ?_, ?_, ?_, ?_, ?_, ?_, ?_, flooded.line⟩
  · rw [party_give, Party.take, ← session, flooded.assignedBy, flooded.given]
  · rw [others, flooded.unanswered]
  · rw [session_give, handed]
    exact flooded.running
  · rw [session_give, handed]
    exact flooded.bound
  · rw [session_give, handed]
    exact flooded.unsent
  · rw [session_give, buffered]
  · rw [session, others, ← session, flooded.idle]

theorem last (flooded : Flooded count exchange) (full : count + 2 = UInt32.size) :
    ∃ next, Leads (start {} {} "" 7 {}) (flood (count + 1)) next ∧
      next.lines.length ≤ UInt32.size ∧ exchange.step? (.send .initiator 0) = some next ∧
      (next.party .initiator).Spent := by
  obtain ⟨pushed, books, length⟩ := flooded.books (by omega)
  have handed := books.inStep flooded.bound
  have final : (exchange.session .initiator).delivery.lastSendId.toNat + 1 = UInt32.size := by
    rw [books.keeps.counted, length]
    exact full
  have ended := flooded.step_send.trans
    (Session.pushReliable_last flooded.bound handed final (.data 0))
  have dials : dialedIn ((exchange.session .initiator).step (.send 0)).outputs =
      dialedIn (exchange.session .initiator).outputs := by
    simp [ended, Session.terminate_eq, dialedIn]
  have fed := feed_eq_give_of_dials exchange dials
  have stepped : exchange.step? (.send .initiator 0) =
      some (exchange.give .initiator (.send 0)) :=
    congrArg some fed
  have others : (exchange.give .initiator (.send 0)).party .responder =
      exchange.party .responder :=
    party_give_other exchange .initiator _
  have roomy : (exchange.give .initiator (.send 0)).Roomy := by
    intro side
    cases side with
    | initiator =>
        rw [session_give, ended, Session.terminate_eq]
        simp only [Delivery.push, List.length_append, List.length_singleton, flooded.buffered]
        omega
    | responder =>
        rw [session, others, ← session, flooded.idle]
        exact Nat.zero_lt_succ _
  rw [flood_succ]
  refine ⟨_, flooded.leads.trans (.single flooded.leads.roomy stepped roomy), ?_, stepped, ?_⟩
  · change exchange.lines.length ≤ UInt32.size
    rw [flooded.line]
    exact Nat.succ_le_of_lt (Nat.zero_lt_succ _)
  · rw [party_give, Party.Spent, Party.take, ← session, flooded.assignedBy, flooded.given]
    exact Nat.le_of_eq full.symm

private theorem exists_of_room :
    ∀ count, count + 1 < UInt32.size → ∃ exchange, Flooded count exchange := by
  intro count
  induction count with
  | zero => exact fun _ => flooded_zero
  | succ count induction =>
      intro room
      obtain ⟨exchange, flooded⟩ := induction (by omega)
      exact flooded.succ room

end Flooded

/-- The session of the initiator ends over its ids, and its history stays sound. -/
theorem flooded_failStop :
    ∃ exchange, (start {} {} "" 7 {}).run? (flood (UInt32.size - 2 + 1)) = some exchange ∧
      (exchange.party .initiator).Spent ∧
      .closed .bookkeeping ∈ (exchange.session .initiator).outputs ∧
      FailStop (start {} {} "" 7 {}) (flood (UInt32.size - 2 + 1)) exchange .initiator := by
  have full : UInt32.size - 2 + 2 = UInt32.size := by decide
  obtain ⟨before, flooded⟩ := Flooded.exists_of_room (UInt32.size - 2) (by decide)
  obtain ⟨exchange, leads, few, stepped, spent⟩ := flooded.last full
  have failStop := run_failStop leads.ran leads.sustained few .initiator
  have unspent : ¬(before.party .initiator).Spent := by
    rw [Party.Spent, flooded.given]
    decide
  have part : flood (UInt32.size - 2) ++ [.send .initiator 0] <+: flood (UInt32.size - 2 + 1) := by
    rw [flood_succ]
  have ends := failStop.flushes _ _ before exchange part flooded.leads.ran stepped unspent spent
    flooded.bound
  exact ⟨exchange, leads.ran, spent, ends.2, failStop⟩

/-! ### A request from long ago -/

/-- Two ends that wait for a new line as long as it takes, and never probe one. -/
def patient : SessionSettings := { offlineTimeout := .zero, aliveCheckInterval := .zero }

private theorem patient_offlineTimeout : patient.offlineTimeout.isZero = true := rfl

private theorem patient_aliveCheckInterval : patient.aliveCheckInterval.isZero = true := rfl

/-- An initiator that has dialed `count` lines in vain. -/
def seeking (count : Nat) (outputs : List (Output Nat)) (actions : List (LineAction Nat)) :
    Session Nat where
  role := .initiator
  phase := .connected
  sessionId := 7
  pending := some ⟨⟨count⟩, .ofNat count⟩
  lastLineIndex := .ofNat count
  liveness := { settings := patient, rebindLimits := some {}, rebind := .started }
  outputs
  actions

/-- An initiator that has received everything up to one id, and told so of another. -/
def listening (line : Line) (received told : UInt32) (outputs : List (Output Nat))
    (actions : List (LineAction Nat)) : Session Nat where
  role := .initiator
  phase := .connected
  sessionId := 7
  current := some line
  lastLineIndex := line.index
  delivery := { lastRecvId := received, lastAckSent := told }
  liveness := { settings := patient, rebindLimits := some {} }
  outputs
  actions

/-- A responder that has handed its line everything up to an id. -/
def speaking (line : Line) (sent : UInt32) (buffer : List (ReliablePacket Nat))
    (actions : List (LineAction Nat)) : Session Nat where
  role := .responder
  phase := .connected
  sessionId := 7
  current := some line
  lastLineIndex := line.index
  delivery := { lastSendId := sent, lastSendIdOfLine := sent, buffer }
  liveness := { settings := patient }
  outputs := [.connected 7]
  actions

/-- A responder that has lost its line. -/
def stranded (delivery : Delivery Nat) (actions : List (LineAction Nat)) : Session Nat where
  role := .responder
  phase := .connected
  sessionId := 7
  delivery
  liveness := { settings := patient }
  outputs := [.connected 7]
  actions

section

variable {count : Nat} {line later : Line} {name : LineId} {sent : UInt32}
  {outputs : List (Output Nat)} {actions : List (LineAction Nat)}

private theorem step_seeking :
    (seeking count outputs actions).step (.update (.ofSeconds 2) 0) =
      { seeking count (outputs ++ [.openRebindLine 7 (.ofNat count + 1) 0])
          (actions ++ [.close ⟨count⟩ false]) with
        pending := none
        lastLineIndex := .ofNat count + 1 } := rfl

private theorem step_dialed :
    Session.step
        { seeking count outputs actions with
          pending := none
          lastLineIndex := .ofNat count + 1 }
        (.bindPending ⟨⟨count + 1⟩, .ofNat count + 1⟩) =
      seeking (count + 1) outputs actions := by
  rw [seeking, seeking, UInt32.ofNat_add]
  rfl

private theorem step_attached (creating : line.index = 0) :
    (speaking line 0 [] actions).step (.attachRebind later 0) =
      speaking later 0 []
        (actions ++ [.send later.id (.rebindResponse 0), .close line.id false]) := by
  simp [Session.step, Session.attachRebind, speaking, creating, Delivery.checkResync,
    Delivery.resyncLow, Delivery.oldestId, Session.bindCurrent, Session.discard, Session.act,
    Session.resync, Session.removeAcked, Delivery.removeAcked, Delivery.rewindLine, Session.flush,
    Delivery.flush, Delivery.unsent, Liveness.lineBound, patient_aliveCheckInterval,
    Keepalive.clear]

private theorem step_rebound :
    (seeking count outputs actions).step (.lineRebound ⟨count⟩ 0) =
      listening ⟨⟨count⟩, .ofNat count⟩ 0 0 outputs actions := by
  simp [Session.step, Session.onLineRebound, seeking, listening, Session.bindCurrent,
    Session.discard, Session.resync, Session.removeAcked, Session.flush]
  rfl

private theorem flush_newest (next : (sent + 1).toNat = sent.toNat + 1) (payload : Nat) :
    ({ lastSendId := sent + 1
       lastSendIdOfLine := sent
       buffer := [⟨sent + 1, 0, .data payload⟩] } : Delivery Nat).flush =
      .ok ({ lastSendId := sent + 1
             lastSendIdOfLine := sent + 1
             buffer := [⟨sent + 1, 0, .data payload⟩] }, [⟨sent + 1, 0, .data payload⟩]) := by
  have unsent : ({ lastSendId := sent + 1
                   lastSendIdOfLine := sent
                   buffer := [⟨sent + 1, 0, .data payload⟩] } : Delivery Nat).unsent = 1 := by
    simp only [Delivery.unsent]
    omega
  simp [Delivery.flush, unsent]

private theorem step_spoken (next : (sent + 1).toNat = sent.toNat + 1) (payload : Nat) :
    (speaking line sent [] actions).step (.send payload) =
      speaking line (sent + 1) [⟨sent + 1, 0, .data payload⟩]
        (actions ++ [.send line.id (.reliable ⟨sent + 1, 0, .data payload⟩)]) := by
  simp [Session.step, Session.send, Session.pushReliable, Session.flush, Delivery.push,
    flush_newest next payload, speaking, Except.toOption, CloseMachine.finSent,
    Session.sendOnCurrent, Session.act]

private theorem step_heard (next : (sent + 1).toNat = sent.toNat + 1) :
    (listening line sent sent outputs actions).step
        (.packet line.id (.reliable ⟨sent + 1, 0, .data 0⟩) 0) =
      listening line (sent + 1) sent (outputs ++ [.delivered 0]) actions := by
  have later : ¬sent + 1 ≤ sent := by
    rw [UInt32.le_iff_toNat_le]
    omega
  simp [Session.step, Session.onPacket, Session.onReliable, listening, Delivery.accept, later,
    Session.removeAcked, Delivery.removeAcked, Session.emit]

private theorem step_told (next : (sent + 1).toNat = sent.toNat + 1) :
    (listening line (sent + 1) sent outputs actions).step (.update .zero 0) =
      listening line (sent + 1) (sent + 1) outputs
        (actions ++ [.send line.id (.ack (sent + 1))]) := by
  have news : sent ≠ sent + 1 := by
    intro same
    rw [← same] at next
    omega
  have quiet : (listening line (sent + 1) sent outputs actions).liveness.tick .zero =
      ((listening line (sent + 1) sent outputs actions).liveness, []) := rfl
  simp [Session.step, Session.update, quiet, Session.sendAck, Delivery.ackPending,
    Delivery.markAckSent, Session.sendOnCurrent, Session.act]
  simp [listening, news]

private theorem step_acked :
    (speaking line sent [⟨sent, 0, .data 0⟩] actions).step (.packet line.id (.ack sent) 0) =
      speaking line sent [] actions := by
  simp [Session.step, Session.onPacket, Session.removeAcked, Delivery.removeAcked, speaking,
    Session.applyClose, CloseMachine.onAcked]

private theorem step_lost :
    (speaking ⟨name, 0⟩ sent [] actions).step (.lineClosed name) =
      stranded { lastSendId := sent, lastSendIdOfLine := sent } actions := by
  simp [Session.step, Session.onLineClosed, speaking, stranded, Session.lineLost,
    Liveness.lineLost, patient_offlineTimeout, Keepalive.clear]

private theorem step_wrapped :
    (stranded { lastSendId := 0xFFFFFFFF, lastSendIdOfLine := 0xFFFFFFFF } actions).step
        (.send 0) =
      stranded { lastSendIdOfLine := 0xFFFFFFFF, buffer := [⟨0, 0, .data 0⟩] } actions := by
  simp [Session.step, Session.send, Session.pushReliable, Session.flush, Delivery.push, stranded,
    Except.toOption, CloseMachine.finSent]

/-- The ack of the old request is checked against the one packet that is left, and takes it. -/
private theorem step_stale :
    (stranded { lastSendIdOfLine := 0xFFFFFFFF, buffer := [⟨0, 0, .data 0⟩] } actions).step
        (.attachRebind ⟨⟨1⟩, 1⟩ 0) =
      speaking ⟨⟨1⟩, 1⟩ 0 [] (actions ++ [.send ⟨1⟩ (.rebindResponse 0)]) := by
  simp [Session.step, Session.attachRebind, stranded, speaking, Delivery.checkResync,
    Delivery.resyncLow, Delivery.oldestId, Session.bindCurrent, Session.discard, Session.act,
    Session.resync, Session.removeAcked, Delivery.removeAcked, Session.applyClose,
    CloseMachine.onAcked, Delivery.rewindLine, Session.flush, Delivery.flush, Delivery.unsent,
    Liveness.lineBound, patient_aliveCheckInterval, Keepalive.clear]

end

/-- The session is created, the initiator loses its line, and dials `count` others. -/
def redialed (count : Nat) : List (Event Nat) :=
  [.arrive .responder 0 0, .arrive .initiator 0 0, .lost .initiator 0] ++
    List.replicate count (.tick .initiator (.ofSeconds 2) 0)

/-- An exchange in which `count` lines were dialed and no request has come through. -/
structure Seeking (count : Nat) (outputs : List (Output Nat)) (actions : List (LineAction Nat))
    (lines : List Connection) (exchange : Exchange Nat) : Prop where
  shows : Shows (seeking count outputs actions)
    (speaking ⟨⟨0⟩, 0⟩ 0 [] [.send ⟨0⟩ (.createResponse 7)]) lines exchange
  silent : ∀ line, packetsOn line actions = []
  length : lines.length = count + 1
  first : lines[1]? = some { handshake := .rebind 7 1 0 }
  last : lines[count]? = some { handshake := .rebind 7 (.ofNat count) 0 }

/-- An exchange in which `count` payloads were sent on a line, and all were acknowledged. -/
structure Relaying (line : Nat) (index : UInt32) (count : Nat) (outputs : List (Output Nat))
    (heard said : List (LineAction Nat)) (lines : List Connection) (exchange : Exchange Nat) :
    Prop where
  shows : Shows (listening ⟨⟨line⟩, index⟩ (.ofNat count) (.ofNat count) outputs heard)
    (speaking ⟨⟨line⟩, index⟩ (.ofNat count) [] said) lines exchange
  packets : packetsOn ⟨line⟩ said = .rebindResponse 0 ::
    (List.range count).map fun sent => .reliable ⟨.ofNat (sent + 1), 0, .data 0⟩
  acks : packetsOn ⟨line⟩ heard = (List.range count).map fun sent => .ack (.ofNat (sent + 1))
  stale : lines[1]? = some { handshake := .rebind 7 1 0 }
  line : lines[line]? = some
    { handshake := .rebind 7 index 0
      toInitiator := { arrived := count + 1 }
      toResponder := { arrived := count + 1 } }

section

variable {count : Nat} {outputs : List (Output Nat)} {actions : List (LineAction Nat)}
  {lines : List Connection} {exchange : Exchange Nat}

private theorem seeking_one : ∃ outputs actions lines exchange,
    Leads (start patient {} "" 7 patient) (redialed 1) exchange ∧
      Seeking 1 outputs actions lines exchange := by
  have opening : Shows (.initiator patient {} ChannelDriver.creatingLine) (.responder 7 patient)
      [{ handshake := .create "" }] (start patient {} "" 7 patient : Exchange Nat) :=
    ⟨rfl, rfl, rfl, Nat.zero_le _, Nat.zero_le _⟩
  obtain ⟨_, accepts, accepted⟩ :=
    opening.arrive_responder 0 rfl rfl rfl rfl rfl (Nat.zero_le _)
  obtain ⟨_, creates, created⟩ :=
    accepted.arrive_initiator 0 rfl rfl rfl rfl rfl (Nat.zero_le _) rfl
  have lost := created.feed_initiator (.lineClosed ⟨0⟩) rfl (Nat.zero_le _) rfl
  have dialed := lost.feed_dials (.update (.ofSeconds 2) 0) rfl rfl (Nat.zero_le _)
  refine ⟨_, _, _, _, accepts.trans (creates.trans (.step created.roomy rfl
    (.single lost.roomy rfl dialed.roomy))), dialed, fun _ => rfl, rfl, rfl, rfl⟩

private theorem Seeking.tick (seeking : Seeking count outputs actions lines exchange)
    (positive : 0 < count) :
    ∃ outputs actions lines next,
      Leads exchange [.tick .initiator (.ofSeconds 2) 0] next ∧
        Seeking (count + 1) outputs actions lines next := by
  have index : UInt32.ofNat (count + 1) = .ofNat count + 1 := UInt32.ofNat_add count 1
  have dialed := seeking.shows.feed_dials (.update (.ofSeconds 2) 0)
    (congrArg Session.outputs step_seeking)
    (by rw [step_seeking, seeking.length, step_dialed]) (Nat.zero_le _)
  refine ⟨_, _, _, _, .single seeking.shows.roomy rfl dialed.roomy, dialed, ?_, ?_, ?_, ?_⟩
  · intro line
    rw [packetsOn_append, seeking.silent]
    rfl
  · rw [List.length_append, seeking.length, List.length_singleton]
  · rw [List.getElem?_append_left (by rw [seeking.length]; omega)]
    exact seeking.first
  · rw [List.getElem?_append_right (by rw [seeking.length]), seeking.length, Nat.sub_self, index]
    rfl

/-- Lines can be dialed without end. -/
private theorem exists_seeking (count : Nat) : ∃ outputs actions lines exchange,
    Leads (start patient {} "" 7 patient) (redialed (count + 1)) exchange ∧
      Seeking (count + 1) outputs actions lines exchange := by
  induction count with
  | zero => exact seeking_one
  | succ count induction =>
      obtain ⟨_, _, _, _, leads, seeking⟩ := induction
      obtain ⟨_, _, _, next, ticks, seeking⟩ := seeking.tick (Nat.succ_pos count)
      have longer : redialed (count + 1 + 1) =
          redialed (count + 1) ++ [.tick .initiator (.ofSeconds 2) 0] := by
        rw [redialed, redialed, List.replicate_succ', List.append_assoc]
      rw [longer]
      exact ⟨_, _, _, next, leads.trans ticks, seeking⟩

private theorem Seeking.bind (seeking : Seeking count outputs actions lines exchange)
    (further : 1 < count) :
    ∃ said lines next,
      Leads exchange [.arrive .responder count 0, .arrive .initiator count 0] next ∧
        Relaying count (.ofNat count) 0 outputs actions said lines next := by
  have creating : (⟨0⟩ : LineId) ≠ ⟨count⟩ := by
    rintro ⟨⟩
    omega
  have other : count ≠ 1 := by omega
  obtain ⟨_, attaches, attached⟩ := seeking.shows.arrive_responder count seeking.last rfl rfl rfl
    (step_attached rfl) (Nat.zero_le _)
  have known : (lines.modify count (·.onLane .responder Lane.receive))[count]? =
      some { handshake := .rebind 7 (.ofNat count) 0, toResponder := { arrived := 1 } } := by
    rw [List.getElem?_modify_eq, seeking.last]
    rfl
  have packets : packetsOn ⟨count⟩ ([.send ⟨0⟩ (.createResponse 7)] ++
      [.send ⟨count⟩ (.rebindResponse 0), .close ⟨0⟩ false]) =
        [Packet.rebindResponse (P := Nat) 0] := by
    simp [packetsOn, creating]
  obtain ⟨_, binds, bound⟩ := attached.arrive_initiator count known rfl (congrArg (·[0]?) packets) rfl
    step_rebound (Nat.zero_le _) rfl
  refine ⟨_, _, _, attaches.trans binds, bound, packets, seeking.silent _, ?_, ?_⟩
  · rw [List.getElem?_modify_ne _ _ other, List.getElem?_modify_ne _ _ other]
    exact seeking.first
  · rw [List.getElem?_modify_eq, known]
    rfl

end

/-- A payload is sent on a line, received, and acknowledged with the next tick. -/
def relayed (line : Nat) : List (Event Nat) :=
  [.send .responder 0, .arrive .initiator line 0, .tick .initiator .zero 0,
    .arrive .responder line 0]

namespace Relaying

variable {line count : Nat} {index : UInt32} {outputs : List (Output Nat)}
  {heard said : List (LineAction Nat)} {lines : List Connection} {exchange : Exchange Nat}

private theorem relay (relaying : Relaying line index count outputs heard said lines exchange)
    (other : line ≠ 1) (room : count + 1 < UInt32.size) :
    ∃ outputs heard said lines next, Leads exchange (relayed line) next ∧
      Relaying line index (count + 1) outputs heard said lines next := by
  have counted : (UInt32.ofNat count + 1).toNat = (UInt32.ofNat count).toNat + 1 := by
    rw [UInt32.toNat_add, UInt32.toNat_ofNat_of_lt' (by omega)]
    exact Nat.mod_eq_of_lt room
  have spoken := relaying.shows.feed_responder (.send 0) (step_spoken counted 0) (Nat.le_refl _)
  have packets : packetsOn ⟨line⟩
      (said ++ [.send ⟨line⟩ (.reliable ⟨.ofNat count + 1, 0, .data 0⟩)]) =
        .rebindResponse 0 :: (List.range (count + 1)).map fun sent =>
          Packet.reliable ⟨.ofNat (sent + 1), 0, .data 0⟩ := by
    rw [packetsOn_append, relaying.packets, List.range_succ, List.map_append, packetsOn_send]
    simp
  obtain ⟨_, hears, received⟩ := spoken.arrive_initiator line relaying.line rfl
    (by simp [speaking, packets]) rfl (step_heard counted) (Nat.zero_le _)
    (by simp [listening, dialedIn])
  have told := received.feed_initiator (.update .zero 0) (step_told counted) (Nat.zero_le _) rfl
  have acks : packetsOn ⟨line⟩ (heard ++ [.send ⟨line⟩ (.ack (.ofNat count + 1))]) =
      (List.range (count + 1)).map fun sent => Packet.ack (P := Nat) (.ofNat (sent + 1)) := by
    rw [packetsOn_append, relaying.acks, List.range_succ, List.map_append, packetsOn_send]
    simp
  have known : (lines.modify line (·.onLane .initiator Lane.receive))[line]? =
      some { handshake := .rebind 7 index 0
             toInitiator := { arrived := count + 1 + 1 }
             toResponder := { arrived := count + 1 } } := by
    rw [List.getElem?_modify_eq, relaying.line]
    rfl
  obtain ⟨_, ends, acked⟩ := told.arrive_responder line known rfl (by simp [listening, acks]) rfl
    step_acked (Nat.zero_le _)
  rw [← UInt32.ofNat_one, ← UInt32.ofNat_add] at packets acks acked
  have ticks : Leads _ [.tick .initiator .zero 0] _ := .single received.roomy rfl told.roomy
  refine ⟨_, _, _, _, _, .step relaying.shows.roomy rfl (hears.trans (ticks.trans ends)), acked,
    packets, acks, ?_, ?_⟩
  · rw [List.getElem?_modify_ne _ _ other, List.getElem?_modify_ne _ _ other]
    exact relaying.stale
  · rw [List.getElem?_modify_eq, known]
    rfl

/-- Until the ids have run out, any number of payloads comes through. -/
private theorem relays (relaying : Relaying line index 0 outputs heard said lines exchange)
    (other : line ≠ 1) : ∀ count, count < UInt32.size →
      ∃ outputs heard said lines next,
        Leads exchange (List.replicate count (relayed line)).flatten next ∧
          Relaying line index count outputs heard said lines next := by
  intro count
  induction count with
  | zero => exact fun _ => ⟨_, _, _, _, _, .stay relaying.shows.roomy, relaying⟩
  | succ count induction =>
      intro room
      obtain ⟨_, _, _, _, _, leads, relaying⟩ := induction (by omega)
      obtain ⟨_, _, _, _, next, onward, relaying⟩ := relaying.relay other room
      rw [List.replicate_succ', List.flatten_concat]
      exact ⟨_, _, _, _, next, leads.trans onward, relaying⟩

/-- All ids are given out, the line is lost, one more payload waits without a line, and the
request of the first line comes through. -/
private theorem restart
    (relaying : Relaying line 0 (UInt32.size - 1) outputs heard said lines exchange) :
    ∃ next, Leads exchange
        [.lost .responder line, .send .responder 0, .arrive .responder 1 0, .send .responder 1]
        next ∧
      (next.session .responder).phase = .connected ∧
        .reliable ⟨1, 0, .data 0⟩ ∈ packetsOn ⟨line⟩ (next.session .responder).actions ∧
          .reliable ⟨1, 0, .data 1⟩ ∈ packetsOn ⟨1⟩ (next.session .responder).actions := by
  have lost := relaying.shows.feed_responder (.lineClosed ⟨line⟩) step_lost (Nat.zero_le _)
  have wrapped := lost.feed_responder (.send 0) step_wrapped (Nat.le_refl _)
  obtain ⟨_, arrives, bound⟩ := wrapped.arrive_responder 1 relaying.stale rfl rfl rfl step_stale
    (Nat.zero_le _)
  have spoken := bound.feed_responder (.send 1) (step_spoken rfl 1) (Nat.le_refl _)
  have first : .reliable ⟨1, 0, .data 0⟩ ∈ packetsOn ⟨line⟩ said := by
    rw [relaying.packets]
    exact List.mem_cons_of_mem _ (List.mem_map.mpr ⟨0, List.mem_range.mpr (by decide), rfl⟩)
  refine ⟨_, .step relaying.shows.roomy rfl (.step lost.roomy rfl (arrives.trans
    (.single bound.roomy rfl spoken.roomy))), ?_, ?_, ?_⟩
  · rw [spoken.responder]
    rfl
  · rw [spoken.responder, speaking, packetsOn_append, packetsOn_append]
    exact List.mem_append_left _ (List.mem_append_left _ first)
  · rw [spoken.responder, speaking, packetsOn_append]
    exact List.mem_append_right _ (List.mem_singleton_self _)

end Relaying

/-- The indices of lines start over while an old request is still on its way; then the ids
do. -/
def wraparound : List (Event Nat) :=
  redialed UInt32.size ++
    ([.arrive .responder UInt32.size 0, .arrive .initiator UInt32.size 0] ++
      ((List.replicate (UInt32.size - 1) (relayed UInt32.size)).flatten ++
        [.lost .responder UInt32.size, .send .responder 0, .arrive .responder 1 0,
          .send .responder 1]))

/-- With more lines than there are indices an id is used twice, for two bodies, and the session
goes on. -/
theorem wraparound_renumbers : ∃ exchange,
    (start patient {} "" 7 patient).run? wraparound = some exchange ∧
      Sustained (start patient {} "" 7 patient) wraparound ∧
      (exchange.session .responder).phase = .connected ∧
      ∃ line line' packet packet',
        .reliable packet ∈ packetsOn line (exchange.session .responder).actions ∧
          .reliable packet' ∈ packetsOn line' (exchange.session .responder).actions ∧
            packet.id = packet'.id ∧ packet.body ≠ packet'.body := by
  obtain ⟨_, _, _, _, dials, seeking⟩ := exists_seeking (UInt32.size - 1)
  obtain ⟨_, _, _, binds, relaying⟩ := seeking.bind (by decide)
  obtain ⟨_, _, _, _, _, relays, relaying⟩ := relaying.relays (by decide) (UInt32.size - 1) (by decide)
  obtain ⟨exchange, restarts, running, first, second⟩ := relaying.restart
  have leads := dials.trans (binds.trans (relays.trans restarts))
  exact ⟨exchange, leads.ran, leads.sustained, running, _, _, _, _, first, second, rfl, by decide⟩

end Exchange

end ResumableSession
