import ResumableSession.Proofs.Session.Accounts
import ResumableSession.Proofs.Session.LineHandling

/-!
# Running out of ids

Ids wrap after the last one.  While a line is bound that shows at once: the line was
handed a higher id than the one that was given out last, and the session ends.  Without a
line it shows when the peer comes back: whatever the peer may have received by then is
more than the session believes to have given out.
-/

namespace ResumableSession

variable {P : Type}

namespace Delivery

variable {delivery : Delivery P}

/-- The ids wrapped after `acked` was acknowledged. -/
def Overrun (acked : Nat) (delivery : Delivery P) : Prop :=
  delivery.lastSendId.toNat + UInt32.size = acked + delivery.buffer.length

private theorem lastSendId_push_last (last : delivery.lastSendId.toNat + 1 = UInt32.size)
    (body : ReliableBody P) : (delivery.push body).1.lastSendId = 0 := by
  apply UInt32.toNat_inj.mp
  simp only [push, UInt32.toNat_add]
  rw [show (1 : UInt32).toNat = 1 from rfl, last]
  rfl

private theorem InOrder.overrun_push (inOrder : delivery.InOrder)
    (last : delivery.lastSendId.toNat + 1 = UInt32.size) (body : ReliableBody P) :
    (delivery.push body).1.Overrun delivery.acked := by
  have total := inOrder.acked_add_length
  rw [Overrun, lastSendId_push_last last body]
  simp only [Delivery.push, List.length_append, List.length_singleton]
  change 0 + UInt32.size = _
  omega

/-- While the buffer holds fewer packets than there are ids, the ids do not come round again. -/
theorem Overrun.push {acked : Nat} (overrun : delivery.Overrun acked)
    (possible : acked < UInt32.size) (body : ReliableBody P)
    (few : (delivery.push body).1.buffer.length < UInt32.size) :
    (delivery.push body).1.Overrun acked := by
  rw [Overrun] at overrun ⊢
  simp only [Delivery.push, List.length_append, List.length_singleton] at few ⊢
  rw [toNat_succ (by omega)]
  omega

/-- Whoever has received all that was acknowledged reports an ack that is too high. -/
theorem Overrun.refuses {acked : Nat} (overrun : delivery.Overrun acked)
    (few : delivery.buffer.length < UInt32.size) {ack : UInt32} (received : acked ≤ ack.toNat) :
    delivery.checkResync ack =
      .error (.resyncRejected ack delivery.resyncLow delivery.lastSendId) := by
  rw [Overrun] at overrun
  have beyond : delivery.lastSendId < ack := by
    rw [UInt32.lt_iff_toNat_lt]
    omega
  exact if_pos (.inr beyond)

/-- A line that was handed the last id is out of step with the id after it. -/
theorem flush_push_last (handed : delivery.lastSendIdOfLine = delivery.lastSendId)
    (last : delivery.lastSendId.toNat + 1 = UInt32.size) (body : ReliableBody P) :
    ∃ cause, (delivery.push body).1.flush = .error cause := by
  have unsent : (delivery.push body).1.unsent < 0 := by
    rw [Delivery.unsent, lastSendId_push_last last body]
    change (0 : Int) - (delivery.lastSendIdOfLine.toNat : Int) < 0
    rw [handed]
    have size : UInt32.size = 4294967296 := rfl
    omega
  exact ⟨_, if_pos (.inl unsent)⟩

end Delivery

namespace CloseMachine

theorem localClose_active {machine : CloseMachine} (active : machine.state = .active) :
    machine.localClose =
      ({ machine with state := .finWait1 }, [.sendFin, .enter .finWait1]) := by
  simp [localClose, active]

theorem localClose_begun {machine : CloseMachine} (begun : machine.state ≠ .active)
    (entered : machine.state ≠ .closeWait) : machine.localClose = (machine, []) := by
  unfold localClose
  split
  · next active => exact absurd active begun
  · next waiting => exact absurd waiting entered
  · rfl

private theorem onFin_actions {machine next : CloseMachine} {actions : List CloseAction}
    (decided : machine.onFin = .ok (next, actions)) :
    (∃ rest, actions = .sendFinAck :: rest ∧
        (machine.state ≠ .active ∧ CloseAction.bodies (P := P) rest = [] ∨
          machine.state = .active ∧ rest = [.enter .closeWait, .sendFin, .enter .lastAck])) ∨
      actions = [.enter .closeWait, .sendFin, .enter .lastAck] ∨
      CloseAction.bodies (P := P) actions = [] := by
  unfold CloseMachine.onFin at decided
  split at decided <;> simp only [Except.ok.injEq, Prod.mk.injEq, reduceCtorEq] at decided
  all_goals
    next was =>
      obtain ⟨rfl, rfl⟩ := decided
      unfold CloseMachine.owedFinAck
      split <;> simp [was, CloseAction.body?]

end CloseMachine

/-- Whether an input is what the application wants, other than an end by force. -/
def Input.isLocal : Input P → Bool
  | .send _ | .close => true
  | _ => false

namespace Session

variable {session after : Session P} {input : Input P}

/-! ## Which inputs give out ids -/

theorem lastSendId_applyClose {machine : CloseMachine} {actions : List CloseAction}
    (silent : CloseAction.bodies (P := P) actions = []) :
    (session.applyClose (machine, actions)).delivery.lastSendId =
      session.delivery.lastSendId := by
  obtain ⟨given, bound, counted⟩ :=
    lastSendId_foldl_applyAction actions { session with closing := machine }
  rw [silent, List.length_nil, Nat.le_zero] at bound
  subst bound
  exact counted.trans (UInt32.add_zero _)

theorem lastSendId_removeAcked (session : Session P) (ack : UInt32) :
    (session.removeAcked ack).delivery.lastSendId = session.delivery.lastSendId := by
  unfold removeAcked
  simp only
  split
  · rfl
  · rcases session.closing.onAcked_cases ack with ⟨closing, _, noted⟩ | ⟨closing, _, ends⟩
    · rw [noted]
      exact lastSendId_applyClose rfl
    · rw [ends]
      exact lastSendId_applyClose rfl

private theorem lastSendId_resync (session : Session P) (ack : UInt32) :
    (session.resync ack).delivery.lastSendId = session.delivery.lastSendId := by
  unfold resync
  simp only
  split
  · exact lastSendId_removeAcked session ack
  · rw [lastSendId_flush]
    exact lastSendId_removeAcked session ack

private theorem lastSendId_sendAck (session : Session P) :
    session.sendAck.delivery.lastSendId = session.delivery.lastSendId := by
  rw [sendAck_eq]
  dsimp only
  split <;> rfl

private theorem lastSendId_dropLine (session : Session P) :
    session.dropLine.delivery.lastSendId = session.delivery.lastSendId := by
  rw [dropLine_eq]
  split <;> rfl

private theorem lastSendId_onDue (session : Session P) (clock : UInt32) (event : LivenessEvent) :
    (onDue clock session event).delivery.lastSendId = session.delivery.lastSendId := by
  unfold onDue
  split
  · rfl
  · cases event with
    | offlineExpired => rw [terminate_eq]
    | rebindDue => rw [startRebind_eq]
    | sendPing => rw [sendPing_eq]
    | aliveWaitExpired => exact lastSendId_dropLine session
    | timeWaitExpired =>
        rcases session.closing.timeWaitExpired_cases with unmoved | ⟨closing, _, ends⟩
        · simp only [unmoved]
          exact lastSendId_applyClose rfl
        · simp only [ends]
          exact lastSendId_applyClose rfl

private theorem lastSendId_foldl_onDue (clock : UInt32) (due : List LivenessEvent) :
    ∀ session : Session P,
      (due.foldl (onDue clock) session).delivery.lastSendId = session.delivery.lastSendId := by
  induction due with
  | nil => exact fun _ => rfl
  | cons event due induction =>
      intro session
      exact (induction _).trans (lastSendId_onDue session clock event)

private theorem lastSendId_update (session : Session P) (time : Duration) (clock : UInt32) :
    (session.update time clock).delivery.lastSendId = session.delivery.lastSendId := by
  unfold update
  split
  · rfl
  · simp only
    split
    · rw [lastSendId_sendAck, lastSendId_foldl_onDue]
    · rw [lastSendId_foldl_onDue]

/-- The inputs that may give out ids: the application sends or closes, or the peer's Fin
comes. -/
inductive Pushes (session : Session P) : Input P → Session P → Prop where
  | sends {payload : P} (running : session.phase ≠ .closed)
      (unsent : session.closing.finSent = false) :
      Pushes session (.send payload) (session.pushReliable (.data payload)).1
  | closes (connected : session.phase = .connected) :
      Pushes session .close (session.applyClose session.closing.localClose)
  | answers {line : LineId} {packet : ReliablePacket P} {clock : UInt32} {informed : Session P}
      {machine : CloseMachine} {actions : List CloseAction} (running : session.phase ≠ .closed)
      (bound : session.current.map (·.id) = some line)
      (next : packet.id.toNat = session.delivery.lastRecvId.toNat + 1)
      (acked : informed =
        removeAcked { session with delivery := { session.delivery with lastRecvId := packet.id } }
          packet.ack)
      (open_ : informed.phase ≠ .closed) (isFin : packet.body = .fin)
      (decided : informed.closing.onFin = .ok (machine, actions)) :
      Pushes session (.packet line (.reliable packet) clock)
        (informed.applyClose (machine, actions))

theorem PacketOutcome.pushes {line : LineId} {packet : Packet P} {clock : UInt32}
    (outcome : PacketOutcome session packet after) (running : session.phase ≠ .closed)
    (bound : session.current.map (·.id) = some line) :
    after.delivery.lastSendId = session.delivery.lastSendId ∨
      Pushes session (.packet line packet clock) after := by
  cases outcome with
  | gap refused => exact .inl (lastSendId_dropLine session)
  | misplaced strange => exact .inl (lastSendId_dropLine session)
  | duplicate known => exact .inl rfl
  | ended accepted isOver =>
      obtain ⟨rfl, -⟩ := Delivery.accept_accepted accepted
      exact .inl (lastSendId_removeAcked _ _)
  | @taken packet delivery after accepted open_ body =>
      obtain ⟨rfl, next⟩ := Delivery.accept_accepted accepted
      have informed := lastSendId_removeAcked
        { session with delivery := { session.delivery with lastRecvId := packet.id } } packet.ack
      generalize isBody : packet.body = content at body
      cases body with
      | delivered => exact .inl informed
      | fin decided => exact .inr (.answers running bound next rfl open_ isBody decided)
      | finAck decided =>
          left
          rcases CloseMachine.onFinAck_cases decided with ⟨_, rfl⟩ | ⟨_, rfl | rfl⟩ <;>
            exact (lastSendId_applyClose rfl).trans informed
      | unexpectedFin refused =>
          rw [terminate_eq]
          exact .inl informed
      | unexpectedFinAck refused =>
          rw [terminate_eq]
          exact .inl informed
  | acked => exact .inl (lastSendId_removeAcked _ _)
  | echoed =>
      rw [sendOnCurrent_eq]
      exact .inl rfl
  | measured => exact .inl rfl
  | unmeasured => exact .inl rfl

theorem Outcome.pushes (outcome : Outcome session input after) :
    after.delivery.lastSendId = session.delivery.lastSendId ∨ Pushes session input after := by
  cases outcome with
  | pushed running unsent => exact .inr (.sends running unsent)
  | closes connected => exact .inr (.closes connected)
  | heard running bound arrives => exact arrives.pushes running bound
  | elapsed running => exact .inl (lastSendId_update _ _ _)
  | created shaking connecting =>
      left
      rw [lastSendId_flush, bindCurrent_eq]
      rfl
  | accepted connecting =>
      left
      rw [lastSendId_flush, bindCurrent_eq]
      rfl
  | rebound shaking connected checked =>
      left
      rw [lastSendId_resync, bindCurrent_eq]
  | resumed connected current checked =>
      left
      rw [lastSendId_resync, bindCurrent_eq]
      rfl
  | _ => exact .inl (by simp [terminate_eq, discard_eq, lineLost])

/-- Only a running session gives out ids, and without a line only to its application. -/
theorem Pushes.possible (pushes : Pushes session input after) :
    session.phase ≠ .closed ∧ (session.current = none → input.isLocal) := by
  cases pushes with
  | sends running _ => exact ⟨running, fun _ => rfl⟩
  | closes connected => exact ⟨by simp [connected], fun _ => rfl⟩
  | answers running bound _ _ _ _ _ =>
      refine ⟨running, fun unbound => ?_⟩
      simp [unbound] at bound

theorem assignedBy_eq_zero (impossible : ¬Pushes session input (session.step input)) :
    session.assignedBy input = 0 := by
  have same := (session.outcome_step input).pushes.resolve_right impossible
  rw [assignedBy, same, UInt32.sub_self]
  rfl

/-! ## When the ids run out -/

/-- A session ends, and nothing else comes of an input. -/
structure Stops (before after : Session P) : Prop where
  isOver : after.phase = .closed
  delivered : deliveredIn after.outputs = deliveredIn before.outputs
  dials : dialedIn after.outputs = dialedIn before.outputs
  sent : ∀ line, packetsOn line after.actions = packetsOn line before.actions

/-- A session ends for this reason, and nothing else comes of an input. -/
structure Breaks (reason : CloseReason) (before after : Session P) : Prop
    extends Stops before after where
  told : .closed reason ∈ after.outputs

theorem Stops.of_same {middle : Session P} (stops : Stops middle after)
    (outputs : middle.outputs = session.outputs) (actions : middle.actions = session.actions) :
    Stops session after where
  isOver := stops.isOver
  delivered := outputs ▸ stops.delivered
  dials := outputs ▸ stops.dials
  sent := actions ▸ stops.sent

theorem Breaks.of_same {reason : CloseReason} {middle : Session P}
    (breaks : Breaks reason middle after) (outputs : middle.outputs = session.outputs)
    (actions : middle.actions = session.actions) : Breaks reason session after :=
  ⟨breaks.toStops.of_same outputs actions, breaks.told⟩

theorem pushReliable_unbound (session : Session P) (unbound : session.current = none)
    (body : ReliableBody P) :
    (session.pushReliable body).1 =
      { session with delivery := (session.delivery.push body).1 } := by
  have unfolded : (session.pushReliable body).1 =
      flush { session with delivery := (session.delivery.push body).1 } := rfl
  rw [unfolded, flush, if_pos (by simp [unbound])]

theorem pushReliable_last (bound : session.current.isSome)
    (handed : session.delivery.lastSendIdOfLine = session.delivery.lastSendId)
    (last : session.delivery.lastSendId.toNat + 1 = UInt32.size) (body : ReliableBody P) :
    (session.pushReliable body).1 =
      terminate { session with delivery := (session.delivery.push body).1 } .bookkeeping := by
  have unfolded : (session.pushReliable body).1 =
      flush { session with delivery := (session.delivery.push body).1 } := rfl
  obtain ⟨cause, refused⟩ := Delivery.flush_push_last handed last body
  have here : ¬session.current.isNone := by simp [Option.isSome_iff_ne_none.mp bound]
  rw [unfolded, flush]
  simp only [if_neg here, refused]

private theorem breaks_pushReliable (bound : session.current.isSome)
    (handed : session.delivery.lastSendIdOfLine = session.delivery.lastSendId)
    (last : session.delivery.lastSendId.toNat + 1 = UInt32.size) (body : ReliableBody P) :
    Breaks .bookkeeping session (session.pushReliable body).1 := by
  rw [pushReliable_last bound handed last, terminate_eq]
  exact
    { isOver := rfl
      told := by simp
      delivered := by simp [deliveredIn]
      dials := by simp [dialedIn]
      sent := fun line => by simp }

private theorem applyAction_of_closed (isOver : session.phase = .closed) (action : CloseAction) :
    session.applyAction action = session :=
  if_pos isOver

private theorem foldl_applyAction_of_closed (isOver : session.phase = .closed)
    (actions : List CloseAction) : actions.foldl applyAction session = session := by
  induction actions with
  | nil => rfl
  | cons action actions induction => rw [List.foldl_cons, applyAction_of_closed isOver, induction]

private theorem breaks_foldl_applyAction (session : Session P) (running : session.phase ≠ .closed)
    (bound : session.current.isSome)
    (handed : session.delivery.lastSendIdOfLine = session.delivery.lastSendId)
    (last : session.delivery.lastSendId.toNat + 1 = UInt32.size) {action : CloseAction}
    (pushes : action = .sendFin ∨ action = .sendFinAck) (actions : List CloseAction) :
    Breaks .bookkeeping session ((action :: actions).foldl applyAction session) := by
  have first : Breaks .bookkeeping session (session.applyAction action) := by
    unfold applyAction
    rw [if_neg running]
    rcases pushes with rfl | rfl
    · have breaks := breaks_pushReliable bound handed last .fin
      exact ⟨⟨breaks.isOver, breaks.delivered, breaks.dials, breaks.sent⟩, breaks.told⟩
    · have breaks := breaks_pushReliable bound handed last .finAck
      exact ⟨⟨breaks.isOver, breaks.delivered, breaks.dials, breaks.sent⟩, breaks.told⟩
  rw [List.foldl_cons, foldl_applyAction_of_closed first.isOver]
  exact first

/-- A session that has run out of ids without a line; `twin` is the same session if the
application had stopped in time. -/
structure Muted (twin session : Session P) : Prop where
  same : twin =
    { session with
      delivery := twin.delivery
      closing := twin.closing
      outputs := twin.outputs
      actions := twin.actions }
  connected : session.phase = .connected
  unbound : session.current = none
  active : twin.closing.state = .active
  begun : session.closing.state = .active ∨ session.closing.state = .finWait1
  recvId : session.delivery.lastRecvId = twin.delivery.lastRecvId
  overrun : session.delivery.Overrun twin.delivery.acked
  delivered : deliveredIn session.outputs = deliveredIn twin.outputs
  sent : ∀ line, packetsOn line session.actions = packetsOn line twin.actions

theorem Muted.begins {twin : Session P} (muted : Muted twin session) {closing : CloseMachine}
    (begun : closing.state = .finWait1) :
    Muted twin
      { session with closing, outputs := session.outputs ++ [.closeStateChanged .finWait1] } where
  same := muted.same
  connected := muted.connected
  unbound := muted.unbound
  active := muted.active
  begun := .inr begun
  recvId := muted.recvId
  overrun := muted.overrun
  delivered := by simpa [deliveredIn] using muted.delivered
  sent := muted.sent

/-- A session ended over the id of its Fin, just after the FinAck was sent with the last id. -/
structure Parts (pushed : List (ReliableBody P)) (before after : Session P) : Prop where
  isOver : after.phase = .closed
  told : .closed .bookkeeping ∈ after.outputs
  delivered : deliveredIn after.outputs = deliveredIn before.outputs
  dials : dialedIn after.outputs = dialedIn before.outputs
  sent : ∀ line, ∀ packet ∈ packetsOn line after.actions,
    packet ∈ packetsOn line before.actions ∨
      packet.Truthful (pushed ++ [.finAck]) UInt32.size
  active : before.closing.state = .active
  last : pushed.length + 2 = UInt32.size

/-- What becomes of a session that gives out more ids than there are. -/
inductive Overruns (pushed : List (ReliableBody P)) (before after : Session P) (input : Input P) :
    Prop where
  | mutes (unbound : before.current = none) (wish : input.isLocal)
      (dials : dialedIn after.outputs = dialedIn before.outputs) (muted : Muted before after) :
      Overruns pushed before after input
  | breaks (breaks : Breaks .bookkeeping before after) : Overruns pushed before after input
  | parts (brought : before.Brings input .fin) (parts : Parts pushed before after) :
      Overruns pushed before after input

/-- With a line the session ends over its ids at once. -/
theorem Overruns.ends {pushed : List (ReliableBody P)}
    (overruns : Overruns pushed session after input) (bound : session.current.isSome) :
    after.phase = .closed ∧ .closed .bookkeeping ∈ after.outputs ∧
      dialedIn after.outputs = dialedIn session.outputs := by
  cases overruns with
  | mutes unbound _ _ _ => simp [unbound] at bound
  | breaks breaks => exact ⟨breaks.isOver, breaks.told, breaks.dials⟩
  | parts _ parts => exact ⟨parts.isOver, parts.told, parts.dials⟩

theorem applyClose_unbound (running : session.phase ≠ .closed) (unbound : session.current = none)
    (active : session.closing.state = .active) :
    session.applyClose session.closing.localClose =
      { session with
        delivery := (session.delivery.push .fin).1
        closing :=
          ({ session.closing with state := .finWait1 } : CloseMachine).recordFin
            (session.delivery.push .fin).2
        outputs := session.outputs ++ [.closeStateChanged .finWait1] } := by
  have pushed := pushReliable_unbound
    { session with closing := { session.closing with state := .finWait1 } } unbound .fin
  rw [CloseMachine.localClose_active active, applyClose]
  simp only [List.foldl_cons, List.foldl_nil, applyAction, if_neg running]
  rw [pushed]
  simp only [if_neg running]
  rfl

section

variable {pushed : List (ReliableBody P)}

theorem Books.last (books : Books pushed session) (full : pushed.length + 1 = UInt32.size) :
    session.delivery.lastSendId.toNat + 1 = UInt32.size := by
  rw [books.keeps.counted]
  exact full

theorem Books.length_lt (books : Books pushed session) : pushed.length < UInt32.size := by
  rw [← books.keeps.counted]
  exact session.delivery.lastSendId.toNat_lt_size

/-- A session that runs and gives out ids without a line is there already: before that,
all ids are still in the buffer. -/
theorem Books.connected_of_full (books : Books pushed session) (running : session.phase ≠ .closed)
    (body : ReliableBody P) (full : pushed.length + 1 = UInt32.size)
    (few : (session.delivery.push body).1.buffer.length < UInt32.size) :
    session.phase = .connected := by
  cases phase : session.phase with
  | connected => rfl
  | closed => exact absurd phase running
  | connecting =>
      have none := books.keeps.inOrder.acked_le_line
      rw [books.untouched phase] at none
      have total := books.keeps.inOrder.acked_add_length
      have counted := books.keeps.counted
      have zero : (0 : UInt32).toNat = 0 := rfl
      simp only [Delivery.push, List.length_append, List.length_singleton] at few
      omega

private theorem muted_push (books : Books pushed session) (connected : session.phase = .connected)
    (unbound : session.current = none) (active : session.closing.state = .active)
    (full : pushed.length + 1 = UInt32.size) (body : ReliableBody P) :
    Muted session { session with delivery := (session.delivery.push body).1 } where
  same := rfl
  connected
  unbound
  active
  begun := .inl active
  recvId := rfl
  overrun := books.keeps.inOrder.overrun_push (books.last full) body
  delivered := rfl
  sent := fun _ => rfl

private theorem overruns_send (books : Books pushed session) (guarded : session.Guarded)
    (running : session.phase ≠ .closed) (unsent : session.closing.finSent = false) (payload : P)
    (full : pushed.length + 1 = UInt32.size)
    (few : (session.pushReliable (.data payload)).1.delivery.buffer.length < UInt32.size) :
    Overruns pushed session (session.pushReliable (.data payload)).1 (.send payload) := by
  cases current : session.current with
  | some line =>
      have bound : session.current.isSome := by simp [current]
      exact .breaks (breaks_pushReliable bound (books.inStep bound) (books.last full) _)
  | none =>
      rw [pushReliable_unbound session current] at few ⊢
      have active : session.closing.state = .active :=
        guarded.resolve_right (by simp [unsent])
      have connected := books.connected_of_full running _ full few
      exact .mutes current rfl rfl (muted_push books connected current active full _)

private theorem full_applyClose {machine : CloseMachine} {actions : List CloseAction} {count : Nat}
    (few : (CloseAction.bodies (P := P) actions).length < UInt32.size)
    (full : UInt32.size ≤ count +
      ((session.applyClose (machine, actions)).delivery.lastSendId -
        session.delivery.lastSendId).toNat) :
    UInt32.size ≤ count + (CloseAction.bodies (P := P) actions).length := by
  obtain ⟨given, bound, counted⟩ :=
    lastSendId_foldl_applyAction actions { session with closing := machine }
  rw [applyClose, counted, UInt32.add_comm, UInt32.add_sub_cancel,
    UInt32.toNat_ofNat_of_lt' (Nat.lt_of_le_of_lt bound few)] at full
  exact Nat.le_trans full (Nat.add_le_add_left bound count)

private theorem overruns_close (books : Books pushed session)
    (connected : session.phase = .connected)
    (entered : session.closing.state ≠ .closeWait)
    (full : UInt32.size ≤ pushed.length +
      ((session.applyClose session.closing.localClose).delivery.lastSendId -
        session.delivery.lastSendId).toNat) :
    Overruns pushed session (session.applyClose session.closing.localClose) .close := by
  have running : session.phase ≠ .closed := by simp [connected]
  have small := books.length_lt
  have spent := full_applyClose session.closing.few_localClose full
  by_cases active : session.closing.state = .active
  · have decided := CloseMachine.localClose_active active
    rw [decided] at spent
    have one : pushed.length + 1 = UInt32.size := Nat.le_antisymm small spent
    cases current : session.current with
    | some line =>
        have bound : session.current.isSome := by simp [current]
        have breaks := breaks_foldl_applyAction
          { session with closing := { session.closing with state := .finWait1 } } running
          bound (books.inStep bound) (books.last one) (.inl rfl) [.enter .finWait1]
        rw [applyClose, decided]
        exact .breaks (breaks.of_same rfl rfl)
    | none =>
        rw [applyClose_unbound running current active]
        have muted := muted_push books connected current active one .fin
        exact .mutes current rfl (by simp [dialedIn]) (muted.begins rfl)
  · rw [CloseMachine.localClose_begun active entered] at spent
    exact absurd small (Nat.not_lt_of_le spent)

private theorem applyAction_enter_closeWait (running : session.phase ≠ .closed) :
    session.applyAction (.enter .closeWait) = session.emit (.closeStateChanged .closeWait) :=
  if_neg running

/-- The last actions after a Fin, when no id is left. -/
theorem breaks_lastAck (books : Books pushed session) (connected : session.phase = .connected)
    (bound : session.current.isSome) (full : pushed.length + 1 = UInt32.size) :
    Breaks .bookkeeping session
      ([.enter .closeWait, .sendFin, .enter .lastAck].foldl applyAction session) := by
  have running : session.phase ≠ .closed := by simp [connected]
  have breaks := breaks_foldl_applyAction (session.emit (.closeStateChanged .closeWait)) running
    bound (books.inStep bound) (books.last full) (.inl rfl) [.enter .lastAck]
  rw [List.foldl_cons, applyAction_enter_closeWait running]
  exact
    { isOver := breaks.isOver
      told := breaks.told
      delivered := breaks.delivered.trans (by simp [emit, deliveredIn])
      dials := breaks.dials.trans (by simp [emit, dialedIn])
      sent := breaks.sent }

variable {line : LineId} {packet : ReliablePacket P} {informed : Session P}

/-- A session that has taken the ack of a packet, and not ended over it. -/
structure Informed (pushed : List (ReliableBody P)) (session informed : Session P) : Prop where
  books : Books pushed informed
  connected : informed.phase = .connected
  bound : informed.current.isSome
  lastSendId : informed.delivery.lastSendId = session.delivery.lastSendId
  state : informed.closing.state = session.closing.state
  outputs : informed.outputs = session.outputs
  actions : informed.actions = session.actions

private theorem informed_removeAcked (books : Books pushed session) (bound : session.current.isSome)
    (next : packet.id.toNat = session.delivery.lastRecvId.toNat + 1)
    (acked : informed =
      removeAcked { session with delivery := { session.delivery with lastRecvId := packet.id } }
        packet.ack)
    (open_ : informed.phase ≠ .closed) : Informed pushed session informed := by
  have told := (told_removeAcked books bound next acked).resolve_right fun ended => open_ ended.1
  have starts : ({ session with
      delivery := { session.delivery with lastRecvId := packet.id } } : Session P).phase ≠
        .closed := by
    simp [books.connected bound]
  have quiet : informed.outputs = session.outputs ∧ informed.actions = session.actions := by
    rcases removeAcked_cases starts packet.ack with ⟨closing, _, noted⟩ | ⟨closing, _, ends⟩
    · rw [acked, noted]
      exact ⟨rfl, rfl⟩
    · rw [acked, ends, endGracefully_eq, terminate_eq] at open_
      exact absurd rfl open_
  exact
    { books := told.books
      connected := told.open_
      bound := by rwa [told.stays]
      lastSendId := told.lastSendId books
      state := told.noted.state
      outputs := quiet.1
      actions := quiet.2 }

/-- One id is left: the FinAck takes it, and the Fin finds none. -/
theorem Informed.parts (heard : Informed pushed session informed) (machine : CloseMachine)
    (active : informed.closing.state = .active) (two : pushed.length + 2 = UInt32.size) :
    Parts pushed session
      (informed.applyClose
        (machine, [.sendFinAck, .enter .closeWait, .sendFin, .enter .lastAck])) := by
  have moved : Advances 0 [] pushed pushed informed { informed with closing := machine } :=
    advances_closing heard.books (fun _ => .inr heard.bound)
  have room : pushed.length + (CloseAction.bodies (P := P) [.sendFinAck]).length <
      UInt32.size := by
    simp [CloseAction.body?]
    omega
  have taken : Takes 0 machine [.sendFinAck] pushed { informed with closing := machine }
      (applyAction { informed with closing := machine } .sendFinAck) :=
    takes_applyAction moved.books heard.connected (by simp) room (fun _ => heard.bound)
  have breaks := breaks_lastAck taken.books taken.open_
    (by rw [taken.stays]; exact heard.bound) (by simp [CloseAction.body?]; omega)
  exact
    { isOver := breaks.isOver
      told := breaks.told
      delivered := breaks.delivered.trans (taken.delivered.trans (by rw [heard.outputs]))
      dials := breaks.dials.trans (taken.dials.trans (by rw [heard.outputs]))
      sent := by
        intro target packet member
        rw [applyClose, List.foldl_cons, breaks.sent] at member
        rcases taken.toAdvances.sent target member with old | new
        · rw [heard.actions] at old
          exact .inl old
        · exact .inr (new.mono List.prefix_rfl (Nat.le_of_lt (UInt32.toNat_lt_size _)))
      active := heard.state ▸ active
      last := two }

private theorem overruns_answer (books : Books pushed session) (clock : UInt32)
    (ours : session.current.map (·.id) = some line)
    (next : packet.id.toNat = session.delivery.lastRecvId.toNat + 1)
    (acked : informed =
      removeAcked { session with delivery := { session.delivery with lastRecvId := packet.id } }
        packet.ack)
    (open_ : informed.phase ≠ .closed) (isFin : packet.body = .fin) {machine : CloseMachine}
    {actions : List CloseAction} (decided : informed.closing.onFin = .ok (machine, actions))
    (full : UInt32.size ≤ pushed.length +
      ((informed.applyClose (machine, actions)).delivery.lastSendId -
        session.delivery.lastSendId).toNat) :
    Overruns pushed session (informed.applyClose (machine, actions))
      (.packet line (.reliable packet) clock) := by
  have heard := informed_removeAcked books (isSome_of_id ours) next acked open_
  have moved : Advances 0 [] pushed pushed informed { informed with closing := machine } :=
    advances_closing heard.books (fun _ => .inr heard.bound)
  have small := books.length_lt
  have short : (CloseAction.bodies (P := P) actions).length ≤ 2 :=
    (CloseMachine.onFin_cases decided).2.1
  have size : UInt32.size = 4294967296 := rfl
  rw [← heard.lastSendId] at full
  have spent := full_applyClose (by omega) full
  rcases CloseMachine.onFin_actions (P := P) decided with ⟨rest, rfl, others⟩ | rfl | silent
  · by_cases one : pushed.length + 1 = UInt32.size
    · have breaks := breaks_foldl_applyAction { informed with closing := machine } open_
        heard.bound (moved.books.inStep heard.bound) (moved.books.last one) (.inr rfl) rest
      exact .breaks (breaks.of_same heard.outputs heard.actions)
    · rcases others with ⟨_, silent⟩ | ⟨active, rfl⟩
      · simp [CloseAction.body?, silent] at spent
        omega
      · have two : pushed.length + 2 = UInt32.size := by
          simp [CloseAction.body?] at spent
          omega
        exact .parts ⟨line, packet, clock, rfl, isFin, next⟩ (heard.parts machine active two)
  · have one : pushed.length + 1 = UInt32.size := by
      simp [CloseAction.body?] at spent
      omega
    have breaks := breaks_lastAck moved.books heard.connected heard.bound one
    exact .breaks (breaks.of_same heard.outputs heard.actions)
  · rw [silent, List.length_nil] at spent
    omega

theorem Pushes.overruns (pushes : Pushes session input after) (books : Books pushed session)
    (guarded : session.Guarded) (entered : session.closing.state ≠ .closeWait)
    (full : UInt32.size ≤ pushed.length +
      (after.delivery.lastSendId - session.delivery.lastSendId).toNat)
    (few : after.delivery.buffer.length < UInt32.size) :
    Overruns pushed session after input := by
  cases pushes with
  | sends running unsent =>
      refine overruns_send books guarded running unsent _ ?_ few
      have small := books.length_lt
      rw [lastSendId_pushReliable, UInt32.add_comm, UInt32.add_sub_cancel] at full
      change UInt32.size ≤ pushed.length + 1 at full
      omega
  | closes connected => exact overruns_close books connected entered full
  | answers running bound next acked open_ isFin decided =>
      exact overruns_answer books _ bound next acked open_ isFin decided full

end

end Session

end ResumableSession
