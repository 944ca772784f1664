import ResumableSession.Proofs.Session.Overrun

/-!
# A session without ids

Once its ids have run out, a session without a line goes on like its twin, the session
whose application stopped in time, except that what is sent to it from then on is buffered
for nothing.  It never sends anything again, and the next handshake ends it.
-/

namespace ResumableSession

variable {P : Type}

namespace Session

variable {session after twin : Session P} {input : Input P}

/-! ## After the end -/

/-- Nothing comes of an input after the end. -/
structure Inert (before after : Session P) : Prop where
  isOver : after.phase = .closed
  outputs : after.outputs = before.outputs
  sent : ∀ line, packetsOn line after.actions = packetsOn line before.actions

theorem inert_step (isOver : session.phase = .closed) (input : Input P) :
    Inert session (session.step input) := by
  have outcome := session.outcome_step input
  generalize session.step input = after at outcome ⊢
  cases outcome with
  | unchanged unoffered silent => exact ⟨isOver, rfl, fun _ => rfl⟩
  | turnedAway offered =>
      rw [discard_eq]
      exact ⟨isOver, rfl, fun line => by simp⟩
  | givenUp unoffered silent shaking =>
      rw [discard_eq]
      exact ⟨isOver, rfl, fun line => by simp⟩
  | lostPending shaking _ => exact ⟨isOver, rfl, fun _ => rfl⟩
  | lostCurrent bound _ => exact ⟨isOver, rfl, fun _ => rfl⟩
  | _ => simp_all

theorem Inert.stops (inert : Inert session after) : Stops session after where
  isOver := inert.isOver
  delivered := by rw [inert.outputs]
  dials := by rw [inert.outputs]
  sent := inert.sent

theorem stops_terminate (session : Session P) (reason : CloseReason) :
    Stops session (session.terminate reason) := by
  rw [terminate_eq]
  exact ⟨rfl, by simp [deliveredIn], by simp [dialedIn], fun line => by simp⟩

/-! ## Time -/

private theorem sendAck_unbound (unbound : session.current = none) : session.sendAck = session :=
  if_pos (by simp [unbound])

/-- Of what may become due, only the end of patience and an attempt to rebind matter to a
session without a line that does not linger. -/
theorem onDue_unbound (clock : UInt32) (unbound : session.current = none)
    (waiting : session.closing.state ≠ .timeWait) {event : LivenessEvent}
    (undialed : event ≠ .rebindDue) (patient : event ≠ .offlineExpired) :
    onDue clock session event = session := by
  have alone : session.current.isNone := by simp [unbound]
  have machine : session.closing.timeWaitExpired = (session.closing, []) := if_neg waiting
  unfold onDue
  split
  · rfl
  · cases event with
    | rebindDue => exact absurd rfl undialed
    | offlineExpired => exact absurd rfl patient
    | sendPing => exact if_pos alone
    | aliveWaitExpired => exact if_pos alone
    | timeWaitExpired =>
        simp only [machine]
        rfl

private theorem foldl_onDue_of_closed (clock : UInt32) (isOver : session.phase = .closed)
    (due : List LivenessEvent) : due.foldl (onDue clock) session = session := by
  induction due with
  | nil => rfl
  | cons event due induction =>
      have idle : onDue clock session event = session := if_pos isOver
      rw [List.foldl_cons, idle, induction]

private theorem foldl_onDue_unbound (session : Session P) (clock : UInt32)
    (running : session.phase ≠ .closed) (unbound : session.current = none)
    (waiting : session.closing.state ≠ .timeWait) (due : List LivenessEvent)
    (undialed : .rebindDue ∉ due) :
    due.foldl (onDue clock) session =
      if .offlineExpired ∈ due then session.terminate .offlineTimeout else session := by
  induction due with
  | nil => rfl
  | cons event due induction =>
      rw [List.mem_cons, not_or] at undialed
      rw [List.foldl_cons]
      by_cases expired : event = .offlineExpired
      · subst expired
        have ended : onDue clock session .offlineExpired = session.terminate .offlineTimeout :=
          if_neg running
        rw [ended, if_pos List.mem_cons_self]
        exact foldl_onDue_of_closed clock (by rw [terminate_eq]) due
      · rw [onDue_unbound clock unbound waiting (Ne.symm undialed.1) expired,
          induction undialed.2]
        simp [Ne.symm expired]

private theorem update_unbound (running : session.phase ≠ .closed)
    (unbound : session.current = none)
    (waiting : session.closing.state ≠ .timeWait) (time : Duration) (clock : UInt32) :
    session.update time clock =
      if (session.liveness.tick time).2 = [.rebindDue] then
        startRebind { session with liveness := (session.liveness.tick time).1 }
      else if .offlineExpired ∈ (session.liveness.tick time).2 then
        terminate { session with liveness := (session.liveness.tick time).1 } .offlineTimeout
      else { session with liveness := (session.liveness.tick time).1 } := by
  obtain ⟨_, ⟨due, _⟩ | ⟨undialed, _⟩⟩ := session.liveness.tick_cases time
  · rw [if_pos due]
    rcases update_rebindDue running time clock due with silent | told
    · exact silent
    · rw [told, sendAck_unbound]
      rw [startRebind_eq]
      exact unbound
  · rw [if_neg (fun due => undialed (by simp [due]))]
    unfold update
    rw [if_neg running]
    simp only
    rw [foldl_onDue_unbound { session with liveness := (session.liveness.tick time).1 } clock
      running unbound waiting _ undialed]
    split
    · simp [terminate_eq]
    · rw [sendAck_unbound]
      · exact ite_self _
      · exact unbound

/-! ## Lines -/

private theorem onLineClosed_unbound (connected : session.phase = .connected)
    (unbound : session.current = none) (line : LineId) :
    session.onLineClosed line =
      if session.pending.map (·.id) = some line then
        { session with pending := none, liveness := session.liveness.rebindFailed }
      else session := by
  unfold onLineClosed
  simp only [unbound, Option.map_none, reduceCtorEq, if_false]
  split
  · rw [connected]
  · rfl

private theorem onLineCreated_connected (connected : session.phase = .connected) (line : LineId)
    (sessionId : UInt32) :
    session.onLineCreated line sessionId =
      if session.pending.map (·.id) = some line then
        discard { session with pending := none } session.pending
      else session := by
  unfold onLineCreated
  cases session.pending with
  | none => rfl
  | some pending => by_cases ours : pending.id = line <;> simp [ours, connected]

private theorem onLineRebound_elsewhere {line : LineId}
    (elsewhere : session.pending.map (·.id) ≠ some line) (serverAck : UInt32) :
    session.onLineRebound line serverAck = session := by
  unfold onLineRebound
  split
  · rfl
  · next pending shaking => exact if_pos (by simpa [shaking] using elsewhere)

/-- A handshake that the session checks against what it has sent. -/
def Resyncs (session : Session P) : Input P → Prop
  | .lineRebound line _ =>
      session.phase = .connected ∧ session.pending.map (·.id) = some line
  | .attachRebind line _ =>
      session.phase = .connected ∧ ¬line.index < session.lastLineIndex
  | _ => False

theorem Resyncs.connected (resyncs : session.Resyncs input) : session.phase = .connected := by
  cases input with
  | lineRebound _ _ => exact resyncs.1
  | attachRebind _ _ => exact resyncs.1
  | _ => exact absurd resyncs id

private theorem breaks_rejected (session : Session P) (line : Option Line) :
    Breaks .resyncRejected session ((session.discard line).terminate .resyncRejected) := by
  have stops := stops_terminate (session.discard line) .resyncRejected
  refine ⟨⟨stops.isOver, stops.delivered.trans ?_, stops.dials.trans ?_,
    fun target => (stops.sent target).trans ?_⟩, ?_⟩
  · rw [discard_eq]
  · rw [discard_eq]
  · simp [discard_eq]
  · simp [terminate_eq]

/-! ## Going on without ids -/

/-- A session and its twin do the same, and send nothing. -/
structure KeepsMute (twin session twin' session' : Session P) : Prop where
  muted : Muted twin' session'
  told : ∃ new, session'.outputs = session.outputs ++ new ∧ twin'.outputs = twin.outputs ++ new
  silent : ∀ line, packetsOn line session'.actions = packetsOn line session.actions

namespace Muted

theorem running (muted : Muted twin session) : session.phase ≠ .closed := by
  simp [muted.connected]

private theorem twin_connected (muted : Muted twin session) : twin.phase = .connected := by
  rw [muted.same]
  exact muted.connected

theorem twin_unbound (muted : Muted twin session) : twin.current = none := by
  rw [muted.same]
  exact muted.unbound

private theorem twin_running (muted : Muted twin session) : twin.phase ≠ .closed := by
  simp [muted.twin_connected]

theorem waiting (muted : Muted twin session) : session.closing.state ≠ .timeWait := by
  rcases muted.begun with active | begun
  · simp [active]
  · simp [begun]

theorem shape (muted : Muted twin session) :
    ∃ delivery closing outputs actions,
      twin = { session with delivery, closing, outputs, actions } :=
  ⟨_, _, _, _, muted.same⟩

theorem refl (muted : Muted twin session) : KeepsMute twin session twin session :=
  ⟨muted, ⟨[], by simp⟩, fun _ => rfl⟩

theorem keeps (muted : Muted twin session) (pending : Option Line) (index : UInt32)
    (liveness : Liveness) (closed : Option Line) (told : List (Output P))
    (undelivered : deliveredIn told = []) :
    KeepsMute twin session
      { twin with
        pending, lastLineIndex := index, liveness
        outputs := twin.outputs ++ told
        actions := twin.actions ++ closed.toList.map fun line => .close line.id false }
      { session with
        pending, lastLineIndex := index, liveness
        outputs := session.outputs ++ told
        actions := session.actions ++ closed.toList.map fun line => .close line.id false } where
  muted := by
    obtain ⟨delivery, closing, outputs, actions, rfl⟩ := muted.shape
    exact
      { same := rfl
        connected := muted.connected
        unbound := muted.unbound
        active := muted.active
        begun := muted.begun
        recvId := muted.recvId
        overrun := muted.overrun
        delivered := by simpa [undelivered] using muted.delivered
        sent := fun line => by simpa using muted.sent line }
  told := ⟨told, rfl, rfl⟩
  silent := fun line => by simp

private theorem repend (muted : Muted twin session) (pending : Option Line) (liveness : Liveness)
    (closed : Option Line) :
    KeepsMute twin session
      { twin with
        pending, liveness
        actions := twin.actions ++ closed.toList.map fun line => .close line.id false }
      { session with
        pending, liveness
        actions := session.actions ++ closed.toList.map fun line => .close line.id false } := by
  have keeps := muted.keeps pending session.lastLineIndex liveness closed [] rfl
  obtain ⟨delivery, closing, outputs, actions, rfl⟩ := muted.shape
  simp only [List.append_nil] at keeps
  exact keeps

theorem update (muted : Muted twin session) (time : Duration) (clock : UInt32) :
    KeepsMute twin session (twin.update time clock) (session.update time clock) ∨
      Stops session (session.update time clock) := by
  rw [update_unbound muted.running muted.unbound muted.waiting,
    update_unbound muted.twin_running muted.twin_unbound (by simp [muted.active])]
  obtain ⟨delivery, closing, outputs, actions, rfl⟩ := muted.shape
  simp only
  split
  · have keeps := muted.keeps none (session.lastLineIndex + 1) (session.liveness.tick time).1
      session.pending [.openRebindLine session.sessionId (session.lastLineIndex + 1)
        session.delivery.lastRecvId] rfl
    rw [startRebind_eq, startRebind_eq, ← muted.recvId]
    exact .inl keeps
  · split
    · have stops := stops_terminate
        ({ session with liveness := (session.liveness.tick time).1 } : Session P) .offlineTimeout
      exact .inr (stops.of_same rfl rfl)
    · have keeps := muted.repend session.pending (session.liveness.tick time).1 none
      simp only [Option.toList_none, List.map_nil, List.append_nil] at keeps
      exact .inl keeps

theorem discard (muted : Muted twin session) (line : Option Line) :
    KeepsMute twin session (twin.discard line) (session.discard line) := by
  have keeps := muted.repend session.pending session.liveness line
  obtain ⟨delivery, closing, outputs, actions, rfl⟩ := muted.shape
  rw [discard_eq, discard_eq]
  exact keeps

theorem bindPending (muted : Muted twin session) (line : Line) :
    KeepsMute twin session (twin.bindPending line) (session.bindPending line) := by
  have keeps := muted.repend (some line) session.liveness session.pending
  obtain ⟨delivery, closing, outputs, actions, rfl⟩ := muted.shape
  unfold Session.bindPending
  rw [if_neg muted.running, if_neg muted.running, discard_eq, discard_eq]
  exact keeps

theorem onLineClosed (muted : Muted twin session) (line : LineId) :
    KeepsMute twin session (twin.onLineClosed line) (session.onLineClosed line) := by
  have keeps := muted.repend none session.liveness.rebindFailed none
  simp only [Option.toList_none, List.map_nil, List.append_nil] at keeps
  rw [onLineClosed_unbound muted.connected muted.unbound,
    onLineClosed_unbound muted.twin_connected muted.twin_unbound]
  obtain ⟨delivery, closing, outputs, actions, rfl⟩ := muted.shape
  simp only
  split
  · exact keeps
  · exact muted.refl

theorem onLineCreated (muted : Muted twin session) (line : LineId) (sessionId : UInt32) :
    KeepsMute twin session (twin.onLineCreated line sessionId)
      (session.onLineCreated line sessionId) := by
  have keeps := muted.repend none session.liveness session.pending
  rw [onLineCreated_connected muted.connected, onLineCreated_connected muted.twin_connected]
  obtain ⟨delivery, closing, outputs, actions, rfl⟩ := muted.shape
  simp only
  split
  · rw [discard_eq, discard_eq]
    exact keeps
  · exact muted.refl

theorem attachCreated (muted : Muted twin session) (line : Line) :
    KeepsMute twin session (twin.attachCreated line) (session.attachCreated line) := by
  unfold Session.attachCreated
  rw [if_pos (by simp [muted.twin_connected]), if_pos (by simp [muted.connected])]
  exact muted.discard (some line)

theorem attachRebind (muted : Muted twin session) {line : Line}
    (outdated : line.index < session.lastLineIndex) (clientAck : UInt32) :
    KeepsMute twin session (twin.attachRebind line clientAck)
      (session.attachRebind line clientAck) := by
  have theirs : line.index < twin.lastLineIndex := by
    rw [muted.same]
    exact outdated
  unfold Session.attachRebind
  rw [if_neg (by simp [muted.twin_connected]), if_pos theirs,
    if_neg (by simp [muted.connected]), if_pos outdated]
  exact muted.discard (some line)

theorem onLineRebound (muted : Muted twin session) {line : LineId}
    (elsewhere : session.pending.map (·.id) ≠ some line) {serverAck : UInt32} :
    KeepsMute twin session (twin.onLineRebound line serverAck)
      (session.onLineRebound line serverAck) := by
  have theirs : twin.pending.map (·.id) ≠ some line := by
    rw [muted.same]
    exact elsewhere
  rw [onLineRebound_elsewhere elsewhere, onLineRebound_elsewhere theirs]
  exact muted.refl

theorem onPacket (muted : Muted twin session) (line : LineId) (packet : Packet P)
    (clock : UInt32) :
    KeepsMute twin session (twin.onPacket line packet clock)
      (session.onPacket line packet clock) := by
  unfold Session.onPacket
  rw [if_pos (by simp [muted.twin_unbound]), if_pos (by simp [muted.unbound])]
  exact muted.refl

/-- An ack that the twin takes is too high for the session. -/
theorem refuses (muted : Muted twin session) (inOrder : twin.delivery.InOrder)
    (few : session.delivery.buffer.length < UInt32.size) {ack : UInt32}
    (trusted : twin.delivery.checkResync ack = .ok ()) :
    session.delivery.checkResync ack =
      .error (.resyncRejected ack session.delivery.resyncLow session.delivery.lastSendId) :=
  muted.overrun.refuses few ((inOrder.checkResync_eq_ok_iff ack).mp trusted).1

theorem rejects (muted : Muted twin session) (inOrder : twin.delivery.InOrder)
    (few : session.delivery.buffer.length < UInt32.size) (trusts : twin.Trusts input)
    (resyncs : session.Resyncs input) :
    Breaks .resyncRejected session (session.step input) := by
  have same := muted.same
  cases input with
  | lineRebound line serverAck =>
      obtain ⟨connected, shaking⟩ := resyncs
      obtain ⟨pending, isPending, ours⟩ := Option.map_eq_some_iff.mp shaking
      have trusted := trusts muted.twin_connected (by rw [same]; exact shaking)
      have refused := muted.refuses inOrder few trusted
      have ends := breaks_rejected { session with pending := none } (some pending)
      change Breaks _ _ (session.onLineRebound line serverAck)
      unfold Session.onLineRebound
      simp only [isPending]
      rw [if_neg (fun other => other ours), if_neg (fun other => other connected), refused]
      exact ends.of_same rfl rfl
  | attachRebind line clientAck =>
      obtain ⟨connected, current⟩ := resyncs
      have trusted := trusts muted.twin_connected (by rw [same]; exact current)
      have refused := muted.refuses inOrder few trusted
      change Breaks _ _ (session.attachRebind line clientAck)
      unfold Session.attachRebind
      rw [if_neg (fun other => other connected), if_neg current, refused]
      exact breaks_rejected session (some line)
  | _ => exact absurd resyncs id

/-- Whatever comes to a session without ids, from others than its application, comes to its
twin as well or ends the session. -/
theorem step (muted : Muted twin session) (inOrder : twin.delivery.InOrder)
    (few : session.delivery.buffer.length < UInt32.size) (trusts : twin.Trusts input)
    (foreign : input.isLocal = false) :
    KeepsMute twin session (twin.step input) (session.step input) ∨
      Stops session (session.step input) := by
  by_cases resyncs : session.Resyncs input
  · exact .inr (muted.rejects inOrder few trusts resyncs).toStops
  · cases input with
    | send payload => cases foreign
    | close => cases foreign
    | closeImmediately reason =>
        have forced : session.step (.closeImmediately reason) = session.terminate reason :=
          if_neg muted.running
        rw [forced]
        exact .inr (stops_terminate session reason)
    | update time clock => exact muted.update time clock
    | bindPending line => exact .inl (muted.bindPending line)
    | lineCreated line sessionId => exact .inl (muted.onLineCreated line sessionId)
    | lineRebound line serverAck =>
        exact .inl (muted.onLineRebound fun shaking => resyncs ⟨muted.connected, shaking⟩)
    | attachCreated line => exact .inl (muted.attachCreated line)
    | attachRebind line clientAck =>
        have outdated : line.index < session.lastLineIndex :=
          Classical.byContradiction fun current => resyncs ⟨muted.connected, current⟩
        exact .inl (muted.attachRebind outdated clientAck)
    | lineClosed line => exact .inl (muted.onLineClosed line)
    | packet line packet clock => exact .inl (muted.onPacket line packet clock)

/-! ### What the application still does -/

theorem push (muted : Muted twin session) (inOrder : twin.delivery.InOrder)
    (body : ReliableBody P) (few : (session.delivery.push body).1.buffer.length < UInt32.size) :
    Muted twin { session with delivery := (session.delivery.push body).1 } := by
  have possible : twin.delivery.acked < UInt32.size := by
    have total := inOrder.acked_add_length
    have small := twin.delivery.lastSendId.toNat_lt_size
    omega
  obtain ⟨delivery, closing, outputs, actions, rfl⟩ := muted.shape
  exact
    { same := rfl
      connected := muted.connected
      unbound := muted.unbound
      active := muted.active
      begun := muted.begun
      recvId := muted.recvId
      overrun := muted.overrun.push possible body few
      delivered := muted.delivered
      sent := muted.sent }

theorem send (muted : Muted twin session) (inOrder : twin.delivery.InOrder) (payload : P)
    (few : (session.step (.send payload)).delivery.buffer.length < UInt32.size) :
    Muted twin (session.step (.send payload)) ∧
      dialedIn (session.step (.send payload)).outputs = dialedIn session.outputs := by
  by_cases finSent : session.closing.finSent
  · have ignored : session.step (.send payload) = session := by
      simp [Session.step, Session.send, muted.running, finSent, Except.toOption]
    rw [ignored]
    exact ⟨muted, rfl⟩
  · have hoarded : session.step (.send payload) =
        { session with delivery := (session.delivery.push (.data payload)).1 } := by
      simp [Session.step, Session.send, muted.running, finSent, Except.toOption,
        pushReliable_unbound session muted.unbound]
    rw [hoarded] at few ⊢
    exact ⟨muted.push inOrder _ few, rfl⟩

theorem close (muted : Muted twin session) (inOrder : twin.delivery.InOrder)
    (few : (session.step .close).delivery.buffer.length < UInt32.size) :
    Muted twin (session.step .close) ∧
      dialedIn (session.step .close).outputs = dialedIn session.outputs := by
  have closes : session.step .close = session.applyClose session.closing.localClose := by
    simp [Session.step, Session.close, muted.connected]
  rw [closes] at few ⊢
  rcases muted.begun with active | begun
  · rw [applyClose_unbound muted.running muted.unbound active] at few ⊢
    have hoarded := muted.push inOrder .fin few
    exact ⟨hoarded.begins rfl, by simp [dialedIn]⟩
  · have ignored : session.applyClose session.closing.localClose = session := by
      rw [CloseMachine.localClose_begun (by simp [begun]) (by simp [begun])]
      rfl
    rw [ignored]
    exact ⟨muted, rfl⟩

theorem hoards (muted : Muted twin session) (inOrder : twin.delivery.InOrder)
    (wish : input.isLocal) (few : (session.step input).delivery.buffer.length < UInt32.size) :
    Muted twin (session.step input) ∧
      dialedIn (session.step input).outputs = dialedIn session.outputs := by
  cases input with
  | send payload => exact muted.send inOrder payload few
  | close => exact muted.close inOrder few
  | _ => cases wish

theorem silent (muted : Muted twin session) (inOrder : twin.delivery.InOrder)
    (few : session.delivery.buffer.length < UInt32.size)
    (few' : (session.step input).delivery.buffer.length < UInt32.size)
    (trusts : twin.Trusts input) (line : LineId) :
    packetsOn line (session.step input).actions = packetsOn line session.actions := by
  cases wish : input.isLocal with
  | true =>
      have hoarded := (muted.hoards inOrder wish few').1
      exact (hoarded.sent line).trans (muted.sent line).symm
  | false =>
      rcases muted.step inOrder few trusts wish with keeps | stops
      · exact keeps.silent line
      · exact stops.sent line

end Muted

end Session

end ResumableSession
