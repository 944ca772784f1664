import ResumableSession.Proofs.Session.Advance

/-!
# The parts of a step move a session on

One lemma for each part: it moves a session on, whatever the arguments, as long
as the books are kept and ids do not wrap.
-/

namespace ResumableSession

namespace Session

variable {P : Type} {heard : Nat} {reasons : List CloseReason}
  {pushed : List (ReliableBody P)} {session : Session P}

theorem advances_emit (books : Books pushed session) {output : Output P}
    (open_ : ∀ reason, output ≠ .closed reason) (undialed : dialedIn [output] = []) :
    Advances heard reasons pushed pushed session (session.emit output) := by
  refine Advances.still books ?_ rfl (fun timeWait => .inl timeWait) (fun _ => rfl)
  exact
    { (Frame.refl session : Frame reasons session session) with
      outputs := List.prefix_append _ _
      dials := by simp [emit, undialed]
      ends := by
        intro reason member
        rcases List.mem_append.mp member with before | new
        · exact .inl before
        · exact (open_ reason (List.mem_singleton.mp new).symm).elim }

theorem advances_terminate (books : Books pushed session) {reason : CloseReason}
    (expected : reason ∈ reasons) :
    Advances heard reasons pushed pushed session (session.terminate reason) := by
  rw [terminate_eq]
  refine Advances.still books ?_ rfl (fun timeWait => .inl timeWait) (fun line => by simp)
  exact
    { current := .inr rfl
      phase := .inr rfl
      alive := by simp
      pending := .inr rfl
      index := rfl
      limits := rfl
      outputs := List.prefix_append _ _
      dials := by simp [dialedIn]
      ends := by
        intro other member
        rcases List.mem_append.mp member with before | new
        · exact .inl before
        · have same : other = reason := by simpa using new
          exact .inr (same ▸ expected)
      idle := fun _ _ _ => ⟨rfl, rfl⟩ }

theorem advances_dropLine (books : Books pushed session) :
    Advances heard reasons pushed pushed session session.dropLine := by
  rw [dropLine_eq]
  cases current : session.current with
  | none =>
      simp only [Option.isNone_none, if_true]
      exact .refl books
  | some line =>
      have connected : session.phase = .connected := books.connected (by simp [current])
      simp only [Option.isNone_some, Bool.false_eq_true, if_false]
      refine Advances.still books ?_ rfl (fun timeWait => .inl timeWait) (fun line => by simp)
      exact
        { Frame.refl session with
          current := .inr rfl
          alive := fun _ => rfl
          idle := by
            intro _ _ resting
            simp [connected] at resting }

theorem advances_closing (books : Books pushed session) {closing : CloseMachine}
    (lingering : closing.state = .timeWait →
      session.closing.state = .timeWait ∨ session.current.isSome) :
    Advances heard reasons pushed pushed session { session with closing } := by
  refine Advances.still books ?_ rfl lingering (fun _ => rfl)
  exact { Frame.refl session with }

theorem advances_liveness (books : Books pushed session) {liveness : Liveness}
    (limits : liveness.rebindLimits = session.liveness.rebindLimits)
    (idle : session.liveness.rebind = .stopped ∧ session.liveness.cooltime = .stopped →
      liveness.rebind = .stopped ∧ liveness.cooltime = .stopped) :
    Advances heard reasons pushed pushed session { session with liveness } := by
  refine Advances.still books ?_ rfl (fun timeWait => .inl timeWait) (fun _ => rfl)
  exact
    { Frame.refl session with
      limits
      idle := fun _ resting atRest => idle (resting atRest) }

theorem advances_keepalive (books : Books pushed session) {keepalive : Keepalive} :
    Advances heard reasons pushed pushed session { session with keepalive } := by
  refine Advances.still books ?_ rfl (fun timeWait => .inl timeWait) (fun _ => rfl)
  exact { Frame.refl session with }

theorem advances_sendOnCurrent (books : Books pushed session) {packet : Packet P}
    (ordinary : packet.isOrdinary)
    (truthful : packet.Truthful pushed session.delivery.lastRecvId.toNat)
    (unnumbered : packet.reliableId? = none) :
    Advances heard reasons pushed pushed session (session.sendOnCurrent packet) := by
  rw [sendOnCurrent_eq]
  exact
    { Frame.refl session with
      books := { books with }
      grows := List.prefix_refl _
      received := Nat.le_refl _
      acked := Nat.le_refl _
      acked_le := Nat.le_max_left _ _
      unheard := fun _ => rfl
      sends := by
        refine ⟨[packet], pushed.length, .control _ ordinary truthful unnumbered, ?_,
          fun _ => rfl⟩
        intro line
        cases current : session.current with
        | none => simp
        | some bound => simp [packetsOn_send] }

private theorem advances_markAckSent (books : Books pushed session) (ack : UInt32) :
    Advances heard reasons pushed pushed session
      { session with delivery := session.delivery.markAckSent ack } :=
  { Frame.refl session with
    books :=
      { keeps :=
          { inOrder :=
              { buffered_le := books.keeps.inOrder.buffered_le
                ids := books.keeps.inOrder.ids
                acked_le_line := books.keeps.inOrder.acked_le_line
                line_le_last := books.keeps.inOrder.line_le_last }
            counted := books.keeps.counted
            bodies := books.keeps.bodies }
        inStep := books.inStep
        lingering := books.lingering
        untouched := books.untouched
        connected := books.connected }
    grows := List.prefix_refl _
    received := Nat.le_refl _
    acked := Nat.le_refl _
    acked_le := Nat.le_max_left _ _
    unheard := fun _ => rfl
    sends := ⟨[], pushed.length, .nil _, fun line => by simp, fun _ => rfl⟩ }

theorem advances_sendAck (books : Books pushed session) :
    Advances heard reasons pushed pushed session session.sendAck := by
  unfold sendAck
  by_cases unbound : session.current.isNone
  · rw [if_pos unbound]
    exact .refl books
  · rw [if_neg unbound]
    have marked : Advances heard reasons pushed pushed session
        { session with
          delivery := session.delivery.markAckSent session.delivery.lastRecvId } :=
      advances_markAckSent books _
    have sent : Advances heard reasons pushed pushed
        { session with
          delivery := session.delivery.markAckSent session.delivery.lastRecvId }
        (sendOnCurrent
          { session with
            delivery := session.delivery.markAckSent session.delivery.lastRecvId }
          (.ack session.delivery.lastRecvId)) :=
      advances_sendOnCurrent marked.books rfl (Nat.le_refl _) rfl
    simp only [sendOnCurrent_eq] at sent ⊢
    exact marked.trans sent

theorem advances_sendPing (books : Books pushed session) (clock : UInt32) :
    Advances heard reasons pushed pushed session (session.sendPing clock) := by
  unfold sendPing
  by_cases unbound : session.current.isNone
  · rw [if_pos unbound]
    exact .refl books
  · rw [if_neg unbound]
    have recorded : Advances heard reasons pushed pushed session
        { session with keepalive := session.keepalive.recordPing clock } :=
      advances_keepalive books
    have truthful : (Packet.pingRequest clock : Packet P).Truthful pushed
        session.delivery.lastRecvId.toNat := trivial
    exact recorded.trans (advances_sendOnCurrent recorded.books rfl truthful rfl)

theorem advances_pushReliable (books : Books pushed session)
    (room : pushed.length + 1 < UInt32.size)
    (lingering : session.closing.state = .timeWait → session.current.isSome)
    (body : ReliableBody P) :
    Advances heard reasons pushed (pushed ++ [body]) session
      (session.pushReliable body).1 := by
  have keeps : (session.delivery.push body).1.Keeps (pushed ++ [body]) :=
    books.keeps.push room body
  have sameAcked : (session.delivery.push body).1.acked = session.delivery.acked :=
    Delivery.acked_push (by rw [books.keeps.counted]; exact room) body
  have counted : (session.delivery.push body).1.lastSendId.toNat =
      session.delivery.lastSendId.toNat + 1 :=
    Delivery.toNat_succ (by rw [books.keeps.counted]; exact room)
  have unfolded : (session.pushReliable body).1 =
      flush { session with delivery := (session.delivery.push body).1 } := rfl
  rw [unfolded, flush_eq _ keeps.inOrder]
  cases current : session.current with
  | none =>
      simp only [Option.isSome_none, Bool.false_eq_true, if_false, Option.toList_none,
        List.flatMap_nil, List.append_nil]
      exact
        { (Frame.refl session : Frame reasons session session) with
          books :=
            { keeps
              inStep := by simp
              lingering := by
                intro timeWait
                have bound := lingering timeWait
                simp [current] at bound
              untouched := books.untouched
              connected := by simp }
          current := .inr rfl
          alive := by simp
          idle := fun _ resting atRest => resting (by simpa [current] using atRest)
          grows := List.prefix_append _ _
          received := Nat.le_refl _
          acked := Nat.le_of_eq sameAcked.symm
          acked_le := by
            rw [sameAcked]
            exact Nat.le_max_left _ _
          unheard := fun _ => sameAcked
          sends := ⟨[], pushed.length, .nil _, fun line => by simp, by simp⟩ }
  | some line =>
      have connected : session.phase = .connected := books.connected (by simp [current])
      simp only [Option.isSome_some, if_true, Option.toList_some, List.flatMap_cons,
        List.flatMap_nil, List.append_nil]
      have sameHandedAcked : (session.delivery.push body).1.handed.acked =
          session.delivery.acked := by
        rw [keeps.inOrder.acked_handed, sameAcked]
      exact
        { (Frame.refl session : Frame reasons session session) with
          books :=
            { keeps := keeps.handed
              inStep := fun _ => rfl
              lingering := fun _ => rfl
              untouched := by simp [connected]
              connected := fun _ => connected }
          current := .inl current.symm
          alive := fun _ => rfl
          idle := fun _ resting _ => resting (.inl (by simp [current]))
          grows := List.prefix_append _ _
          received := Nat.le_refl _
          acked := Nat.le_of_eq sameHandedAcked.symm
          acked_le := by
            rw [sameHandedAcked]
            exact Nat.le_max_left _ _
          unheard := by simp [current]
          sends := by
            have stream := keeps.stream_unhanded
            have start : (session.delivery.push body).1.lastSendIdOfLine.toNat =
                pushed.length := by
              rw [← books.keeps.counted, ← books.inStep (by simp [current])]
              rfl
            rw [start] at stream
            refine ⟨_, _, stream, ?_, ?_⟩
            · intro target
              simp only [packetsOn_append, packetsOn_map_send, current, Option.map_some,
                Option.some.injEq]
            · intro _
              rw [keeps.counted] }

theorem advances_retire (books : Books pushed session) {ack : UInt32}
    (heardIt : ack.toNat ≤ heard) (bound : session.current.isSome) :
    Advances heard reasons pushed pushed session
      { session with delivery := (session.delivery.removeAcked ack).1 } := by
  have handed := books.inStep bound
  have keeps := books.keeps.removeAcked ack handed
  have moved := books.keeps.inOrder.acked_removeAcked ack
  exact
    { (Frame.refl session : Frame reasons session session) with
      books :=
        { keeps
          inStep := fun _ => handed
          lingering := fun _ => handed
          untouched := books.untouched
          connected := books.connected }
      grows := List.prefix_refl _
      received := Nat.le_refl _
      acked := by
        rw [moved]
        exact Nat.le_max_left _ _
      acked_le := by
        rw [moved]
        omega
      unheard := by
        intro unbound
        simp [unbound] at bound
      sends := ⟨[], pushed.length, .nil _, fun line => by simp, fun _ => rfl⟩ }

end Session

end ResumableSession
