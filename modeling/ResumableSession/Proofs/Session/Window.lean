import ResumableSession.Proofs.Session.Books
import Mathlib.Data.List.Basic
import Mathlib.Data.List.Induction

/-!
# Acks and the window of a rebind

What the send buffer holds does not depend on what any line was handed: whatever is done to
it, it holds the packets behind the last acknowledged one, in the order of their ids.  So an
ack, which is only compared with the front of the buffer, drops all that it covers and
nothing else, and the ack that a peer reports on a new line is in the window exactly if the
buffer can be handed out from there.
-/

namespace ResumableSession

namespace Delivery

variable {P : Type}

/-! ## Operations -/

/-- What can be done to the state of delivery. -/
inductive Operation (P : Type) where
  | push (body : ReliableBody P)
  | flush
  | accept (id : UInt32)
  | removeAcked (ack : UInt32)
  | rewindLine (ack : UInt32)
  | markAckSent (ack : UInt32)
deriving DecidableEq, Repr

/-- The state after an operation; one that fails changes nothing. -/
def perform (delivery : Delivery P) : Operation P → Delivery P
  | .push body => (delivery.push body).1
  | .flush =>
      match delivery.flush with
      | .ok (after, _) => after
      | .error _ => delivery
  | .accept id =>
      match delivery.accept id with
      | .ok (after, _) => after
      | .error _ => delivery
  | .removeAcked ack => (delivery.removeAcked ack).1
  | .rewindLine ack => delivery.rewindLine ack
  | .markAckSent ack => delivery.markAckSent ack

/-- The state after operations on a new one. -/
def performAll (operations : List (Operation P)) : Delivery P := operations.foldl perform {}

def Operation.body? : Operation P → Option (ReliableBody P)
  | .push body => some body
  | _ => none

/-- What operations push, in order; the body with id `n` is the `n`-th. -/
def pushedBy (operations : List (Operation P)) : List (ReliableBody P) :=
  operations.filterMap Operation.body?

theorem performAll_concat (operations : List (Operation P)) (operation : Operation P) :
    performAll (operations ++ [operation]) = (performAll operations).perform operation := by
  simp [performAll]

theorem pushedBy_concat (operations : List (Operation P)) (operation : Operation P) :
    pushedBy (operations ++ [operation]) = pushedBy operations ++ operation.body?.toList := by
  cases found : operation.body? <;> simp [pushedBy, found]

/-! ## What the buffer holds -/

/-- The send buffer holds the end of what was pushed, whatever the line was handed. -/
structure Retains (delivery : Delivery P) (pushed : List (ReliableBody P)) : Prop where
  buffered_le : delivery.buffer.length ≤ delivery.lastSendId.toNat
  ids : delivery.buffer.map (·.id.toNat) =
    List.range' (delivery.acked + 1) delivery.buffer.length
  counted : delivery.lastSendId.toNat = pushed.length
  bodies : delivery.buffer.map (·.body) = pushed.drop delivery.acked

/-- The buffer goes on where the line stands. -/
def InWindow (delivery : Delivery P) : Prop :=
  delivery.acked ≤ delivery.lastSendIdOfLine.toNat ∧
    delivery.lastSendIdOfLine.toNat ≤ delivery.lastSendId.toNat

private theorem Keeps.retains {delivery : Delivery P} {pushed : List (ReliableBody P)}
    (keeps : delivery.Keeps pushed) : delivery.Retains pushed where
  buffered_le := keeps.inOrder.buffered_le
  ids := keeps.inOrder.ids
  counted := keeps.counted
  bodies := keeps.bodies

namespace Retains

variable {delivery other : Delivery P} {pushed : List (ReliableBody P)}

theorem of_same (retains : delivery.Retains pushed) (buffer : other.buffer = delivery.buffer)
    (last : other.lastSendId = delivery.lastSendId) : other.Retains pushed := by
  have acked : other.acked = delivery.acked := by simp only [Delivery.acked, buffer, last]
  constructor
  · simpa only [buffer, last] using retains.buffered_le
  · simpa only [buffer, acked] using retains.ids
  · simpa only [last] using retains.counted
  · simpa only [buffer, acked] using retains.bodies

theorem keeps (retains : delivery.Retains pushed) (inside : delivery.InWindow) :
    delivery.Keeps pushed where
  inOrder := ⟨retains.buffered_le, retains.ids, inside.1, inside.2⟩
  counted := retains.counted
  bodies := retains.bodies

theorem relined (retains : delivery.Retains pushed) :
    Keeps { delivery with lastSendIdOfLine := delivery.lastSendId } pushed := by
  have same : Retains { delivery with lastSendIdOfLine := delivery.lastSendId } pushed :=
    retains.of_same rfl rfl
  exact same.keeps ⟨Nat.sub_le _ _, Nat.le_refl _⟩

theorem push (retains : delivery.Retains pushed) (room : pushed.length + 1 < UInt32.size)
    (body : ReliableBody P) : (delivery.push body).1.Retains (pushed ++ [body]) :=
  (retains.relined.push room body).retains.of_same rfl rfl

theorem removeAcked (retains : delivery.Retains pushed) (ack : UInt32) :
    (delivery.removeAcked ack).1.Retains pushed :=
  (retains.relined.removeAcked ack rfl).retains.of_same rfl rfl

/-- A flush hands over what the line lacks, or fails and says by how much the line is out of
the window. -/
theorem flush_cases (retains : delivery.Retains pushed) :
    delivery.InWindow ∧ delivery.flush = .ok (delivery.handed, delivery.unhanded) ∨
      ¬delivery.InWindow ∧
        delivery.flush = .error (.bookkeeping delivery.unsent delivery.lastSendId
          delivery.lastSendIdOfLine delivery.buffer.length) := by
  by_cases inside : delivery.InWindow
  · exact .inl ⟨inside, (retains.keeps inside).inOrder.flush_eq⟩
  · refine .inr ⟨inside, if_pos ?_⟩
    have total := retains.relined.inOrder.acked_add_length
    simp only [InWindow, Delivery.acked, unsent] at *
    omega

theorem flushed (retains : delivery.Retains pushed) :
    (delivery.perform .flush).Retains pushed := by
  rcases retains.flush_cases with ⟨inside, flushes⟩ | ⟨_, fails⟩
  · simpa only [perform, flushes] using (retains.keeps inside).handed.retains
  · simpa only [perform, fails] using retains

theorem perform (retains : delivery.Retains pushed) (operation : Operation P)
    (room : (pushed ++ operation.body?.toList).length < UInt32.size) :
    (delivery.perform operation).Retains (pushed ++ operation.body?.toList) := by
  cases operation with
  | push body => exact retains.push (by simpa [Operation.body?] using room) body
  | flush => simpa [Operation.body?] using retains.flushed
  | accept id =>
      have same : (delivery.perform (.accept id)).buffer = delivery.buffer ∧
          (delivery.perform (.accept id)).lastSendId = delivery.lastSendId := by
        simp only [Delivery.perform, accept]
        grind
      simpa [Operation.body?] using retains.of_same same.1 same.2
  | removeAcked ack =>
      simpa [Operation.body?, Delivery.perform] using retains.removeAcked ack
  | rewindLine ack | markAckSent ack =>
      simp only [Operation.body?, Option.toList_none, List.append_nil]
      exact retains.of_same rfl rfl

end Retains

private theorem retains_performAll (operations : List (Operation P)) :
    (pushedBy operations).length < UInt32.size →
      (performAll operations).Retains (pushedBy operations) := by
  induction operations using List.reverseRecOn with
  | nil =>
      intro _
      constructor <;> simp [performAll, pushedBy, acked]
  | append_singleton operations operation induction =>
      intro room
      rw [pushedBy_concat] at room ⊢
      rw [performAll_concat]
      refine (induction ?_).perform operation room
      rw [List.length_append] at room
      omega

/-! ## Cumulative acks -/

/-- If ids grow towards the end, the first packet that is not covered ends what is. -/
theorem dropWhile_eq_filter {buffer : List (ReliablePacket P)}
    (grows : buffer.Pairwise (·.id < ·.id)) (ack : UInt32) :
    (buffer.dropWhile fun packet => packet.id ≤ ack) =
      buffer.filter fun packet => ack < packet.id := by
  induction grows with
  | nil => rfl
  | @cons packet buffer above _ induction =>
      by_cases covered : packet.id ≤ ack
      · have dropped : ¬ack < packet.id := UInt32.not_lt.mpr covered
        simpa [covered, dropped] using induction
      · have uncovered : ack < packet.id := UInt32.not_le.mp covered
        have rest : (buffer.filter fun later => ack < later.id) = buffer := by
          apply List.filter_eq_self.mpr
          intro later member
          exact decide_eq_true (UInt32.lt_trans uncovered (above later member))
        simp [covered, uncovered, rest]

private theorem removed_add_remaining (delivery : Delivery P) (ack : UInt32) :
    (delivery.removeAcked ack).2 + (delivery.removeAcked ack).1.buffer.length =
      delivery.buffer.length := by
  have shorter : (delivery.removeAcked ack).1.buffer.length ≤ delivery.buffer.length :=
    (List.dropWhile_sublist _).length_le
  exact Nat.sub_add_cancel shorter

private theorem Retains.removeAcked_eq {delivery : Delivery P} {pushed : List (ReliableBody P)}
    (retains : delivery.Retains pushed) (ack : UInt32) :
    delivery.removeAcked ack =
      ({ delivery with buffer := delivery.buffer.filter fun packet => ack < packet.id },
        (delivery.buffer.filter fun packet => packet.id ≤ ack).length) := by
  have grows : delivery.buffer.Pairwise (·.id < ·.id) := by
    have ids : (delivery.buffer.map (·.id.toNat)).Pairwise (· < ·) := by
      rw [retains.ids]
      exact List.pairwise_lt_range'
    simpa only [List.pairwise_map, UInt32.lt_iff_toNat_lt] using ids
  have remaining : (delivery.removeAcked ack).1.buffer =
      delivery.buffer.filter fun packet => ack < packet.id := dropWhile_eq_filter grows ack
  have uncovered : (delivery.buffer.filter fun packet => !decide (packet.id ≤ ack)) =
      delivery.buffer.filter fun packet => ack < packet.id := by
    apply List.filter_congr
    intro packet _
    simp only [← UInt32.not_le, decide_not]
  have parts := List.length_eq_length_filter_add (l := delivery.buffer)
    fun packet => decide (packet.id ≤ ack)
  have total := delivery.removed_add_remaining ack
  rw [uncovered] at parts
  rw [remaining] at total
  refine Prod.ext ?_ (by omega)
  simp only [← remaining]
  rfl

private theorem Retains.removeAcked_removeAcked {delivery : Delivery P}
    {pushed : List (ReliableBody P)} (retains : delivery.Retains pushed)
    (first second : UInt32) :
    ((delivery.removeAcked first).1.removeAcked second).1 =
        (delivery.removeAcked (max first second)).1 ∧
      (delivery.removeAcked first).2 + ((delivery.removeAcked first).1.removeAcked second).2 =
        (delivery.removeAcked (max first second)).2 := by
  have larger (id : UInt32) : max first second < id ↔ first < id ∧ second < id := by
    have cases : max first second = if first ≤ second then second else first := rfl
    simp only [cases, UInt32.lt_iff_toNat_lt, UInt32.le_iff_toNat_le]
    split <;> omega
  have states : ((delivery.removeAcked first).1.removeAcked second).1 =
      (delivery.removeAcked (max first second)).1 := by
    rw [(retains.removeAcked first).removeAcked_eq, retains.removeAcked_eq first,
      retains.removeAcked_eq]
    simp only [larger, List.filter_filter, Bool.decide_and, Bool.and_comm]
  have stepwise := delivery.removed_add_remaining first
  have again := (delivery.removeAcked first).1.removed_add_remaining second
  have atOnce := delivery.removed_add_remaining (max first second)
  rw [states] at again
  exact ⟨states, by omega⟩

private theorem removeAcked_push {delivery : Delivery P} {ack : UInt32}
    (given : ack ≤ delivery.lastSendId)
    (room : delivery.lastSendId.toNat + 1 < UInt32.size) (body : ReliableBody P) :
    (delivery.push body).1.removeAcked ack =
        (((delivery.removeAcked ack).1.push body).1, (delivery.removeAcked ack).2) ∧
      ((delivery.removeAcked ack).1.push body).2 = (delivery.push body).2 := by
  have behind : ¬delivery.lastSendId + 1 ≤ ack := by
    have next := toNat_succ room
    rw [UInt32.le_iff_toNat_le] at *
    omega
  have kept : (delivery.push body).1.buffer.dropWhile (fun packet => packet.id ≤ ack) =
      (delivery.buffer.dropWhile fun packet => packet.id ≤ ack) ++
        [⟨delivery.lastSendId + 1, 0, body⟩] := by
    simp only [push, List.dropWhile_append]
    split
    · next empty => simp [List.isEmpty_iff.mp empty, behind]
    · rfl
  refine ⟨?_, rfl⟩
  simp only [Delivery.removeAcked, kept]
  simp [push]

/-- Once the ids are used up, the next one is covered by any ack. -/
example : (Delivery.push { lastSendId := 0xFFFFFFFF } (.data 10)).1.removeAcked 0xFFFFFFFF =
    (⟨[], 0, 0, 0, 0⟩, 1) := by decide

/-! ## Going on from an ack -/

/-- What was pushed behind `ack`, as it is sent by someone who has received up to
`received`. -/
def packetsBehind (pushed : List (ReliableBody P)) (ack received : UInt32) :
    List (ReliablePacket P) :=
  ((pushed.drop ack.toNat).zipIdx (ack.toNat + 1)).map fun (body, id) =>
    ⟨.ofNat id, received, body⟩

/-- The state of a new line, before its first flush. -/
def resumed (delivery : Delivery P) (ack : UInt32) : Delivery P :=
  (delivery.removeAcked ack).1.rewindLine ack

private theorem flush_again {delivery : Delivery P}
    (handed : delivery.lastSendIdOfLine = delivery.lastSendId) :
    delivery.flush = .ok (delivery, []) := by
  obtain ⟨buffer, last, line, received, told⟩ := delivery
  cases handed
  simp [flush, unsent]

private theorem Keeps.unhanded_eq {delivery : Delivery P} {pushed : List (ReliableBody P)}
    (keeps : delivery.Keeps pushed) :
    delivery.unhanded =
      packetsBehind pushed delivery.lastSendIdOfLine delivery.lastRecvId := by
  have lower := keeps.inOrder.acked_le_line
  have total := keeps.inOrder.acked_add_length
  apply List.ext_getElem
  · simp only [packetsBehind, List.length_map, List.length_zipIdx, List.length_drop,
      keeps.inOrder.length_unhanded, keeps.counted]
  · intro index inside _
    have buffered : delivery.lastSendIdOfLine.toNat - delivery.acked + index <
        delivery.buffer.length := by
      rw [keeps.inOrder.length_unhanded] at inside
      omega
    have number : delivery.buffer[delivery.lastSendIdOfLine.toNat - delivery.acked + index].id.toNat =
        delivery.lastSendIdOfLine.toNat + 1 + index := by
      rw [keeps.inOrder.id_getElem buffered]
      omega
    have id := congrArg UInt32.ofNat number
    have body := keeps.body_eq (List.getElem_mem buffered)
    rw [UInt32.ofNat_toNat] at id
    rw [number, Nat.add_right_comm, Nat.add_sub_cancel] at body
    obtain ⟨known, body⟩ := List.getElem?_eq_some_iff.mp body
    simp only [unhanded, packetsBehind, List.getElem_map, List.getElem_drop, List.getElem_zipIdx,
      id, body]

namespace Retains

variable {delivery : Delivery P} {pushed : List (ReliableBody P)}

theorem resumed (retains : delivery.Retains pushed) (ack : UInt32) :
    (delivery.resumed ack).Retains pushed :=
  (retains.removeAcked ack).of_same rfl rfl

/-- The ack that is reported is checked for just what the first flush needs. -/
theorem checkResync_eq_ok_iff_resumed (retains : delivery.Retains pushed) (ack : UInt32) :
    delivery.checkResync ack = .ok () ↔ (delivery.resumed ack).InWindow := by
  have window : delivery.checkResync ack = .ok () ↔
      delivery.acked ≤ ack.toNat ∧ ack.toNat ≤ delivery.lastSendId.toNat :=
    retains.relined.inOrder.checkResync_eq_ok_iff ack
  have moved : (delivery.resumed ack).acked =
      max delivery.acked (min ack.toNat delivery.lastSendId.toNat) :=
    retains.relined.inOrder.acked_removeAcked ack
  have bound : delivery.acked ≤ delivery.lastSendId.toNat := Nat.sub_le _ _
  have line : (delivery.resumed ack).lastSendIdOfLine = ack := rfl
  have last : (delivery.resumed ack).lastSendId = delivery.lastSendId := rfl
  apply window.trans
  rw [InWindow, moved, line, last]
  omega

/-- A new line that starts inside the window is handed what follows its ack, once. -/
theorem resends (retains : delivery.Retains pushed) {ack : UInt32}
    (inside : delivery.checkResync ack = .ok ()) :
    ∃ after,
      (delivery.resumed ack).flush =
        .ok (after, packetsBehind pushed ack delivery.lastRecvId) ∧
      after.flush = .ok (after, []) := by
  have fits := (retains.checkResync_eq_ok_iff_resumed ack).mp inside
  have keeps := (retains.resumed ack).keeps fits
  refine ⟨(delivery.resumed ack).handed, ?_, flush_again rfl⟩
  rw [keeps.inOrder.flush_eq, keeps.unhanded_eq]
  rfl

theorem rejects (retains : delivery.Retains pushed) {ack : UInt32}
    (outside : delivery.checkResync ack ≠ .ok ()) :
    (delivery.resumed ack).flush =
      .error (.bookkeeping (delivery.resumed ack).unsent delivery.lastSendId ack
        (delivery.resumed ack).buffer.length) := by
  have unfit := mt (retains.checkResync_eq_ok_iff_resumed ack).mpr outside
  rcases (retains.resumed ack).flush_cases with ⟨fit, _⟩ | ⟨_, fails⟩
  · exact (unfit fit).elim
  · exact fails

end Retains

/-- Acks drop what they cover, and a new line goes on from an ack exactly if the ack is in
the window. -/
structure Resumes (delivery : Delivery P) (pushed : List (ReliableBody P)) : Prop where
  counted : delivery.lastSendId.toNat = pushed.length
  removes : ∀ ack, delivery.removeAcked ack =
    ({ delivery with buffer := delivery.buffer.filter fun packet => ack < packet.id },
      (delivery.buffer.filter fun packet => packet.id ≤ ack).length)
  cumulative : ∀ first second,
    ((delivery.removeAcked first).1.removeAcked second).1 =
        (delivery.removeAcked (max first second)).1 ∧
      (delivery.removeAcked first).2 + ((delivery.removeAcked first).1.removeAcked second).2 =
        (delivery.removeAcked (max first second)).2
  /-- The packet that is pushed is itself among the 2^32 - 1 that there are ids for. -/
  commutes : ∀ ack body, ack ≤ delivery.lastSendId → pushed.length + 1 < UInt32.size →
    (delivery.push body).1.removeAcked ack =
        (((delivery.removeAcked ack).1.push body).1, (delivery.removeAcked ack).2) ∧
      ((delivery.removeAcked ack).1.push body).2 = (delivery.push body).2
  accepted : ∀ ack, delivery.checkResync ack = .ok () ↔ (delivery.resumed ack).flush.isOk
  resent : ∀ ack, delivery.checkResync ack = .ok () → ∃ after,
    (delivery.resumed ack).flush =
        .ok (after, packetsBehind pushed ack delivery.lastRecvId) ∧
      after.flush = .ok (after, [])
  rejected : ∀ ack, delivery.checkResync ack ≠ .ok () →
    ∃ unsent last line buffered,
      (delivery.resumed ack).flush = .error (.bookkeeping unsent last line buffered)

private theorem Retains.resumes {delivery : Delivery P} {pushed : List (ReliableBody P)}
    (retains : delivery.Retains pushed) : delivery.Resumes pushed where
  counted := retains.counted
  removes := retains.removeAcked_eq
  cumulative := retains.removeAcked_removeAcked
  commutes := by
    intro ack body given room
    rw [← retains.counted] at room
    exact removeAcked_push given room body
  accepted := by
    intro ack
    constructor
    · intro inside
      obtain ⟨after, flushed, _⟩ := retains.resends inside
      simp [flushed, Except.isOk, Except.toBool]
    · intro flushed
      by_contra outside
      simp [retains.rejects outside, Except.isOk, Except.toBool] at flushed
  resent := fun _ inside => retains.resends inside
  rejected := fun _ outside => ⟨_, _, _, _, retains.rejects outside⟩

/-- However a state is reached, its acks are cumulative and its window is what a new line can
go on from. -/
theorem performAll_resumes (operations : List (Operation P))
    (room : (pushedBy operations).length < UInt32.size) :
    (performAll operations).Resumes (pushedBy operations) := by
  have retains := retains_performAll operations room
  exact retains.resumes

/-- A line that was handed ids that were never given out cannot be flushed, until it is
replaced. -/
def astray : List (Operation Nat) :=
  [.push (.data 10), .push (.data 20), .rewindLine 7, .flush, .accept 1, .removeAcked 1,
    .push .fin]

theorem astray_resumes :
    (pushedBy astray).length < UInt32.size ∧
      ∃ after,
        ((performAll astray).resumed 2).flush = .ok (after, [⟨3, 1, .fin⟩]) ∧
          after.flush = .ok (after, []) := by
  have room : (pushedBy astray).length < UInt32.size := by decide
  have inside : (performAll astray).checkResync 2 = .ok () := rfl
  exact ⟨room, (performAll_resumes astray room).resent 2 inside⟩

end Delivery

end ResumableSession
