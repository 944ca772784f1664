import ResumableSession.Session.Delivery

/-!
# The send buffer

While ids do not wrap, the buffer holds the ids that follow the last
acknowledged one, without a gap, up to the last id given out.  The bound line
has been handed some of them, in order.  Every operation of reliable delivery
is described by what it does to the acknowledged id and to the handed one.
-/

namespace ResumableSession

namespace Delivery

variable {P : Type}

/-- The last id that the peer is known to have: the buffer starts behind it. -/
def acked (delivery : Delivery P) : Nat :=
  delivery.lastSendId.toNat - delivery.buffer.length

/-- The buffer holds consecutive ids up to the last one given out, and the
bound line was handed a part of the ids that reaches past the acknowledged ones. -/
structure InOrder (delivery : Delivery P) : Prop where
  buffered_le : delivery.buffer.length ≤ delivery.lastSendId.toNat
  ids : delivery.buffer.map (·.id.toNat) =
    List.range' (delivery.acked + 1) delivery.buffer.length
  acked_le_line : delivery.acked ≤ delivery.lastSendIdOfLine.toNat
  line_le_last : delivery.lastSendIdOfLine.toNat ≤ delivery.lastSendId.toNat

/-- The packets that the bound line has not been handed, with the latest ack. -/
def unhanded (delivery : Delivery P) : List (ReliablePacket P) :=
  (delivery.buffer.drop (delivery.lastSendIdOfLine.toNat - delivery.acked)).map
    fun packet => { packet with ack := delivery.lastRecvId }

/-- The state after the bound line was handed all there is. -/
def handed (delivery : Delivery P) : Delivery P :=
  { delivery with
    buffer :=
      delivery.buffer.take (delivery.lastSendIdOfLine.toNat - delivery.acked) ++
        delivery.unhanded
    lastSendIdOfLine := delivery.lastSendId
    lastAckSent :=
      if delivery.unhanded.isEmpty then delivery.lastAckSent else delivery.lastRecvId }

theorem toNat_succ {id : UInt32} (room : id.toNat + 1 < UInt32.size) :
    (id + 1).toNat = id.toNat + 1 := by
  rw [UInt32.toNat_add]
  exact Nat.mod_eq_of_lt room

theorem acked_push {delivery : Delivery P}
    (room : delivery.lastSendId.toNat + 1 < UInt32.size) (body : ReliableBody P) :
    (delivery.push body).1.acked = delivery.acked := by
  simp only [push, acked, toNat_succ room, List.length_append, List.length_singleton]
  omega

theorem inOrder_empty : InOrder ({} : Delivery P) := by
  constructor <;> simp [acked]

namespace InOrder

variable {delivery : Delivery P}

theorem acked_add_length (inOrder : delivery.InOrder) :
    delivery.acked + delivery.buffer.length = delivery.lastSendId.toNat := by
  have buffered := inOrder.buffered_le
  simp only [acked]
  omega

theorem id_getElem (inOrder : delivery.InOrder) {index : Nat}
    (inside : index < delivery.buffer.length) :
    delivery.buffer[index].id.toNat = delivery.acked + 1 + index := by
  have atIndex := congrArg (fun ids => ids[index]?) inOrder.ids
  simpa [inside] using atIndex

theorem id_pos (inOrder : delivery.InOrder) {packet : ReliablePacket P}
    (member : packet ∈ delivery.buffer) : 0 < packet.id.toNat := by
  obtain ⟨index, inside, rfl⟩ := List.getElem_of_mem member
  rw [inOrder.id_getElem inside]
  omega

theorem flush_eq (inOrder : delivery.InOrder) :
    delivery.flush = .ok (delivery.handed, delivery.unhanded) := by
  have ackedBound := inOrder.acked_le_line
  have lineBound := inOrder.line_le_last
  have total := inOrder.acked_add_length
  have kept : delivery.buffer.length - delivery.unsent.toNat =
      delivery.lastSendIdOfLine.toNat - delivery.acked := by
    simp only [unsent]
    omega
  have fits : ¬(delivery.unsent < 0 ∨ (delivery.buffer.length : Int) < delivery.unsent) := by
    simp only [unsent]
    omega
  rw [flush, if_neg fits]
  simp only [kept]
  rfl

theorem length_unhanded (inOrder : delivery.InOrder) :
    delivery.unhanded.length =
      delivery.lastSendId.toNat - delivery.lastSendIdOfLine.toNat := by
  have ackedBound := inOrder.acked_le_line
  have total := inOrder.acked_add_length
  simp only [unhanded, List.length_map, List.length_drop]
  omega

theorem ids_unhanded (inOrder : delivery.InOrder) :
    delivery.unhanded.map (·.id.toNat) =
      List.range' (delivery.lastSendIdOfLine.toNat + 1) delivery.unhanded.length := by
  have ackedBound := inOrder.acked_le_line
  have lengths := inOrder.length_unhanded
  have total := inOrder.acked_add_length
  calc
    delivery.unhanded.map (·.id.toNat)
      = (delivery.buffer.map (·.id.toNat)).drop
          (delivery.lastSendIdOfLine.toNat - delivery.acked) := by
        simp only [unhanded, List.map_map, List.map_drop]
        rfl
    _ = List.range' (delivery.lastSendIdOfLine.toNat + 1) delivery.unhanded.length := by
        rw [inOrder.ids, List.drop_range', lengths]
        congr 1 <;> omega

theorem length_handed (inOrder : delivery.InOrder) :
    delivery.handed.buffer.length = delivery.buffer.length := by
  have lengths := inOrder.length_unhanded
  have ackedBound := inOrder.acked_le_line
  have lineBound := inOrder.line_le_last
  have total := inOrder.acked_add_length
  simp only [handed, List.length_append, List.length_take, lengths]
  omega

theorem map_handed {α : Type} (view : ReliablePacket P → α)
    (stampless : ∀ (packet : ReliablePacket P) (ack : UInt32),
      view { packet with ack } = view packet) :
    delivery.handed.buffer.map view = delivery.buffer.map view := by
  have stamped : (delivery.unhanded).map view =
      (delivery.buffer.drop (delivery.lastSendIdOfLine.toNat - delivery.acked)).map view := by
    simp [unhanded, Function.comp_def, stampless]
  simp only [handed, List.map_append, stamped]
  rw [← List.map_append, List.take_append_drop]

theorem acked_handed (inOrder : delivery.InOrder) :
    delivery.handed.acked = delivery.acked := by
  simp only [acked, inOrder.length_handed]
  rfl

theorem handed (inOrder : delivery.InOrder) : delivery.handed.InOrder where
  buffered_le := by
    rw [inOrder.length_handed]
    exact inOrder.buffered_le
  ids := by
    rw [map_handed (·.id.toNat) (fun _ _ => rfl), inOrder.length_handed,
      inOrder.acked_handed]
    exact inOrder.ids
  acked_le_line := by
    rw [inOrder.acked_handed]
    exact Nat.le_trans inOrder.acked_le_line inOrder.line_le_last
  line_le_last := Nat.le_refl _

theorem push (inOrder : delivery.InOrder)
    (room : delivery.lastSendId.toNat + 1 < UInt32.size) (body : ReliableBody P) :
    (delivery.push body).1.InOrder where
  buffered_le := by
    have buffered := inOrder.buffered_le
    simp only [Delivery.push, toNat_succ room, List.length_append, List.length_singleton]
    omega
  ids := by
    have total := inOrder.acked_add_length
    rw [acked_push room]
    simp only [Delivery.push, List.map_append, List.map_singleton, toNat_succ room,
      List.length_append, List.length_singleton, inOrder.ids]
    rw [List.range'_concat]
    congr 2
    omega
  acked_le_line := by
    rw [acked_push room]
    exact inOrder.acked_le_line
  line_le_last := by
    have lineBound := inOrder.line_le_last
    simp only [Delivery.push, toNat_succ room]
    omega

end InOrder

private theorem dropWhile_acked (ack : UInt32) :
    ∀ (buffer : List (ReliablePacket P)) (first : Nat),
      buffer.map (·.id.toNat) = List.range' (first + 1) buffer.length →
      (buffer.dropWhile fun packet => packet.id ≤ ack) = buffer.drop (ack.toNat - first)
  | [], _, _ => by simp
  | packet :: buffer, first, ids => by
      simp only [List.map_cons, List.length_cons, List.range'_succ, List.cons.injEq] at ids
      obtain ⟨head, tail⟩ := ids
      by_cases covered : packet.id ≤ ack
      · have bound : first + 1 ≤ ack.toNat := head ▸ UInt32.le_iff_toNat_le.mp covered
        have shorter : ack.toNat - first = ack.toNat - (first + 1) + 1 := by omega
        rw [List.dropWhile_cons_of_pos (by simpa using covered), shorter,
          List.drop_succ_cons]
        exact dropWhile_acked ack buffer (first + 1) tail
      · have bound : ack.toNat < first + 1 := by
          rw [UInt32.le_iff_toNat_le] at covered
          omega
        have none : ack.toNat - first = 0 := by omega
        rw [List.dropWhile_cons_of_neg (by simpa using covered), none, List.drop_zero]

namespace InOrder

variable {delivery : Delivery P}

theorem buffer_removeAcked (inOrder : delivery.InOrder) (ack : UInt32) :
    (delivery.removeAcked ack).1.buffer =
      delivery.buffer.drop (ack.toNat - delivery.acked) :=
  dropWhile_acked ack delivery.buffer delivery.acked inOrder.ids

theorem acked_removeAcked (inOrder : delivery.InOrder) (ack : UInt32) :
    (delivery.removeAcked ack).1.acked =
      max delivery.acked (min ack.toNat delivery.lastSendId.toNat) := by
  have total := inOrder.acked_add_length
  rw [acked, inOrder.buffer_removeAcked]
  simp only [Delivery.removeAcked, List.length_drop]
  omega

/-- An ack that comes while the line was handed everything, or that the line
was handed itself, keeps the buffer in order. -/
theorem removeAcked (inOrder : delivery.InOrder) (ack : UInt32)
    (handed : (delivery.removeAcked ack).1.acked ≤ delivery.lastSendIdOfLine.toNat) :
    (delivery.removeAcked ack).1.InOrder where
  buffered_le := by
    have buffered := inOrder.buffered_le
    rw [inOrder.buffer_removeAcked]
    simp only [Delivery.removeAcked, List.length_drop]
    omega
  ids := by
    have total := inOrder.acked_add_length
    rw [inOrder.acked_removeAcked, inOrder.buffer_removeAcked, List.map_drop, inOrder.ids,
      List.drop_range', List.length_drop]
    by_cases all : delivery.lastSendId.toNat ≤ ack.toNat
    · have empty : delivery.buffer.length - (ack.toNat - delivery.acked) = 0 := by omega
      rw [empty]
      rfl
    · congr 1
      omega
  acked_le_line := handed
  line_le_last := inOrder.line_le_last

private theorem resyncLow_eq (inOrder : delivery.InOrder) :
    delivery.resyncLow.toNat = delivery.acked := by
  have total := inOrder.acked_add_length
  unfold resyncLow oldestId
  cases eq : delivery.buffer with
  | nil =>
      rw [eq] at total
      simpa using total.symm
  | cons packet buffer =>
      have inside : 0 < delivery.buffer.length := by simp [eq]
      have first : packet.id.toNat = delivery.acked + 1 := by
        have atFront := inOrder.id_getElem inside
        simpa [eq] using atFront
      have positive : packet.id ≠ 0 := by
        intro zero
        simp [zero] at first
      have atLeastOne : (1 : UInt32) ≤ packet.id := by
        rw [UInt32.le_iff_toNat_le, first]
        simp
      simp only [List.head?_cons, Option.map_some, if_neg positive]
      rw [UInt32.toNat_sub_of_le _ _ atLeastOne, first]
      simp

/-- A rebind may report any id from the last acknowledged one to the last one
given out, and no other. -/
theorem checkResync_eq_ok_iff (inOrder : delivery.InOrder) (ack : UInt32) :
    delivery.checkResync ack = .ok () ↔
      delivery.acked ≤ ack.toNat ∧ ack.toNat ≤ delivery.lastSendId.toNat := by
  have low := inOrder.resyncLow_eq
  have outside : ack < delivery.resyncLow ∨ delivery.lastSendId < ack ↔
      ¬(delivery.acked ≤ ack.toNat ∧ ack.toNat ≤ delivery.lastSendId.toNat) := by
    rw [UInt32.lt_iff_toNat_lt, UInt32.lt_iff_toNat_lt, low]
    omega
  unfold checkResync
  by_cases rejected : ack < delivery.resyncLow ∨ delivery.lastSendId < ack
  · rw [if_pos rejected]
    exact ⟨fun equality => by simp at equality, fun inside => (outside.mp rejected inside).elim⟩
  · rw [if_neg rejected]
    exact ⟨fun _ => Classical.not_not.mp (mt outside.mpr rejected), fun _ => rfl⟩

theorem rewindLine_removeAcked (inOrder : delivery.InOrder) {ack : UInt32}
    (lower : delivery.acked ≤ ack.toNat) (upper : ack.toNat ≤ delivery.lastSendId.toNat) :
    ((delivery.removeAcked ack).1.rewindLine ack).InOrder := by
  have reached : (delivery.removeAcked ack).1.acked = ack.toNat := by
    rw [inOrder.acked_removeAcked]
    omega
  have moved : InOrder { delivery with lastSendIdOfLine := ack } :=
    { buffered_le := inOrder.buffered_le
      ids := inOrder.ids
      acked_le_line := lower
      line_le_last := upper }
  have removed := moved.removeAcked ack (Nat.le_of_eq reached)
  exact
    { buffered_le := removed.buffered_le
      ids := removed.ids
      acked_le_line := removed.acked_le_line
      line_le_last := removed.line_le_last }

end InOrder

end Delivery

end ResumableSession
