import ResumableSession.Proofs.Session.Frames

/-!
# What a session keeps of what it has pushed

The history of a session is the list of bodies that it has pushed, oldest
first; the body with id `n` is the `n`-th.  While ids do not wrap, the send
buffer is the part of the history that follows the acknowledged id, and a bound
line has been handed all of it.  A stream is what one line is handed while it is
bound: consecutive ids, with the bodies that were pushed under them and acks
that are no higher than what was received.
-/

namespace ResumableSession

variable {P : Type}

/-- Whether a packet may travel on a line once its handshake is over. -/
def Packet.isOrdinary : Packet P → Bool
  | .ack _ | .reliable _ | .pingRequest _ | .pingResponse _ => true
  | _ => false

/-- The id of a reliable packet. -/
def Packet.reliableId? : Packet P → Option Nat
  | .reliable packet => some packet.id.toNat
  | _ => none

/-- The packet carries a body under the id that it was pushed with, and
acknowledges no more than was received. -/
def Packet.Truthful (pushed : List (ReliableBody P)) (received : Nat) : Packet P → Prop
  | .reliable packet =>
      0 < packet.id.toNat ∧ pushed[packet.id.toNat - 1]? = some packet.body ∧
        packet.ack.toNat ≤ received
  | .ack latest | .rebindRequest _ _ latest | .rebindResponse latest => latest.toNat ≤ received
  | _ => True

theorem Packet.Truthful.mono {pushed pushed' : List (ReliableBody P)}
    {received received' : Nat} {packet : Packet P}
    (truthful : packet.Truthful pushed received)
    (grows : pushed <+: pushed') (later : received ≤ received') :
    packet.Truthful pushed' received' := by
  cases packet with
  | reliable packet =>
      obtain ⟨positive, body, ack⟩ := truthful
      refine ⟨positive, ?_, Nat.le_trans ack later⟩
      obtain ⟨inside, _⟩ := List.getElem?_eq_some_iff.mp body
      rw [← body]
      exact (List.prefix_iff_getElem?.mp grows _ inside).trans (by simp [inside])
  | ack _ => exact Nat.le_trans truthful later
  | rebindRequest _ _ _ => exact Nat.le_trans truthful later
  | rebindResponse _ => exact Nat.le_trans truthful later
  | _ => trivial

/-- Packets that hand over the ids after `start`, up to `finish`, in order. -/
structure Stretch (start finish : Nat) (packets : List (Packet P)) : Prop where
  ordinary : ∀ packet ∈ packets, packet.isOrdinary
  ids : packets.filterMap Packet.reliableId? = List.range' (start + 1) (finish - start)
  start_le : start ≤ finish

namespace Stretch

theorem nil (start : Nat) : Stretch (P := P) start start [] := by
  constructor <;> simp

theorem append {start middle finish : Nat} {earlier later : List (Packet P)}
    (first : Stretch start middle earlier) (second : Stretch middle finish later) :
    Stretch start finish (earlier ++ later) where
  ordinary := by
    intro packet member
    rcases List.mem_append.mp member with left | right
    · exact first.ordinary packet left
    · exact second.ordinary packet right
  ids := by
    have firstBound := first.start_le
    have secondBound := second.start_le
    rw [List.filterMap_append, first.ids, second.ids]
    have joined : middle + 1 = start + 1 + (middle - start) := by omega
    rw [joined, List.range'_append_1]
    congr 1
    omega
  start_le := Nat.le_trans first.start_le second.start_le

end Stretch

/-- A stretch of packets that carry the bodies of the history. -/
structure Stream (pushed : List (ReliableBody P)) (received start finish : Nat)
    (packets : List (Packet P)) : Prop extends Stretch start finish packets where
  truthful : ∀ packet ∈ packets, packet.Truthful pushed received

namespace Stream

variable {pushed pushed' : List (ReliableBody P)} {received received' : Nat}

theorem nil (start : Nat) : Stream pushed received start start [] where
  toStretch := .nil start
  truthful := by simp

theorem control {packet : Packet P} (start : Nat) (ordinary : packet.isOrdinary)
    (truthful : packet.Truthful pushed received) (unnumbered : packet.reliableId? = none) :
    Stream pushed received start start [packet] :=
  { ordinary := by simpa using ordinary
    truthful := by simpa using truthful
    ids := by simp [unnumbered]
    start_le := Nat.le_refl _ }

theorem mono {start finish : Nat} {packets : List (Packet P)}
    (stream : Stream pushed received start finish packets)
    (grows : pushed <+: pushed') (later : received ≤ received') :
    Stream pushed' received' start finish packets :=
  { stream with
    truthful := fun packet member => (stream.truthful packet member).mono grows later }

theorem append {start middle finish : Nat} {earlier later : List (Packet P)}
    (first : Stream pushed received start middle earlier)
    (second : Stream pushed received middle finish later) :
    Stream pushed received start finish (earlier ++ later) where
  toStretch := first.toStretch.append second.toStretch
  truthful := by
    intro packet member
    rcases List.mem_append.mp member with left | right
    · exact first.truthful packet left
    · exact second.truthful packet right

end Stream

namespace Delivery

/-- The send buffer is the part of the history that is not acknowledged. -/
structure Keeps (delivery : Delivery P) (pushed : List (ReliableBody P)) : Prop where
  inOrder : delivery.InOrder
  counted : delivery.lastSendId.toNat = pushed.length
  bodies : delivery.buffer.map (·.body) = pushed.drop delivery.acked

namespace Keeps

variable {delivery : Delivery P} {pushed : List (ReliableBody P)}

theorem acked_le (keeps : delivery.Keeps pushed) : delivery.acked ≤ pushed.length := by
  rw [← keeps.counted]
  exact Nat.sub_le _ _

theorem handed (keeps : delivery.Keeps pushed) : delivery.handed.Keeps pushed where
  inOrder := keeps.inOrder.handed
  counted := keeps.counted
  bodies := by
    rw [InOrder.map_handed (·.body) (fun _ _ => rfl), keeps.inOrder.acked_handed]
    exact keeps.bodies

theorem push (keeps : delivery.Keeps pushed) (room : pushed.length + 1 < UInt32.size)
    (body : ReliableBody P) : (delivery.push body).1.Keeps (pushed ++ [body]) := by
  have roomForId : delivery.lastSendId.toNat + 1 < UInt32.size := by
    rw [keeps.counted]
    exact room
  exact
    { inOrder := keeps.inOrder.push roomForId body
      counted := by
        simp only [Delivery.push, toNat_succ roomForId, keeps.counted, List.length_append,
          List.length_singleton]
      bodies := by
        rw [acked_push roomForId, List.drop_append_of_le_length keeps.acked_le, ← keeps.bodies]
        simp [Delivery.push] }

theorem bodies_removeAcked (keeps : delivery.Keeps pushed) (ack : UInt32) :
    (delivery.removeAcked ack).1.buffer.map (·.body) =
      pushed.drop (delivery.removeAcked ack).1.acked := by
  have total := keeps.inOrder.acked_add_length
  have counted := keeps.counted
  rw [keeps.inOrder.buffer_removeAcked, keeps.inOrder.acked_removeAcked, List.map_drop,
    keeps.bodies, List.drop_drop]
  by_cases all : delivery.lastSendId.toNat ≤ ack.toNat
  · rw [List.drop_of_length_le (by omega), List.drop_of_length_le (by omega)]
  · congr 1
    omega

theorem removeAcked (keeps : delivery.Keeps pushed) (ack : UInt32)
    (handed : delivery.lastSendIdOfLine = delivery.lastSendId) :
    (delivery.removeAcked ack).1.Keeps pushed where
  inOrder := by
    apply keeps.inOrder.removeAcked
    have total := keeps.inOrder.acked_add_length
    rw [keeps.inOrder.acked_removeAcked, handed]
    omega
  counted := keeps.counted
  bodies := keeps.bodies_removeAcked ack

theorem rewindLine_removeAcked (keeps : delivery.Keeps pushed) {ack : UInt32}
    (lower : delivery.acked ≤ ack.toNat) (upper : ack.toNat ≤ delivery.lastSendId.toNat) :
    ((delivery.removeAcked ack).1.rewindLine ack).Keeps pushed where
  inOrder := keeps.inOrder.rewindLine_removeAcked lower upper
  counted := keeps.counted
  bodies := keeps.bodies_removeAcked ack

theorem body_eq (keeps : delivery.Keeps pushed) {packet : ReliablePacket P}
    (member : packet ∈ delivery.buffer) :
    pushed[packet.id.toNat - 1]? = some packet.body := by
  obtain ⟨index, inside, rfl⟩ := List.getElem_of_mem member
  have atIndex := congrArg (fun bodies => bodies[index]?) keeps.bodies
  simp only [List.getElem?_map, List.getElem?_eq_getElem inside, Option.map_some,
    List.getElem?_drop] at atIndex
  rw [keeps.inOrder.id_getElem inside, atIndex]
  congr 1
  omega

/-- What a line is handed continues the stream of what it was handed before. -/
theorem stream_unhanded (keeps : delivery.Keeps pushed) :
    Stream pushed delivery.lastRecvId.toNat delivery.lastSendIdOfLine.toNat
      delivery.lastSendId.toNat (delivery.unhanded.map Packet.reliable) where
  ordinary := by
    intro packet member
    obtain ⟨reliable, _, rfl⟩ := List.mem_map.mp member
    rfl
  truthful := by
    intro packet member
    obtain ⟨reliable, unhanded, rfl⟩ := List.mem_map.mp member
    obtain ⟨buffered, inBuffer, rfl⟩ := List.mem_map.mp unhanded
    have positive : 0 < buffered.id.toNat :=
      keeps.inOrder.id_pos (List.mem_of_mem_drop inBuffer)
    have body : pushed[buffered.id.toNat - 1]? = some buffered.body :=
      keeps.body_eq (List.mem_of_mem_drop inBuffer)
    exact ⟨positive, body, Nat.le_refl _⟩
  ids := by
    rw [List.filterMap_map]
    have numbered : Packet.reliableId? ∘ Packet.reliable =
        fun packet : ReliablePacket P => some packet.id.toNat := rfl
    rw [numbered, ← keeps.inOrder.length_unhanded, ← keeps.inOrder.ids_unhanded]
    exact congrFun List.filterMap_eq_map' _
  start_le := keeps.inOrder.line_le_last

end Keeps

end Delivery

namespace Session

/-- The send buffer, the counters and the bound line agree with the history. -/
structure Books (pushed : List (ReliableBody P)) (session : Session P) : Prop where
  keeps : session.delivery.Keeps pushed
  inStep : session.current.isSome →
    session.delivery.lastSendIdOfLine = session.delivery.lastSendId
  lingering : session.closing.state = .timeWait →
    session.delivery.lastSendIdOfLine = session.delivery.lastSendId
  untouched : session.phase = .connecting → session.delivery.lastSendIdOfLine = 0
  connected : session.current.isSome → session.phase = .connected

end Session

end ResumableSession
