import ResumableSession.Proofs.Wire.Grammar
import Mathlib.Data.List.Forall2

/-!
# What was received can be sent on

Every packet with a payload of bytes is laid out in one way: its tag, then its integers one
after another, then the bytes that the last of them counts, if there are any.  A sender may
spell the integers longer than need be; nothing else of a frame is left open.  So a packet
that was received within a limit is written again within the same limit, in as many bytes at
most, and in fewer exactly if an integer had been spelled too long.
-/

namespace ResumableSession

namespace Varint

/-- No fewer bytes spell the same integer. -/
def Shortest (bytes : Bytes) : Prop :=
  ∀ value, Spells bytes value → ∀ other, Spells other value → bytes.length ≤ other.length

private theorem Spells.value_eq {bytes : Bytes} {value other : UInt32} (spells : Spells bytes value)
    (also : Spells bytes other) : other = value := by
  apply UInt32.toNat_inj.mp
  exact also.number_eq.symm.trans spells.number_eq

theorem Spells.shortest_iff {bytes : Bytes} {value : UInt32} (spells : Spells bytes value) :
    Shortest bytes ↔ (encode value).length = bytes.length := by
  constructor
  · intro shortest
    apply Nat.le_antisymm spells.length_encode_le
    exact shortest value spells (encode value) (spells_encode value)
  · intro same found foundSpells other otherSpells
    obtain rfl := spells.value_eq foundSpells
    have least := otherSpells.length_encode_le
    omega

/-- Spelled by the writer, integers take no more bytes than in any other form, and as many
only if every one of them was in its shortest form. -/
theorem length_encoded {spellings : List Bytes} {values : List UInt32}
    (spelled : List.Forall₂ Spells spellings values) :
    (values.map encode).flatten.length ≤ spellings.flatten.length ∧
      ((values.map encode).flatten.length = spellings.flatten.length ↔
        ∀ spelling ∈ spellings, Shortest spelling) := by
  induction spelled with
  | nil => simp
  | @cons spelling value spellings values spells _ induction =>
      obtain ⟨bounded, exact_iff⟩ := induction
      have first := spells.length_encode_le
      simp only [List.map_cons, List.flatten_cons, List.length_append, List.forall_mem_cons,
        spells.shortest_iff, ← exact_iff]
      omega

end Varint

namespace Packet

/-- The frame holds the packet, with its integers spelled like this. -/
structure Spelled (packet : Packet Bytes) (spellings : List Bytes) (frame : Bytes) : Prop where
  integers : List.Forall₂ Varint.Spells spellings packet.integers
  body_eq : Frame.body frame = packet.kind.tag :: (spellings.flatten ++ packet.counted)

/-- No body that holds the packet is shorter, and one is as short only if its integers are. -/
theorem Spelled.length_shortest {packet : Packet Bytes} {spellings : List Bytes} {frame : Bytes}
    (spelled : packet.Spelled spellings frame) :
    packet.shortest.length ≤ (Frame.body frame).length ∧
      (packet.shortest.length = (Frame.body frame).length ↔
        ∀ spelling ∈ spellings, Varint.Shortest spelling) := by
  obtain ⟨bounded, exact_iff⟩ := Varint.length_encoded spelled.integers
  simp only [shortest, spelled.body_eq, List.length_cons, List.length_append, ← exact_iff]
  omega

end Packet

namespace PacketCodec

variable {limit : Nat} {packet : Packet Bytes}

private theorem spelled_of_counts {bytes counted : Bytes} (counts : WireText.Counts bytes counted) :
    ∃ spelling, Varint.Spells spelling (UInt32.ofNat counted.length) ∧
      bytes = spelling ++ counted := by
  obtain ⟨spelling, size, spells, whole, rfl⟩ := counts
  refine ⟨spelling, ?_, rfl⟩
  rwa [whole, UInt32.ofNat_toNat]

/-- The fields of a packet are its integers, each in some form, and what they count. -/
theorem Fields.spelled {fields : Bytes} (laidOut : (raw limit).Fields packet fields) :
    ∃ spellings, List.Forall₂ Varint.Spells spellings packet.integers ∧
      fields = spellings.flatten ++ packet.counted := by
  cases laidOut with
  | createRequest counts =>
      obtain ⟨spelling, spells, rfl⟩ := spelled_of_counts counts
      refine ⟨[spelling], .cons spells .nil, ?_⟩
      simp [Packet.counted]
  | @rebindRequest _ _ _ first second third session line acked =>
      refine ⟨[first, second, third], .cons session (.cons line (.cons acked .nil)), ?_⟩
      simp [Packet.counted]
  | @data _ _ _ first second _ numbered acked carried =>
      obtain ⟨third, counts, rfl⟩ := spelled_of_counts (PayloadCodec.raw_read_iff.mp carried)
      refine ⟨[first, second, third], .cons numbered (.cons acked (.cons counts .nil)), ?_⟩
      simp [Packet.counted]
  | @fin _ _ first second numbered acked | @finAck _ _ first second numbered acked =>
      refine ⟨[first, second], .cons numbered (.cons acked .nil), ?_⟩
      simp [Packet.counted]
  | createResponse spelled | rebindResponse spelled | ack spelled | pingRequest spelled
  | pingResponse spelled =>
      refine ⟨[fields], .cons spelled .nil, ?_⟩
      simp [Packet.counted]

/-- The frame of a packet spells its integers in some form. -/
theorem IsFrame.spelled {frame : Bytes} (isFrame : (raw limit).IsFrame frame packet) :
    ∃ spellings, packet.Spelled spellings frame := by
  obtain ⟨fields, body, laidOut⟩ := readBody_eq_ok_iff.mp isFrame.decoded
  obtain ⟨spellings, spelled, rfl⟩ := laidOut.spelled
  exact ⟨spellings, spelled, body⟩

/-- What was received is written again in as many bytes at most, in just as many if every
integer had come in its shortest form, and is read back from them. -/
theorem received_resent (limit : Nat) {buffer rest : Bytes} {packet : Packet Bytes}
    (received : (raw limit).read buffer = .ok (some packet) rest) :
    ∃ frame sent, buffer = frame ++ rest ∧
      (∀ before, (raw limit).write packet before = .ok () (before ++ sent)) ∧
      sent.length ≤ frame.length ∧
      (∃ spellings, packet.Spelled spellings frame) ∧
      (∀ spellings, packet.Spelled spellings frame →
        (sent.length = frame.length ↔ ∀ spelling ∈ spellings, Varint.Shortest spelling)) ∧
      ∀ later, (raw limit).read (sent ++ later) = .ok (some packet) later := by
  obtain ⟨frame, isFrame, rfl⟩ := isFrame_of_read received
  obtain ⟨spellings, spelled⟩ := isFrame.spelled
  have fits : packet.shortest.length ≤ (raw limit).limit :=
    Nat.le_trans spelled.length_shortest.1 isFrame.bounded
  have written (before : Bytes) :=
    (write_raw limit packet before).trans (if_neg (Nat.not_lt_of_le fits))
  have long := isFrame.length_eq
  have sentLong : (Frame.lengthField packet.shortest.length ++ packet.shortest).length =
      packet.shortest.length + Frame.headerLength := by
    simp [Frame.lengthField, Frame.headerLength]
  refine ⟨frame, Frame.lengthField packet.shortest.length ++ packet.shortest, rfl,
    written, ?_, ⟨spellings, spelled⟩, ?_, ?_⟩
  · have bounded := spelled.length_shortest.1
    omega
  · intro spellings spelled
    rw [← spelled.length_shortest.2]
    omega
  · apply IsFrame.read_append
    apply isFrame_of_encode PayloadCodec.raw_readsBack (raw_limit_lt limit)
    simp only [encode, written, List.nil_append]

/-- An ack of five in a frame of seven bytes, of which one is not needed. -/
theorem longer_ack_resent :
    (raw 16).read ([3, 0, 0, 0, 4, 0x85, 0] ++ [9]) = .ok (some (.ack 5)) [9] ∧
      ∃ sent, (∀ before, (raw 16).write (.ack 5) before = .ok () (before ++ sent)) ∧
        sent.length < 7 := by
  have received : (raw 16).read ([3, 0, 0, 0, 4, 0x85, 0] ++ [9]) = .ok (some (.ack 5)) [9] := rfl
  refine ⟨received, ?_⟩
  obtain ⟨frame, sent, split, written, bounded, _, exact_iff, _⟩ := received_resent 16 received
  obtain rfl : [3, 0, 0, 0, 4, 0x85, 0] = frame := List.append_cancel_right split
  have five : Varint.Spells [0x85, 0] 5 :=
    ⟨.more (by decide) (.last (by decide)), by decide, by decide⟩
  have longer : sent.length ≠ 7 := by
    intro same
    have shortest := (exact_iff [[0x85, 0]] ⟨.cons five .nil, rfl⟩).mp same [0x85, 0] (by simp)
    exact absurd (shortest 5 five (Varint.encode 5) (Varint.spells_encode 5)) (by decide +kernel)
  exact ⟨sent, written, Nat.lt_of_le_of_ne bounded longer⟩

end PacketCodec

end ResumableSession
