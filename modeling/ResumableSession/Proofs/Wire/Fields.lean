import ResumableSession.Wire.Codec

/-!
# Fields read back

What a writer adds to a buffer is what the reader of the same field takes off
its front, whatever follows.  For integers this holds up to five groups, for
texts and byte strings as long as their size fits the length field in front of
them; a frame that is not larger than its limit never holds a longer one.
-/

namespace ResumableSession

namespace Varint

/-- One more than the largest number that `more` groups and a last one can carry. -/
def capacity : Nat → Nat
  | 0 => 16
  | more + 1 => 128 * capacity more

private theorem readGroups_groups (rest : Bytes) (more : Nat) :
    ∀ value, value < capacity more →
      readGroups (more + 1) (groups value ++ rest) = .ok value rest := by
  induction more with
  | zero =>
      intro value small
      have small : value < 16 := small
      have octet : (UInt8.ofNat value).toNat = value :=
        UInt8.toNat_ofNat_of_lt' (by simp only [UInt8.size]; omega)
      have group : value % 128 = value := Nat.mod_eq_of_lt (by omega)
      rw [groups, if_pos (by omega)]
      simp only [List.cons_append, List.nil_append, readGroups, octet, group]
      rw [if_neg (by omega), if_pos (by omega)]
  | succ more induction =>
      intro value small
      have small : value < 128 * capacity more := small
      rw [groups]
      split
      · next last =>
          have octet : (UInt8.ofNat value).toNat = value :=
            UInt8.toNat_ofNat_of_lt' (by simp only [UInt8.size]; omega)
          have group : value % 128 = value := Nat.mod_eq_of_lt last
          simp only [List.cons_append, List.nil_append, readGroups, octet, group]
          rw [if_neg (by omega), if_pos last]
      · next further =>
          have octet : (UInt8.ofNat (value % 128 + 128)).toNat = value % 128 + 128 :=
            UInt8.toNat_ofNat_of_lt' (by simp only [UInt8.size]; omega)
          have group : (value % 128 + 128) % 128 = value % 128 := by omega
          have higher := induction (value / 128) (by omega)
          simp only [List.cons_append, readGroups, octet, group, higher]
          rw [if_neg (by omega), if_neg (by omega)]
          congr 1
          omega

theorem read_encode (value : UInt32) (rest : Bytes) :
    read (encode value ++ rest) = .ok value rest := by
  have small : value.toNat < capacity 4 := value.toNat_lt_size
  have groupsRead := readGroups_groups rest 4 value.toNat small
  simp only [read, encode, bind, EStateM.bind, maxLength, groupsRead, pure, EStateM.pure,
    UInt32.ofNat_toNat]

end Varint

namespace WireText

private theorem readCounted_counted {bytes : Bytes} (fits : bytes.length < UInt32.size)
    (rest : Bytes) :
    readCounted (counted bytes ++ rest) = .ok bytes rest := by
  have size : (UInt32.ofNat bytes.length).toNat = bytes.length :=
    UInt32.toNat_ofNat_of_lt' fits
  have enough : ¬(bytes ++ rest).length < bytes.length := by
    rw [List.length_append]
    omega
  simp only [readCounted, counted, List.append_assoc, bind, EStateM.bind, Varint.read_encode,
    Reader.octets, size, if_neg enough, List.take_left, List.drop_left]

theorem ofUtf8?_utf8 (text : String) : ofUtf8? (utf8 text) = some text := by
  have valid : text.toUTF8.IsValidUTF8 := text.isValidUTF8
  have same : (⟨(utf8 text).toArray⟩ : ByteArray) = text.toUTF8 := rfl
  rw [ofUtf8?, same, String.fromUTF8?, dif_pos valid]
  rfl

theorem read_encode {text : String} (fits : (utf8 text).length < UInt32.size) (rest : Bytes) :
    read (encode text ++ rest) = .ok text rest := by
  simp only [read, encode, bind, EStateM.bind, readCounted_counted fits, ofUtf8?_utf8, pure,
    EStateM.pure]

end WireText

/-- A payload is read back from what is written for it, if that fits a length field. -/
structure PayloadCodec.ReadsBack {P : Type} (codec : PayloadCodec P) : Prop where
  written : ∀ payload buffer filled, codec.write payload buffer = .ok () filled →
    ∃ added, filled = buffer ++ added ∧
      (added.length < UInt32.size → codec.read added = .ok payload [])

theorem PayloadCodec.raw_readsBack : PayloadCodec.ReadsBack .raw where
  written := by
    intro payload buffer filled wrote
    simp only [raw, Writer.bytes, EStateM.Result.ok.injEq, true_and] at wrote
    refine ⟨WireText.counted payload, wrote.symm, ?_⟩
    intro fits
    have fitting : payload.length < UInt32.size := by
      rw [WireText.counted, List.length_append] at fits
      omega
    have readBack := WireText.readCounted_counted fitting []
    rw [List.append_nil] at readBack
    simp only [raw, EStateM.adaptExcept, readBack]

namespace PacketCodec

variable {P : Type} {codec : PacketCodec P}

private theorem field_encode (value : UInt32) (rest : Bytes) :
    field (Varint.encode value ++ rest) = .ok value rest := by
  simp only [field, EStateM.adaptExcept, Varint.read_encode]

/-- The fields of a packet are read back from what was written for them. -/
theorem readFields_writeFields (readsBack : codec.payloads.ReadsBack) (packet : Packet P)
    {buffer filled : Bytes} (wrote : codec.writeFields packet buffer = .ok () filled) :
    ∃ added, filled = buffer ++ added ∧
      (added.length < UInt32.size →
        codec.readFields packet.kind added = .ok packet []) := by
  have alone (value : UInt32) : field (Varint.encode value) = .ok value [] := by
    simpa using field_encode value []
  cases packet with
  | createRequest token =>
      simp only [writeFields, WireText.write, Writer.bytes, EStateM.Result.ok.injEq,
        true_and] at wrote
      refine ⟨WireText.encode token, wrote.symm, ?_⟩
      intro fits
      have fitting : (WireText.utf8 token).length < UInt32.size := by
        rw [WireText.encode, WireText.counted, List.length_append] at fits
        omega
      have readBack := WireText.read_encode fitting []
      rw [List.append_nil] at readBack
      simp only [Packet.kind, readFields, bind, EStateM.bind, EStateM.adaptExcept, readBack, pure,
        EStateM.pure]
  | rebindRequest sessionId lineIndex clientAck =>
      simp only [writeFields, Varint.write, Writer.bytes, bind, EStateM.bind,
        EStateM.Result.ok.injEq, true_and, List.append_assoc] at wrote
      refine ⟨_, wrote.symm, ?_⟩
      intro _
      simp only [Packet.kind, readFields, bind, EStateM.bind, field_encode, alone, pure,
        EStateM.pure]
  | reliable packet =>
      obtain ⟨id, ack, body⟩ := packet
      cases body with
      | data payload =>
          simp only [writeFields, Varint.write, Writer.bytes, bind, EStateM.bind] at wrote
          obtain ⟨added, rfl, readBack⟩ := readsBack.written payload _ _ wrote
          refine ⟨Varint.encode id ++ (Varint.encode ack ++ added), by simp, ?_⟩
          intro fits
          rw [List.length_append, List.length_append] at fits
          have payloadRead := readBack (by omega)
          simp only [Packet.kind, ReliableBody.kind, readFields, bind, EStateM.bind, field_encode,
            payloadRead, pure, EStateM.pure]
      | fin | finAck =>
          simp only [writeFields, Varint.write, Writer.bytes, bind, EStateM.bind, pure,
            EStateM.pure, EStateM.Result.ok.injEq, true_and, List.append_assoc] at wrote
          refine ⟨_, wrote.symm, ?_⟩
          intro _
          simp only [Packet.kind, ReliableBody.kind, readFields, bind, EStateM.bind, field_encode,
            alone, pure, EStateM.pure]
  | _ value =>
      simp only [writeFields, Varint.write, Writer.bytes, EStateM.Result.ok.injEq,
        true_and] at wrote
      refine ⟨_, wrote.symm, ?_⟩
      intro _
      simp only [Packet.kind, readFields, bind, EStateM.bind, alone, pure, EStateM.pure]

end PacketCodec

end ResumableSession
