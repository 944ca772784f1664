import ResumableSession.Proofs.Wire.Appending
import ResumableSession.Proofs.Wire.RoundTrip

/-!
# How long packets are

What is estimated of a packet before it is encoded bounds the frame that it becomes, and a
payload that was checked fits whatever the id and the ack turn out to be.  For byte
strings the check is exact: the longest id and ack decide.
-/

namespace ResumableSession

namespace Varint

private theorem length_groups (value : Nat) : (groups value).length = groupCount value := by
  induction value using groups.induct with
  | case1 value last =>
      rw [groups, groupCount, if_pos last, if_pos last]
      rfl
  | case2 value further induction =>
      rw [groups, groupCount, if_neg further, if_neg further, List.length_cons, induction]

theorem length_encode (value : UInt32) : (encode value).length = length value :=
  length_groups value.toNat

private theorem groupCount_le (more : Nat) :
    ∀ value, value < capacity more → groupCount value ≤ more + 1 := by
  induction more with
  | zero =>
      intro value small
      have small : value < 16 := small
      have single : groupCount value = 1 := by
        rw [groupCount]
        exact if_pos (by omega)
      exact Nat.le_of_eq single
  | succ more induction =>
      intro value small
      have small : value < 128 * capacity more := small
      rw [groupCount]
      split
      · exact Nat.le_add_left _ _
      · exact Nat.succ_le_succ (induction (value / 128) (by omega))

theorem length_le (value : UInt32) : length value ≤ maxLength :=
  groupCount_le 4 value.toNat value.toNat_lt

private theorem length_largest : length 0xFFFFFFFF = maxLength := by decide +kernel

private theorem length_pos (value : UInt32) : 0 < length value := by
  rw [length, groupCount]
  split
  · exact Nat.one_pos
  · exact Nat.succ_pos _

end Varint

namespace WireText

private theorem length_counted (bytes : Bytes) :
    (counted bytes).length = countedLength bytes.length := by
  rw [counted, List.length_append, Varint.length_encode]
  rfl

theorem length_encode (text : String) : (encode text).length = length text :=
  length_counted (utf8 text)

end WireText

namespace Writer

variable {ε : Type} {first second : Writer ε Unit} {size more : Nat}

/-- A writer adds this many bytes to any buffer at most, and never fails. -/
def Fits (writer : Writer ε Unit) (size : Nat) : Prop :=
  ∀ buffer, ∃ added, writer buffer = .ok () (buffer ++ added) ∧ added.length ≤ size

private theorem fits_bytes {bytes : Bytes} (short : bytes.length ≤ size) :
    (Writer.bytes bytes : Writer ε Unit).Fits size :=
  fun _ => ⟨bytes, rfl, short⟩

private theorem fits_nothing (size : Nat) : (pure () : Writer ε Unit).Fits size :=
  fun buffer => ⟨[], congrArg (EStateM.Result.ok ()) (List.append_nil buffer).symm,
    Nat.zero_le size⟩

theorem Fits.bind (before : first.Fits size) (after : second.Fits more) :
    (first >>= fun _ => second).Fits (size + more) := by
  intro buffer
  obtain ⟨added, wrote, short⟩ := before buffer
  obtain ⟨others, wroteMore, shortMore⟩ := after (buffer ++ added)
  refine ⟨added ++ others, ?_, ?_⟩
  · simp only [Bind.bind, EStateM.bind, wrote, wroteMore, List.append_assoc]
  · rw [List.length_append]
    exact Nat.add_le_add short shortMore

end Writer

variable {P : Type}

/-- Payloads that may be sent are written, in no more bytes than estimated. -/
def PayloadCodec.Estimated (payloads : PayloadCodec P) : Prop :=
  ∀ payload, payloads.estimate payload ≠ 0 →
    (payloads.write payload).Fits (payloads.estimate payload)

theorem PayloadCodec.raw_estimated : PayloadCodec.raw.Estimated := by
  intro payload _
  exact Writer.fits_bytes (Nat.le_of_eq (WireText.length_counted payload))

/-- Data with the longest id and the longest ack. -/
def Packet.longest (payload : P) : Packet P :=
  .reliable ⟨0xFFFFFFFF, 0xFFFFFFFF, .data payload⟩

namespace PacketCodec

variable {codec : PacketCodec P} {packet : Packet P}

/-- What is estimated of the payload of a packet. -/
def payloadEstimate (codec : PacketCodec P) (packet : Packet P) : Nat :=
  (packet.payload?.map codec.payloads.estimate).getD 0

/-- Only payloads can have nothing to be sent. -/
theorem estimate_eq_zero_iff (codec : PacketCodec P) (packet : Packet P) :
    codec.estimate packet = 0 ↔
      ∃ payload, packet.payload? = some payload ∧ codec.payloads.estimate payload = 0 := by
  unfold estimate
  cases carried : packet.payload? with
  | none => simp [Frame.headerLength]
  | some payload =>
      dsimp only
      split
      · next empty => simp [empty]
      · next positive => simpa [Frame.headerLength] using positive

private theorem estimate_eq (sendable : codec.estimate packet ≠ 0) :
    codec.estimate packet =
      Frame.headerLength + 1 + fieldEstimate packet + codec.payloadEstimate packet := by
  rw [ne_eq, estimate_eq_zero_iff] at sendable
  unfold estimate payloadEstimate
  cases carried : packet.payload? with
  | none => rfl
  | some payload =>
      dsimp only
      split
      · next empty => exact absurd ⟨payload, carried, empty⟩ sendable
      · rfl

private theorem writeFields_fits (codec : PacketCodec P) (packet : Packet P)
    (fits : ∀ payload, packet.payload? = some payload →
      (codec.payloads.write payload).Fits (codec.payloads.estimate payload)) :
    (codec.writeFields packet).Fits (fieldEstimate packet + codec.payloadEstimate packet) := by
  have integer (value : UInt32) : (Varint.write value : Writer CodecError Unit).Fits
      Varint.maxLength := by
    apply Writer.fits_bytes
    rw [Varint.length_encode]
    exact Varint.length_le value
  cases packet with
  | createRequest token => exact Writer.fits_bytes (Nat.le_of_eq (WireText.length_encode token))
  | rebindRequest sessionId lineIndex clientAck =>
      exact (integer sessionId).bind ((integer lineIndex).bind (integer clientAck))
  | reliable packet =>
      obtain ⟨id, ack, body⟩ := packet
      cases body with
      | data payload =>
          have written := (integer id).bind ((integer ack).bind (fits payload rfl))
          rwa [← Nat.add_assoc] at written
      | fin | finAck => exact (integer id).bind ((integer ack).bind (Writer.fits_nothing 0))
  | _ value => exact integer value

/-- What is written of a packet whose fields fit: all of it, unless it is over the limit. -/
theorem write_fitting (sendable : codec.estimate packet ≠ 0)
    (fits : ∀ payload, packet.payload? = some payload →
      (codec.payloads.write payload).Fits (codec.payloads.estimate payload)) (buffer : Bytes) :
    ∃ body, body.length ≤ 1 + fieldEstimate packet + codec.payloadEstimate packet ∧
      codec.write packet buffer =
        if codec.limit < body.length then .error (.wire (.size body.length)) buffer
        else .ok () (buffer ++ (Frame.lengthField body.length ++ body)) := by
  obtain ⟨added, wrote, short⟩ :=
    codec.writeFields_fits packet fits (Frame.reserve buffer ++ [packet.kind.tag])
  refine ⟨packet.kind.tag :: added, ?_, ?_⟩
  · rw [List.length_cons]
    omega
  · exact write_eq_of_fields sendable wrote

private theorem fits_of_estimated (estimated : codec.payloads.Estimated)
    (sendable : codec.estimate packet ≠ 0) (payload : P)
    (carried : packet.payload? = some payload) :
    (codec.payloads.write payload).Fits (codec.payloads.estimate payload) := by
  refine estimated payload fun empty => sendable ?_
  exact (codec.estimate_eq_zero_iff packet).mpr ⟨payload, carried, empty⟩

theorem write_unsendable (unsendable : codec.estimate packet = 0) (buffer : Bytes) :
    codec.write packet buffer = .error .notSerializable buffer :=
  if_pos unsendable

theorem length_write_le (estimated : codec.payloads.Estimated) {buffer filled : Bytes}
    (wrote : codec.write packet buffer = .ok () filled) :
    ∃ frame, filled = buffer ++ frame ∧ frame.length ≤ codec.estimate packet := by
  by_cases sendable : codec.estimate packet = 0
  · rw [write_unsendable sendable] at wrote
    cases wrote
  · obtain ⟨body, short, written⟩ :=
      write_fitting sendable (fits_of_estimated estimated sendable) buffer
    rw [written] at wrote
    split at wrote
    · cases wrote
    · cases wrote
      refine ⟨_, rfl, ?_⟩
      have field : (Frame.lengthField body.length).length = Frame.headerLength := rfl
      rw [estimate_eq sendable, List.length_append, field]
      omega

theorem checkPayload_eq_ok_iff (codec : PacketCodec P) (payload : P) :
    codec.checkPayload payload = .ok () ↔
      codec.payloads.estimate payload ≠ 0 ∧
        1 + 2 * Varint.maxLength + codec.payloads.estimate payload ≤ codec.limit := by
  unfold checkPayload
  split
  · next empty => simp [empty]
  · next positive =>
      dsimp only
      split <;> simp_all

theorem write_of_room (sendable : codec.estimate packet ≠ 0)
    (fits : ∀ payload, packet.payload? = some payload →
      (codec.payloads.write payload).Fits (codec.payloads.estimate payload))
    (room : 1 + fieldEstimate packet + codec.payloadEstimate packet ≤ codec.limit)
    (buffer : Bytes) : ∃ frame, codec.write packet buffer = .ok () (buffer ++ frame) := by
  obtain ⟨body, short, written⟩ := write_fitting sendable fits buffer
  rw [if_neg (by omega)] at written
  exact ⟨_, written⟩

/-- Data that was checked is written, whatever its id and its ack. -/
theorem write_of_checkPayload (estimated : codec.payloads.Estimated) {payload : P}
    (checked : codec.checkPayload payload = .ok ()) (id ack : UInt32) (buffer : Bytes) :
    ∃ frame, codec.write (.reliable ⟨id, ack, .data payload⟩) buffer =
      .ok () (buffer ++ frame) := by
  obtain ⟨sendable, room⟩ := (codec.checkPayload_eq_ok_iff payload).mp checked
  apply write_of_room
  · intro unsendable
    obtain ⟨carried, same, empty⟩ := (codec.estimate_eq_zero_iff _).mp unsendable
    cases same
    exact sendable empty
  · intro carried same
    cases same
    exact estimated payload sendable
  · exact room

end PacketCodec

/-! ## Byte strings -/

namespace Packet

/-- The integers of a packet in the order of its fields, lengths of texts and payloads
included. -/
def integers : Packet Bytes → List UInt32
  | .createRequest token => [UInt32.ofNat (WireText.utf8 token).length]
  | .createResponse sessionId => [sessionId]
  | .rebindRequest sessionId lineIndex clientAck => [sessionId, lineIndex, clientAck]
  | .rebindResponse serverAck => [serverAck]
  | .ack acked => [acked]
  | .reliable ⟨id, acked, .data payload⟩ => [id, acked, UInt32.ofNat payload.length]
  | .reliable ⟨id, acked, _⟩ => [id, acked]
  | .pingRequest ticks => [ticks]
  | .pingResponse ticks => [ticks]

/-- The bytes behind the integers of a packet. -/
def counted : Packet Bytes → Bytes
  | .createRequest token => WireText.utf8 token
  | .reliable ⟨_, _, .data payload⟩ => payload
  | _ => []

/-- The body of a packet with its integers spelled as the writer does. -/
def shortest (packet : Packet Bytes) : Bytes :=
  packet.kind.tag :: ((packet.integers.map Varint.encode).flatten ++ packet.counted)

end Packet

namespace PacketCodec

private theorem estimate_raw_ne_zero (limit : Nat) (packet : Packet Bytes) :
    (raw limit).estimate packet ≠ 0 := by
  intro unsendable
  obtain ⟨payload, _, empty⟩ := (estimate_eq_zero_iff _ _).mp unsendable
  have positive := Varint.length_pos (UInt32.ofNat payload.length)
  simp only [raw, withLimit, PayloadCodec.raw, WireText.countedLength] at empty
  omega

private theorem writeFields_raw (limit : Nat) (packet : Packet Bytes) (buffer : Bytes) :
    (raw limit).writeFields packet buffer =
      .ok () (buffer ++ ((packet.integers.map Varint.encode).flatten ++ packet.counted)) := by
  cases packet with
  | createRequest token =>
      simp [writeFields, WireText.write, WireText.encode, WireText.counted, Writer.bytes,
        Packet.integers, Packet.counted]
  | reliable packet =>
      obtain ⟨id, ack, body⟩ := packet
      cases body <;>
        simp [raw, withLimit, writeFields, PayloadCodec.raw, Varint.write, WireText.counted,
          Writer.bytes, Bind.bind, EStateM.bind, Pure.pure, EStateM.pure, Packet.integers,
          Packet.counted]
  | _ =>
      simp [writeFields, Varint.write, Writer.bytes, Bind.bind, EStateM.bind, Packet.integers,
        Packet.counted]

/-- A packet of bytes is written if exactly its body is not too long. -/
theorem write_raw (limit : Nat) (packet : Packet Bytes) (buffer : Bytes) :
    (raw limit).write packet buffer =
      if (raw limit).limit < packet.shortest.length then
        .error (.wire (.size packet.shortest.length)) buffer
      else .ok () (buffer ++ (Frame.lengthField packet.shortest.length ++ packet.shortest)) :=
  write_eq_of_fields (estimate_raw_ne_zero limit packet) (writeFields_raw limit packet _)

theorem write_raw_iff (limit : Nat) (payload : Bytes) (id ack : UInt32) (buffer : Bytes) :
    (∃ filled, (raw limit).write (.reliable ⟨id, ack, .data payload⟩) buffer = .ok () filled) ↔
      1 + Varint.length id + Varint.length ack + WireText.countedLength payload.length ≤
        (raw limit).limit := by
  have length : (Packet.shortest (.reliable ⟨id, ack, .data payload⟩)).length =
      1 + Varint.length id + Varint.length ack + WireText.countedLength payload.length := by
    simp [Packet.shortest, Packet.integers, Packet.counted, Varint.length_encode,
      WireText.countedLength]
    omega
  rw [write_raw, length]
  by_cases large : (raw limit).limit < 1 + Varint.length id + Varint.length ack +
      WireText.countedLength payload.length
  · simp only [if_pos large]
    refine iff_of_false ?_ (Nat.not_le_of_lt large)
    rintro ⟨filled, wrote⟩
    cases wrote
  · simp only [if_neg large]
    exact iff_of_true ⟨_, rfl⟩ (Nat.le_of_not_lt large)

theorem checkPayload_raw_iff (limit : Nat) (payload : Bytes) :
    (raw limit).checkPayload payload = .ok () ↔
      1 + 2 * Varint.maxLength + WireText.countedLength payload.length ≤ (raw limit).limit := by
  rw [checkPayload_eq_ok_iff]
  refine and_iff_right ?_
  have positive := Varint.length_pos (UInt32.ofNat payload.length)
  simp only [raw, withLimit, PayloadCodec.raw, WireText.countedLength]
  omega

/-- The check of bytes tells whether they are written with the longest id and ack. -/
theorem checkPayload_iff_longest (limit : Nat) (payload buffer : Bytes) :
    (raw limit).checkPayload payload = .ok () ↔
      ∃ filled, (raw limit).write (.longest payload) buffer = .ok () filled := by
  rw [checkPayload_raw_iff, Packet.longest, write_raw_iff, Varint.length_largest]
  omega

theorem checkPayload_iff_always (limit : Nat) (payload buffer : Bytes) :
    (raw limit).checkPayload payload = .ok () ↔
      ∀ id ack, ∃ filled,
        (raw limit).write (.reliable ⟨id, ack, .data payload⟩) buffer = .ok () filled := by
  constructor
  · intro checked id ack
    rw [checkPayload_raw_iff] at checked
    have idLength := Varint.length_le id
    have ackLength := Varint.length_le ack
    exact (write_raw_iff limit payload id ack buffer).mpr (by omega)
  · intro always
    exact (checkPayload_iff_longest limit payload buffer).mpr (always _ _)

end PacketCodec

end ResumableSession
