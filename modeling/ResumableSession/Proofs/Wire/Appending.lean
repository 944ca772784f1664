import ResumableSession.Wire.Codec

/-!
# Frames behind what a buffer holds

A writer that does not look at the buffer adds the same bytes to every buffer.  The
field writers are of this kind, and so is the writer of whole packets if the payload
writer is: although it goes back to fill in the length field, it finds it by the place
where the frame began.
-/

namespace ResumableSession

namespace Writer

variable {ε : Type} {first second : Writer ε Unit} {bytes : Bytes} {outcome : Except ε Bytes}

/-- What a writer adds to any buffer, or why it fails on any. -/
inductive Adds (writer : Writer ε Unit) : Except ε Bytes → Prop where
  | adds {bytes : Bytes} (wrote : ∀ buffer, writer buffer = .ok () (buffer ++ bytes)) :
      Adds writer (.ok bytes)
  | fails {cause : ε} (refused : ∀ buffer, ∃ left, writer buffer = .error cause left) :
      Adds writer (.error cause)

private theorem adds_bytes (bytes : Bytes) :
    (Writer.bytes bytes : Writer ε Unit).Adds (.ok bytes) :=
  .adds fun _ => rfl

private theorem adds_nothing : (pure () : Writer ε Unit).Adds (.ok []) := by
  apply Adds.adds
  intro buffer
  rw [List.append_nil]
  rfl

theorem Adds.of_ok {writer : Writer ε Unit} {buffer filled : Bytes} (adds : writer.Adds outcome)
    (wrote : writer buffer = .ok () filled) :
    ∃ bytes, outcome = .ok bytes ∧ filled = buffer ++ bytes := by
  cases adds with
  | @adds bytes always =>
      rw [always] at wrote
      cases wrote
      exact ⟨bytes, rfl, rfl⟩
  | fails refused =>
      obtain ⟨left, refused⟩ := refused buffer
      rw [refused] at wrote
      cases wrote

theorem Adds.of_error {writer : Writer ε Unit} {buffer left : Bytes} {cause : ε}
    (adds : writer.Adds outcome) (refused : writer buffer = .error cause left) :
    outcome = .error cause := by
  cases adds with
  | adds wrote =>
      rw [wrote] at refused
      cases refused
  | fails always =>
      obtain ⟨left', always⟩ := always buffer
      rw [always] at refused
      cases refused
      rfl

theorem Adds.bind (before : first.Adds (.ok bytes)) (after : second.Adds outcome) :
    (first >>= fun _ => second).Adds (outcome.map (bytes ++ ·)) := by
  cases before with
  | adds wrote =>
      cases after with
      | adds wroteMore =>
          apply Adds.adds
          intro buffer
          simp only [Bind.bind, EStateM.bind, wrote, wroteMore, List.append_assoc]
      | fails refused =>
          apply Adds.fails
          intro buffer
          simp only [Bind.bind, EStateM.bind, wrote]
          exact refused (buffer ++ bytes)

end Writer

variable {P : Type}

/-- The payload writer adds to the buffer without looking at it. -/
def PayloadCodec.WritesBehind (payloads : PayloadCodec P) : Prop :=
  ∀ payload, ∃ outcome, (payloads.write payload).Adds outcome

theorem PayloadCodec.raw_writesBehind : PayloadCodec.raw.WritesBehind :=
  fun payload => ⟨_, Writer.adds_bytes (WireText.counted payload)⟩

namespace PacketCodec

variable {codec : PacketCodec P}

private theorem writeFields_adds (behind : codec.payloads.WritesBehind) (packet : Packet P) :
    ∃ outcome, (codec.writeFields packet).Adds outcome := by
  have integer (value : UInt32) :
      (Varint.write value : Writer CodecError Unit).Adds (.ok (Varint.encode value)) :=
    Writer.adds_bytes _
  cases packet with
  | createRequest token => exact ⟨_, Writer.adds_bytes _⟩
  | rebindRequest sessionId lineIndex clientAck =>
      exact ⟨_, (integer sessionId).bind ((integer lineIndex).bind (integer clientAck))⟩
  | reliable packet =>
      obtain ⟨id, ack, body⟩ := packet
      cases body with
      | data payload =>
          obtain ⟨outcome, adds⟩ := behind payload
          exact ⟨_, (integer id).bind ((integer ack).bind adds)⟩
      | fin | finAck => exact ⟨_, (integer id).bind ((integer ack).bind Writer.adds_nothing)⟩
  | _ value => exact ⟨_, integer value⟩

private theorem finish_reserved (limit : Nat) (buffer body : Bytes) :
    Frame.finish limit buffer.length (Frame.reserve buffer ++ body) =
      if limit < body.length then .error (.size body.length) buffer
      else .ok () (buffer ++ (Frame.lengthField body.length ++ body)) := by
  have start : (Frame.reserve buffer).length = buffer.length + Frame.headerLength :=
    List.length_append
  have before : (Frame.reserve buffer ++ body).take buffer.length = buffer := by
    rw [Frame.reserve, List.append_assoc, List.take_left]
  have behind : (Frame.reserve buffer ++ body).drop (buffer.length + Frame.headerLength) = body := by
    rw [← start, List.drop_left]
  simp only [Frame.finish, before, behind, List.append_assoc]

/-- What becomes of a packet once its fields are written behind its tag: a frame with their
length in front, unless they are too long. -/
theorem write_eq_of_fields {packet : Packet P} {buffer fields : Bytes}
    (sendable : codec.estimate packet ≠ 0)
    (wrote : codec.writeFields packet (Frame.reserve buffer ++ [packet.kind.tag]) =
      .ok () (Frame.reserve buffer ++ [packet.kind.tag] ++ fields)) :
    codec.write packet buffer =
      if codec.limit < (packet.kind.tag :: fields).length then
        .error (.wire (.size (packet.kind.tag :: fields).length)) buffer
      else .ok () (buffer ++ (Frame.lengthField (packet.kind.tag :: fields).length ++
        packet.kind.tag :: fields)) := by
  have finished := finish_reserved codec.limit buffer (packet.kind.tag :: fields)
  rw [List.append_assoc, List.singleton_append] at wrote
  simp only [write, if_neg sendable, wrote, EStateM.adaptExcept, finished]
  by_cases large : codec.limit < (packet.kind.tag :: fields).length
  · simp only [if_pos large]
  · simp only [if_neg large]

/-- The writer of whole packets does not look at the buffer either. -/
theorem write_uniform (behind : codec.payloads.WritesBehind) (packet : Packet P) :
    ∃ outcome, (codec.write packet).Adds outcome := by
  by_cases none : codec.estimate packet = 0
  · refine ⟨.error .notSerializable, .fails fun buffer => ⟨buffer, ?_⟩⟩
    simp only [write, if_pos none]
  obtain ⟨outcome, fields⟩ := writeFields_adds behind packet
  cases fields with
  | @fails cause refused =>
      refine ⟨.error cause, .fails fun buffer => ?_⟩
      obtain ⟨left, failed⟩ := refused (Frame.reserve buffer ++ [packet.kind.tag])
      refine ⟨left.take buffer.length, ?_⟩
      simp only [write, if_neg none, failed]
  | @adds bytes wrote =>
      have written (buffer : Bytes) :=
        write_eq_of_fields none (wrote (Frame.reserve buffer ++ [packet.kind.tag]))
      by_cases large : codec.limit < (packet.kind.tag :: bytes).length
      · refine ⟨.error (.wire (.size (packet.kind.tag :: bytes).length)),
          .fails fun buffer => ⟨buffer, ?_⟩⟩
        rw [written, if_pos large]
      · refine ⟨.ok (Frame.lengthField (packet.kind.tag :: bytes).length ++
          packet.kind.tag :: bytes), .adds fun buffer => ?_⟩
        rw [written, if_neg large]

/-- A packet's frame is added to a buffer as it is written into an empty one. -/
theorem write_adds (behind : codec.payloads.WritesBehind) (packet : Packet P) :
    (codec.write packet).Adds (codec.encode packet) := by
  obtain ⟨outcome, adds⟩ := write_uniform behind packet
  have encoded : codec.encode packet = outcome := by
    unfold encode
    cases adds with
    | adds wrote => rw [wrote, List.nil_append]
    | fails refused =>
        obtain ⟨left, failed⟩ := refused []
        rw [failed]
  rw [encoded]
  exact adds

end PacketCodec

end ResumableSession
