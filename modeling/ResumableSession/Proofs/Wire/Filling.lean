import ResumableSession.Proofs.Wire.Appending
import ResumableSession.Proofs.Wire.Frames
import Mathlib.Data.List.Forall2

/-!
# Encoding is all or nothing

A packet that is written leaves one whole frame behind what the buffer held, and a packet
that is refused leaves the buffer as it was, however far its fields had come by then.  So
a buffer that nothing but packets was written to holds whole frames only.

The payload writer may look at the buffer and may fail half-way.  All that is asked of it
is that it touches nothing in front of what it adds.
-/

namespace ResumableSession

namespace Writer

variable {ε : Type} {first second : Writer ε Unit}

private theorem appends_bytes (bytes : Bytes) : (Writer.bytes bytes : Writer ε Unit).Appends :=
  fun _ => .inl ⟨bytes, rfl⟩

private theorem appends_nothing : (pure () : Writer ε Unit).Appends := by
  intro buffer
  refine .inl ⟨[], ?_⟩
  simp [pure, EStateM.pure]

private theorem appends_throw (failure : ε) : (throw failure : Writer ε Unit).Appends := by
  intro buffer
  refine .inr ⟨failure, [], ?_⟩
  rw [List.append_nil]
  rfl

theorem Appends.bind (before : first.Appends) (after : second.Appends) :
    (first >>= fun _ => second).Appends := by
  intro buffer
  rcases before buffer with ⟨added, wrote⟩ | ⟨failure, added, refused⟩
  · rcases after (buffer ++ added) with ⟨more, wroteMore⟩ | ⟨failure, more, refused⟩
    · refine .inl ⟨added ++ more, ?_⟩
      simp [Bind.bind, EStateM.bind, wrote, wroteMore]
    · refine .inr ⟨failure, added ++ more, ?_⟩
      simp [Bind.bind, EStateM.bind, wrote, refused]
  · refine .inr ⟨failure, added, ?_⟩
    simp [Bind.bind, EStateM.bind, refused]

end Writer

variable {P : Type}

/-- The payload writer only ever adds to the buffer. -/
def PayloadCodec.Appends (payloads : PayloadCodec P) : Prop :=
  ∀ payload, (payloads.write payload).Appends

namespace PacketCodec

variable {codec : PacketCodec P} {packet : Packet P} {buffer : Bytes}

private theorem writeFields_appends (appends : codec.payloads.Appends) (packet : Packet P) :
    (codec.writeFields packet).Appends := by
  have integer (value : UInt32) : (Varint.write value : Writer CodecError Unit).Appends :=
    Writer.appends_bytes _
  cases packet with
  | createRequest token => exact Writer.appends_bytes _
  | rebindRequest sessionId lineIndex clientAck =>
      exact (integer sessionId).bind ((integer lineIndex).bind (integer clientAck))
  | reliable packet =>
      obtain ⟨id, ack, body⟩ := packet
      cases body with
      | data payload => exact (integer id).bind ((integer ack).bind (appends payload))
      | fin | finAck => exact (integer id).bind ((integer ack).bind Writer.appends_nothing)
  | _ value => exact integer value

/-- Nothing but the payload writer can refuse to write fields. -/
theorem payload_of_refused {cause : CodecError} {left : Bytes}
    (refused : codec.writeFields packet buffer = .error cause left) :
    ∃ payload before, packet.payload? = some payload ∧
      codec.payloads.write payload before = .error cause left := by
  cases packet with
  | reliable packet =>
      obtain ⟨id, ack, body⟩ := packet
      cases body with
      | data payload => exact ⟨payload, _, rfl, refused⟩
      | fin | finAck => cases refused
  | _ => cases refused

/-- A whole frame of an allowed length, with the packet's tag as its first byte. -/
structure Encloses (limit : Nat) (packet : Packet P) (frame : Bytes) : Prop
    extends Frame.Whole limit frame where
  tagged : (Frame.body frame).head? = some packet.kind.tag

/-- Why a packet is refused. -/
inductive Refuses (codec : PacketCodec P) (packet : Packet P) (buffer : Bytes) :
    CodecError → Prop where
  /-- Its payload has nothing to be sent. -/
  | unsendable (nothing : codec.estimate packet = 0) : Refuses codec packet buffer .notSerializable
  /-- Its payload cannot be written; part of it may have been. -/
  | payload {payload : P} {before left : Bytes} {cause : CodecError}
      (carried : packet.payload? = some payload)
      (refused : codec.payloads.write payload before = .error cause left) :
      Refuses codec packet buffer cause
  /-- All of it was written, and is too long. -/
  | oversized {fields : Bytes}
      (wrote : codec.writeFields packet (Frame.reserve buffer ++ [packet.kind.tag]) =
        .ok () (Frame.reserve buffer ++ [packet.kind.tag] ++ fields))
      (exceeded : codec.limit < (packet.kind.tag :: fields).length) :
      Refuses codec packet buffer (.wire (.size (packet.kind.tag :: fields).length))

private theorem encloses_of_fields {limit : Nat} {fields : Bytes}
    (addressable : limit < UInt32.size)
    (bounded : (packet.kind.tag :: fields).length ≤ limit) :
    Encloses limit packet
      (Frame.lengthField (packet.kind.tag :: fields).length ++ packet.kind.tag :: fields) where
  announced := Frame.announced?_lengthField (Nat.lt_of_le_of_lt bounded addressable) _
  positive := Nat.succ_pos _
  bounded := bounded
  tagged := rfl

/-- A packet becomes one whole frame behind the buffer, or is refused and leaves no trace. -/
theorem write_cases (appends : codec.payloads.Appends) (addressable : codec.limit < UInt32.size)
    (packet : Packet P) (buffer : Bytes) :
    (∃ frame, codec.write packet buffer = .ok () (buffer ++ frame) ∧
        Encloses codec.limit packet frame) ∨
      ∃ cause, codec.write packet buffer = .error cause buffer ∧
        codec.Refuses packet buffer cause := by
  by_cases nothing : codec.estimate packet = 0
  · refine .inr ⟨.notSerializable, ?_, .unsendable nothing⟩
    simp only [write, if_pos nothing]
  rcases writeFields_appends appends packet (Frame.reserve buffer ++ [packet.kind.tag]) with
    ⟨fields, wrote⟩ | ⟨cause, added, refused⟩
  · have written := write_eq_of_fields nothing wrote
    by_cases exceeded : codec.limit < (packet.kind.tag :: fields).length
    · refine .inr ⟨_, ?_, .oversized wrote exceeded⟩
      simpa only [if_pos exceeded] using written
    · refine .inl ⟨_, ?_, encloses_of_fields addressable (Nat.le_of_not_lt exceeded)⟩
      simpa only [if_neg exceeded] using written
  · obtain ⟨payload, before, carried, failed⟩ := payload_of_refused refused
    refine .inr ⟨cause, ?_, .payload carried failed⟩
    have cut : (Frame.reserve buffer ++ [packet.kind.tag] ++ added).take buffer.length = buffer := by
      simp [Frame.reserve]
    simp only [write, if_neg nothing, refused, cut]

/-! ## Writing one packet after another -/

/-- Writes packets into a buffer one after another and goes on after a refusal.  Gives what
the buffer holds in the end, and the packets that were not refused. -/
def fill (codec : PacketCodec P) (buffer : Bytes) : List (Packet P) → Bytes × List (Packet P)
  | [] => (buffer, [])
  | packet :: packets =>
      match codec.write packet buffer with
      | .ok () filled =>
          let (held, written) := codec.fill filled packets
          (held, packet :: written)
      | .error _ left => codec.fill left packets

/-- Behind what a buffer held come the frames of the packets that were not refused. -/
theorem fill_frames (appends : codec.payloads.Appends) (addressable : codec.limit < UInt32.size)
    (packets : List (Packet P)) : ∀ buffer,
      ∃ frames, (codec.fill buffer packets).1 = buffer ++ frames.flatten ∧
        List.Forall₂ (Encloses codec.limit) (codec.fill buffer packets).2 frames := by
  induction packets with
  | nil =>
      intro buffer
      refine ⟨[], ?_, .nil⟩
      simp [fill]
  | cons packet packets induction =>
      intro buffer
      rcases write_cases appends addressable packet buffer with
        ⟨frame, wrote, whole⟩ | ⟨cause, refused, _⟩
      · obtain ⟨frames, held, wholes⟩ := induction (buffer ++ frame)
        refine ⟨frame :: frames, ?_, ?_⟩
        · simp [fill, wrote, held]
        · simpa [fill, wrote] using ⟨whole, wholes⟩
      · simpa only [fill, refused] using induction buffer

/-- Whatever the limit and the payload writer, a packet is written as one whole frame
behind an untouched buffer or refused without a trace, and a buffer that only packets
were written to holds the whole frames of those that were not refused. -/
theorem write_all_or_nothing (codec : PacketCodec P) (appends : codec.payloads.Appends)
    (limit : Nat) :
    (∀ packet buffer,
      (∃ frame, (codec.withLimit limit).write packet buffer = .ok () (buffer ++ frame) ∧
          Encloses (min limit Frame.hardLimit) packet frame) ∨
        ∃ cause, (codec.withLimit limit).write packet buffer = .error cause buffer ∧
          (codec.withLimit limit).Refuses packet buffer cause) ∧
      ∀ packets, ∃ frames, ((codec.withLimit limit).fill [] packets).1 = frames.flatten ∧
        List.Forall₂ (Encloses (min limit Frame.hardLimit))
          ((codec.withLimit limit).fill [] packets).2 frames := by
  have kept : (codec.withLimit limit).payloads.Appends := appends
  have addressable := codec.withLimit_addressable limit
  constructor
  · exact write_cases kept addressable
  · intro packets
    exact fill_frames kept addressable packets []

/-- Bytes that are written up to the third, at which the writer breaks off. -/
def faltering : PayloadCodec Bytes where
  estimate := List.length
  write payload := do
    Writer.bytes (payload.take 2)
    if 2 < payload.length then throw (.payload "too long")
  read := PayloadCodec.raw.read

private theorem faltering_appends : faltering.Appends := by
  intro payload
  apply (Writer.appends_bytes _).bind
  split
  · exact Writer.appends_throw _
  · exact Writer.appends_nothing

/-- An ack, data that break off, data that must not be sent, a token over the limit of six
bytes, and a Fin. -/
def troubled : List (Packet Bytes) :=
  [.ack 7, .reliable ⟨1, 0, .data [1, 2, 3]⟩, .reliable ⟨1, 0, .data []⟩, .createRequest "token",
    .reliable ⟨1, 0, .fin⟩]

/-- Of five packets three are refused, each for a reason of its own, and two are framed. -/
theorem fill_troubled :
    faltering.Appends ∧
      (({ payloads := faltering } : PacketCodec Bytes).withLimit 6).fill [] troubled =
        ([2, 0, 0, 0, 4, 7, 3, 0, 0, 0, 6, 1, 0], [.ack 7, .reliable ⟨1, 0, .fin⟩]) ∧
      ∃ frames, ([2, 0, 0, 0, 4, 7, 3, 0, 0, 0, 6, 1, 0] : Bytes) = frames.flatten ∧
        List.Forall₂ (Encloses 6) ([.ack 7, .reliable ⟨1, 0, .fin⟩] : List (Packet Bytes)) frames := by
  have filled : (({ payloads := faltering } : PacketCodec Bytes).withLimit 6).fill [] troubled =
      ([2, 0, 0, 0, 4, 7, 3, 0, 0, 0, 6, 1, 0], [.ack 7, .reliable ⟨1, 0, .fin⟩]) := by
    decide +kernel
  have holds := (write_all_or_nothing { payloads := faltering } faltering_appends 6).2 troubled
  rw [filled] at holds
  exact ⟨faltering_appends, filled, holds⟩

end PacketCodec

end ResumableSession
