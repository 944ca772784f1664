import ResumableSession.Wire.Frame
import ResumableSession.Wire.Packet
import ResumableSession.Wire.Text

/-!
# Packets as bytes

A packet becomes one frame whose body is the packet's tag and its fields.  The
payload of a Data packet is opaque: its encoding is a parameter.  Encoding is
all or nothing, decoding takes exactly one frame, and a body must be used up by
the fields of its packet.
-/

namespace ResumableSession

/-- An encoding of application payloads. -/
structure PayloadCodec (P : Type) where
  /-- An upper bound on the encoded length; zero says "not now".  Lengths are exact numbers
  here: as machine words, the sums of `PacketCodec.estimate` and `PacketCodec.checkPayload`
  overflow for an estimate less than 15 below the largest word, which `raw` never gives. -/
  estimate : P → Nat
  /-- Adds the encoding of a payload to a buffer. -/
  write : P → Writer CodecError Unit
  /-- Reads a payload from the rest of a packet body. -/
  read : Reader CodecError P

namespace PayloadCodec

/-- Byte strings, as a length field and the bytes. -/
def raw : PayloadCodec Bytes where
  estimate payload := WireText.countedLength payload.length
  write payload := Writer.bytes (WireText.counted payload)
  read := WireText.readCounted.adaptExcept .wire

end PayloadCodec

/-- A codec for packets with payloads in `P`. -/
structure PacketCodec (P : Type) where
  /-- The encoding of payloads. -/
  payloads : PayloadCodec P
  /-- The most bytes a packet body may have. -/
  limit : Nat := Frame.defaultLimit

namespace PacketCodec

variable {P : Type}

/-- The same codec with another limit, which the hard limit caps. -/
def withLimit (codec : PacketCodec P) (limit : Nat) : PacketCodec P :=
  { codec with limit := min limit Frame.hardLimit }

/-- An upper bound on the length of a packet's fields, without its payload. -/
def fieldEstimate : Packet P → Nat
  | .createRequest token => WireText.length token
  | .rebindRequest .. => 3 * Varint.maxLength
  | .reliable _ => 2 * Varint.maxLength
  | _ => Varint.maxLength

/-- An upper bound on the length of a packet's frame; zero if it must not be sent.  For a
Data packet it is 15 more than the estimate of the payload, a sum that no machine word
bounds here. -/
def estimate (codec : PacketCodec P) (packet : Packet P) : Nat :=
  let framed := Frame.headerLength + 1 + fieldEstimate packet
  match packet.payload? with
  | none => framed
  | some payload =>
      match codec.payloads.estimate payload with
      | 0 => 0
      | size => framed + size

/-- Whether a Data packet with this payload can be encoded whatever its id and
ack turn out to be.  The length that is compared with the limit is 11 more than the
estimate of the payload, a sum that no machine word bounds here. -/
def checkPayload (codec : PacketCodec P) (payload : P) : Except CodecError Unit :=
  match codec.payloads.estimate payload with
  | 0 => .error .notSerializable
  | size =>
      let body := 1 + 2 * Varint.maxLength + size
      if codec.limit < body then .error (.wire (.size body)) else .ok ()

/-- Adds the fields of a packet to the buffer. -/
def writeFields (codec : PacketCodec P) : Packet P → Writer CodecError Unit
  | .createRequest token => WireText.write token
  | .createResponse sessionId => Varint.write sessionId
  | .rebindRequest sessionId lineIndex clientAck => do
      Varint.write sessionId
      Varint.write lineIndex
      Varint.write clientAck
  | .rebindResponse serverAck => Varint.write serverAck
  | .ack ack => Varint.write ack
  | .reliable packet => do
      Varint.write packet.id
      Varint.write packet.ack
      match packet.body with
      | .data payload => codec.payloads.write payload
      | .fin | .finAck => pure ()
  | .pingRequest ticks => Varint.write ticks
  | .pingResponse ticks => Varint.write ticks

/-- Adds the frame of a packet to the buffer.  What was added before a failure
is cut off again. -/
def write (codec : PacketCodec P) (packet : Packet P) : Writer CodecError Unit := fun buffer =>
  if codec.estimate packet = 0 then .error .notSerializable buffer
  else
    match codec.writeFields packet (Frame.reserve buffer ++ [packet.kind.tag]) with
    | .error failure left => .error failure (left.take buffer.length)
    | .ok () filled =>
        (Frame.finish codec.limit buffer.length).adaptExcept .wire filled

/-- The frame of a packet. -/
def encode (codec : PacketCodec P) (packet : Packet P) : Except CodecError Bytes :=
  match codec.write packet [] with
  | .ok () frame => .ok frame
  | .error failure _ => .error failure

/-- An integer field of a packet body. -/
def field : Reader CodecError UInt32 := Varint.read.adaptExcept .wire

/-- Reads the fields of a packet of the given kind. -/
def readFields (codec : PacketCodec P) : PacketKind → Reader CodecError (Packet P)
  | .createRequest => return .createRequest (← WireText.read.adaptExcept .wire)
  | .createResponse => return .createResponse (← field)
  | .rebindRequest => return .rebindRequest (← field) (← field) (← field)
  | .rebindResponse => return .rebindResponse (← field)
  | .ack => return .ack (← field)
  | .data => return .reliable ⟨← field, ← field, .data (← codec.payloads.read)⟩
  | .fin => return .reliable ⟨← field, ← field, .fin⟩
  | .finAck => return .reliable ⟨← field, ← field, .finAck⟩
  | .pingRequest => return .pingRequest (← field)
  | .pingResponse => return .pingResponse (← field)

/-- Reads a whole packet body: a tag, its fields, and nothing more. -/
def readBody (codec : PacketCodec P) : Reader CodecError (Packet P) := do
  let tag ← Reader.octet (.wire .malformed)
  match PacketKind.ofTag tag with
  | .error failure => throw (.wire failure)
  | .ok kind =>
      let packet ← codec.readFields kind
      Reader.atEnd (.wire .malformed)
      return packet

/-- Reads one packet off the head of the buffer, or `none` while its frame is
incomplete.  A frame whose body is no packet is taken all the same. -/
def read (codec : PacketCodec P) : Reader CodecError (Option (Packet P)) := do
  match ← (Frame.split codec.limit).adaptExcept .wire with
  | none => return none
  | some body =>
      match Reader.result codec.readBody body with
      | .ok packet => return some packet
      | .error failure => throw failure

end PacketCodec

end ResumableSession
