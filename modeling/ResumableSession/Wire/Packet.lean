import ResumableSession.Wire.Error

/-!
# Packets

Everything that travels on a line.  Data, Fin and FinAck are the reliable
packets: they carry an id that their sender assigned and, like every ack, the
highest id that it has received.
-/

namespace ResumableSession

/-- The ten kinds of packet. -/
inductive PacketKind where
  /-- A client asks for a new session. -/
  | createRequest
  /-- A server answers with the id of the new session. -/
  | createResponse
  /-- A client asks to bind a new line to a session. -/
  | rebindRequest
  /-- A server answers with its cumulative ack. -/
  | rebindResponse
  /-- A cumulative ack on its own. -/
  | ack
  /-- A payload of the application. -/
  | data
  /-- The sender will send no more payloads. -/
  | fin
  /-- The answer to the peer's Fin. -/
  | finAck
  /-- A keepalive probe. -/
  | pingRequest
  /-- The answer to a probe. -/
  | pingResponse
deriving DecidableEq, Repr

namespace PacketKind

/-- The kinds in the order of their tags. -/
def all : List PacketKind :=
  [.createRequest, .createResponse, .rebindRequest, .rebindResponse, .ack, .data, .fin,
    .finAck, .pingRequest, .pingResponse]

/-- The byte that names a kind on the wire. -/
def tag : PacketKind → UInt8
  | .createRequest => 0
  | .createResponse => 1
  | .rebindRequest => 2
  | .rebindResponse => 3
  | .ack => 4
  | .data => 5
  | .fin => 6
  | .finAck => 7
  | .pingRequest => 8
  | .pingResponse => 9

/-- The kind that a tag names. -/
def ofTag (tag : UInt8) : Except WireError PacketKind :=
  match all[tag.toNat]? with
  | some kind => .ok kind
  | none => .error (.unknownTag tag)

/-- The name of a kind in texts. -/
def name : PacketKind → String
  | .createRequest => "CreateRequest"
  | .createResponse => "CreateResponse"
  | .rebindRequest => "RebindRequest"
  | .rebindResponse => "RebindResponse"
  | .ack => "Ack"
  | .data => "Data"
  | .fin => "Fin"
  | .finAck => "FinAck"
  | .pingRequest => "PingRequest"
  | .pingResponse => "PingResponse"

end PacketKind

/-- What a reliable packet carries. -/
inductive ReliableBody (P : Type) where
  /-- A payload of the application. -/
  | data (payload : P)
  /-- The sender's direction is closed. -/
  | fin
  /-- The peer's Fin was received. -/
  | finAck
deriving DecidableEq, Repr

/-- A packet that takes part in ordered, acknowledged delivery. -/
structure ReliablePacket (P : Type) where
  /-- The sender's number for the packet; the first of a session is one. -/
  id : UInt32
  /-- The highest id that the sender has received. -/
  ack : UInt32
  body : ReliableBody P
deriving DecidableEq, Repr

/-- A packet of any kind. -/
inductive Packet (P : Type) where
  /-- Asks for a new session; the token may be empty. -/
  | createRequest (token : String)
  /-- Gives the id of the new session. -/
  | createResponse (sessionId : UInt32)
  /-- Asks to bind this line to a session. -/
  | rebindRequest (sessionId lineIndex clientAck : UInt32)
  /-- Accepts a line for a session. -/
  | rebindResponse (serverAck : UInt32)
  /-- Everything up to this id was received. -/
  | ack (ack : UInt32)
  /-- Data, Fin or FinAck. -/
  | reliable (packet : ReliablePacket P)
  /-- Asks for the same ticks back. -/
  | pingRequest (ticks : UInt32)
  /-- Gives the ticks of a probe back. -/
  | pingResponse (ticks : UInt32)
deriving DecidableEq, Repr

variable {P : Type}

/-- The kind of packet that carries a body. -/
def ReliableBody.kind : ReliableBody P → PacketKind
  | .data _ => .data
  | .fin => .fin
  | .finAck => .finAck

/-- The kind of a packet. -/
def Packet.kind : Packet P → PacketKind
  | .createRequest _ => .createRequest
  | .createResponse _ => .createResponse
  | .rebindRequest .. => .rebindRequest
  | .rebindResponse _ => .rebindResponse
  | .ack _ => .ack
  | .reliable packet => packet.body.kind
  | .pingRequest _ => .pingRequest
  | .pingResponse _ => .pingResponse

/-- The payload of a Data packet. -/
def Packet.payload? : Packet P → Option P
  | .reliable { body := .data payload, .. } => some payload
  | _ => none

end ResumableSession
