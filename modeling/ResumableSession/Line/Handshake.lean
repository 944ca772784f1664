import ResumableSession.Session.Error

/-!
# Handshakes

The first packet of a connection says what its line is for: to create a session
or to rebind one.
-/

namespace ResumableSession

/-- What a line is opened for. -/
inductive Handshake where
  /-- To create a session; the token says on whose behalf, if anyone's. -/
  | create (token : String)
  /-- To take over a session, in which the client has everything up to `clientAck`. -/
  | rebind (sessionId lineIndex clientAck : UInt32)
deriving DecidableEq, Repr

namespace Handshake

variable {P : Type}

/-- The index of the line; a creating line comes first. -/
def lineIndex : Handshake → UInt32
  | create _ => 0
  | rebind _ lineIndex _ => lineIndex

/-- The packet that asks for the handshake. -/
def toPacket : Handshake → Packet P
  | create token => .createRequest token
  | rebind sessionId lineIndex clientAck => .rebindRequest sessionId lineIndex clientAck

/-- The handshake that the first packet of a connection asks for. -/
def ofPacket : Packet P → Except SessionError Handshake
  | .createRequest token => .ok (create token)
  | .rebindRequest sessionId lineIndex clientAck => .ok (rebind sessionId lineIndex clientAck)
  | packet => .error (.protocolViolation (.firstPacket packet.kind))

theorem ofPacket_toPacket (handshake : Handshake) :
    ofPacket (toPacket handshake : Packet P) = .ok handshake := by
  cases handshake <;> rfl

end Handshake

end ResumableSession
