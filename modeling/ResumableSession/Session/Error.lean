import ResumableSession.Session.Close
import ResumableSession.Wire.Packet

/-!
# What ends a session, and what goes wrong in one
-/

namespace ResumableSession

/-- Why a session ended. -/
inductive CloseReason where
  /-- The close handshake was completed. -/
  | graceful
  /-- The creating line closed before there was a session. -/
  | connectFailed
  /-- Closed locally before there was a session, or shut down. -/
  | aborted
  /-- No line was bound for the whole offline timeout. -/
  | offlineTimeout
  /-- A Fin or FinAck came that had no place. -/
  | protocolViolation
  /-- The send buffer and its counters disagree. -/
  | bookkeeping
  /-- The peer's ack on a rebound line is outside the buffered range. -/
  | resyncRejected
  /-- A buffered packet cannot be encoded. -/
  | unencodable
deriving DecidableEq, Repr

/-- The name of a reason in texts. -/
def CloseReason.name : CloseReason → String
  | .graceful => "Graceful"
  | .connectFailed => "ConnectFailed"
  | .aborted => "Aborted"
  | .offlineTimeout => "OfflineTimeout"
  | .protocolViolation => "ProtocolViolation"
  | .bookkeeping => "Bookkeeping"
  | .resyncRejected => "ResyncRejected"
  | .unencodable => "Unencodable"

/-- Why no session came to be. -/
inductive ConnectFailure where
  /-- The session ended before the server answered. -/
  | ended (reason : CloseReason)
  /-- The server did not answer in time. -/
  | timedOut
deriving DecidableEq, Repr

/-- The wording of the cause. -/
def ConnectFailure.message : ConnectFailure → String
  | .ended reason => reason.name
  | .timedOut => "handshake timed out"

/-- Why a handshake came to nothing. -/
inductive Rejection where
  /-- The accepted connection ended before its first packet. -/
  | closedBeforeHandshake
  /-- The dialed connection ended before the answer. -/
  | closedDuringHandshake
  /-- The answer is of the wrong kind. -/
  | unexpected (kind : PacketKind)
deriving DecidableEq, Repr

/-- The wording of the cause. -/
def Rejection.message : Rejection → String
  | .closedBeforeHandshake => "connection closed before handshake"
  | .closedDuringHandshake => "connection closed during handshake"
  | .unexpected kind => s!"unexpected {kind.name}"

/-- How a peer breaks the protocol. -/
inductive Violation where
  /-- A connection starts with a packet that opens no line. -/
  | firstPacket (kind : PacketKind)
  /-- An id is neither the expected one nor an old one. -/
  | gap (id expected : UInt32)
  /-- A Fin or FinAck has no place in the close handshake. -/
  | unexpectedClose (cause : UnexpectedClose)
deriving DecidableEq, Repr

/-- The wording of the cause. -/
def Violation.message : Violation → String
  | .firstPacket kind => s!"{kind.name} as first packet"
  | .gap id expected => s!"message id {id.toNat} != expected {expected.toNat}"
  | .unexpectedClose cause => cause.message

/-- How a transport fails. -/
inductive TransportError where
  /-- The stream ended inside a packet. -/
  | truncated
  /-- The transport itself reports an early end. -/
  | unexpectedEnd
  /-- The peer reset the connection. -/
  | connectionReset
  /-- The peer does not read any more. -/
  | brokenPipe
  /-- Nobody listens at the address. -/
  | connectionRefused
  /-- The address is taken. -/
  | addressInUse
  /-- The address is not one of this machine. -/
  | addressNotAvailable
  /-- The number on the machine is kept for others. -/
  | permissionDenied
  /-- The address cannot be used in this way. -/
  | invalidArgument
  /-- The address belongs to a zone that there is not. -/
  | noDevice
  /-- The transport gave up waiting. -/
  | timedOut
  /-- The transport accepts no bytes. -/
  | writeZero
deriving DecidableEq, Repr

/-- The wording of the failure. -/
def TransportError.message : TransportError → String
  | .truncated => "EOF while reading packet"
  | .unexpectedEnd => "unexpected end of file"
  | .connectionReset => "connection reset"
  | .brokenPipe => "broken pipe"
  | .connectionRefused => "Connection refused (os error 111)"
  | .addressInUse => "Address already in use (os error 98)"
  | .addressNotAvailable => "Cannot assign requested address (os error 99)"
  | .permissionDenied => "Permission denied (os error 13)"
  | .invalidArgument => "Invalid argument (os error 22)"
  | .noDevice => "No such device (os error 19)"
  | .timedOut => "timed out"
  | .writeZero => "write zero"

/-- Everything that can go wrong in a session. -/
inductive SessionError where
  /-- No session came to be. -/
  | connectFailed (cause : ConnectFailure)
  /-- The session has ended. -/
  | channelClosed
  /-- A handshake came to nothing. -/
  | handshakeRejected (cause : Rejection)
  /-- The peer broke the protocol. -/
  | protocolViolation (cause : Violation)
  /-- The send buffer and its counters disagree. -/
  | bookkeeping (pending : Int) (lastSendId lastSendIdOfLine : UInt32) (buffered : Nat)
  /-- The ack of a rebind is outside the buffered range. -/
  | resyncRejected (ack low high : UInt32)
  /-- The transport failed. -/
  | transport (cause : TransportError)
  /-- A packet could not be encoded or decoded. -/
  | codec (cause : CodecError)
deriving DecidableEq, Repr

/-- The wording of an error. -/
def SessionError.message : SessionError → String
  | .connectFailed cause => s!"connect failed: {cause.message}"
  | .channelClosed => "channel closed"
  | .handshakeRejected cause => s!"handshake rejected: {cause.message}"
  | .protocolViolation cause => s!"protocol violation: {cause.message}"
  | .bookkeeping pending lastSendId lastSendIdOfLine buffered =>
      "send bookkeeping broken: pending=" ++ toString pending ++
        " last_send_id=" ++ toString lastSendId.toNat ++
        " last_send_id_of_line=" ++ toString lastSendIdOfLine.toNat ++
        " buffered=" ++ toString buffered
  | .resyncRejected ack low high =>
      s!"rebind ack {ack.toNat} outside [{low.toNat}, {high.toNat}]"
  | .transport cause => s!"io error: {cause.message}"
  | .codec cause => s!"codec error: {cause.message}"

end ResumableSession
