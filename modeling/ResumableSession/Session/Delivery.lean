import ResumableSession.Session.Error

/-!
# Reliable delivery

Every reliable packet gets the next id and stays in the send buffer until the
peer has acknowledged it.  Acks are cumulative.  A line is told each packet
once; after a line was replaced, what the peer has not received is sent again.
-/

namespace ResumableSession

/-- What became of a received id. -/
inductive Receipt where
  /-- It was received before; nothing changes. -/
  | duplicate
  /-- It was the next one, and counts as received now. -/
  | accepted
deriving DecidableEq, Repr

/-- The state of reliable delivery in both directions. -/
structure Delivery (P : Type) where
  /-- The packets that the peer has not acknowledged, oldest first. -/
  buffer : List (ReliablePacket P) := []
  /-- The last id given out. -/
  lastSendId : UInt32 := 0
  /-- The last id handed to the bound line. -/
  lastSendIdOfLine : UInt32 := 0
  /-- The highest id received in order. -/
  lastRecvId : UInt32 := 0
  /-- The ack that the peer was told last. -/
  lastAckSent : UInt32 := 0
deriving DecidableEq, Repr

namespace Delivery

variable {P : Type}

/-- The id of the oldest packet in the buffer. -/
def oldestId (delivery : Delivery P) : Option UInt32 := delivery.buffer.head?.map (·.id)

/-- Whether the peer does not know yet what was received last. -/
def ackPending (delivery : Delivery P) : Bool := delivery.lastAckSent != delivery.lastRecvId

/-- The peer was told `ack` by other means than a flush. -/
def markAckSent (delivery : Delivery P) (ack : UInt32) : Delivery P :=
  { delivery with lastAckSent := ack }

/-- Gives `body` the next id and puts it at the end of the buffer. -/
def push (delivery : Delivery P) (body : ReliableBody P) : Delivery P × UInt32 :=
  let id := delivery.lastSendId + 1
  ({ delivery with lastSendId := id, buffer := delivery.buffer ++ [⟨id, 0, body⟩] }, id)

/-- How many ids the bound line has not been handed; negative if it was handed
ids that were never given out. -/
def unsent (delivery : Delivery P) : Int :=
  (delivery.lastSendId.toNat : Int) - delivery.lastSendIdOfLine.toNat

/-- Takes the packets that the bound line has not been handed, stamped with the
latest ack.  Fails if the buffer does not hold that many. -/
def flush (delivery : Delivery P) :
    Except SessionError (Delivery P × List (ReliablePacket P)) :=
  if delivery.unsent < 0 ∨ (delivery.buffer.length : Int) < delivery.unsent then
    .error (.bookkeeping delivery.unsent delivery.lastSendId delivery.lastSendIdOfLine
      delivery.buffer.length)
  else
    let kept := delivery.buffer.length - delivery.unsent.toNat
    let handed :=
      (delivery.buffer.drop kept).map fun packet => { packet with ack := delivery.lastRecvId }
    .ok
      ({ delivery with
          buffer := delivery.buffer.take kept ++ handed
          lastSendIdOfLine := delivery.lastSendId
          lastAckSent := if handed.isEmpty then delivery.lastAckSent else delivery.lastRecvId },
        handed)

/-- Checks a received id, and counts it as received if it is the next one. -/
def accept (delivery : Delivery P) (id : UInt32) :
    Except SessionError (Delivery P × Receipt) :=
  if id ≤ delivery.lastRecvId then .ok (delivery, .duplicate)
  else
    let expected := delivery.lastRecvId + 1
    if id ≠ expected then .error (.protocolViolation (.gap id expected))
    else .ok ({ delivery with lastRecvId := id }, .accepted)

/-- Drops the packets up to `ack` from the front of the buffer, and says how many. -/
def removeAcked (delivery : Delivery P) (ack : UInt32) : Delivery P × Nat :=
  let remaining := delivery.buffer.dropWhile fun packet => packet.id ≤ ack
  ({ delivery with buffer := remaining }, delivery.buffer.length - remaining.length)

/-- The lowest ack that a rebind may report: one before the oldest packet, or
the last id given out if nothing is buffered. -/
def resyncLow (delivery : Delivery P) : UInt32 :=
  match delivery.oldestId with
  | some id => if id = 0 then 0 else id - 1
  | none => delivery.lastSendId

/-- Checks the ack that the peer reported on a new line. -/
def checkResync (delivery : Delivery P) (ack : UInt32) : Except SessionError Unit :=
  if ack < delivery.resyncLow ∨ delivery.lastSendId < ack then
    .error (.resyncRejected ack delivery.resyncLow delivery.lastSendId)
  else .ok ()

/-- Starts a new line whose peer has everything up to `ack`: the next flush
hands it all that follows. -/
def rewindLine (delivery : Delivery P) (ack : UInt32) : Delivery P :=
  { delivery with lastSendIdOfLine := ack, lastAckSent := delivery.lastRecvId }

end Delivery

end ResumableSession
