import ResumableSession.Line.Handshake
import ResumableSession.Wire.Codec

/-!
# Receiving packets from a stream

A stream delivers bytes in pieces of its own choosing.  Received bytes wait in
an inbox until they make up a packet; more is read only when they do not.  The
stream may end between two packets but not inside one.
-/

namespace ResumableSession

/-- What a read from a stream meets next. -/
inductive Arrival where
  /-- Some bytes.  A read that gets none of them means the end of the stream. -/
  | bytes (bytes : Bytes)
  | failure (cause : TransportError)
deriving DecidableEq, Repr

/-- Bytes that were read and not decoded yet, and the room set aside for them. -/
structure Inbox where
  /-- The bytes, oldest first. -/
  bytes : Bytes := []
  /-- How many bytes there is room for. -/
  capacity : Nat := 8 * 1024
deriving DecidableEq, Repr

namespace Inbox

/-- The least number of bytes a full inbox grows by. -/
def leastGrowth : Nat := 64

/-- Makes room for more: a full inbox doubles. -/
def makeRoom (inbox : Inbox) : Inbox :=
  if inbox.bytes.length < inbox.capacity then inbox
  else { inbox with capacity := max (2 * inbox.capacity) (inbox.bytes.length + leastGrowth) }

/-- The number of bytes that still fit. -/
def room (inbox : Inbox) : Nat := inbox.capacity - inbox.bytes.length

theorem bytes_makeRoom (inbox : Inbox) : inbox.makeRoom.bytes = inbox.bytes := by
  unfold makeRoom
  split <;> rfl

theorem room_makeRoom_pos (inbox : Inbox) : 0 < inbox.makeRoom.room := by
  unfold makeRoom room leastGrowth
  split
  · omega
  · simp only
    omega

/-- Adds bytes that were read. -/
def add (inbox : Inbox) (bytes : Bytes) : Inbox := { inbox with bytes := inbox.bytes ++ bytes }

end Inbox

/-- What one read of at most `room` bytes gets, and what is left to read.  No
bytes mean the end of the stream, as does a stream that has run dry. -/
def readArrival (room : Nat) : List Arrival → Except TransportError Bytes × List Arrival
  | [] => (.ok [], [])
  | .failure cause :: later => (.error cause, later)
  | .bytes bytes :: later =>
      if bytes.length ≤ room then (.ok bytes, later)
      else (.ok (bytes.take room), .bytes (bytes.drop room) :: later)

/-- The bytes that a stream is still going to deliver, counting each piece as one more. -/
def arrivalWeight : List Arrival → Nat
  | [] => 0
  | .failure _ :: later => arrivalWeight later + 1
  | .bytes bytes :: later => arrivalWeight later + bytes.length + 1

theorem arrivalWeight_readArrival {room : Nat} (positive : 0 < room)
    {arrivals left : List Arrival} {byte : UInt8} {bytes : Bytes}
    (read : readArrival room arrivals = (.ok (byte :: bytes), left)) :
    arrivalWeight left + bytes.length + 1 ≤ arrivalWeight arrivals ∧
      arrivalWeight left < arrivalWeight arrivals := by
  cases arrivals with
  | nil => simp [readArrival] at read
  | cons arrival later =>
      cases arrival with
      | failure cause => simp [readArrival] at read
      | bytes piece =>
          simp only [readArrival] at read
          split at read
          · obtain ⟨rfl, rfl⟩ : piece = byte :: bytes ∧ later = left := by simpa using read
            simp only [arrivalWeight, List.length_cons]
            omega
          · obtain ⟨taken, rfl⟩ :
                piece.take room = byte :: bytes ∧ .bytes (piece.drop room) :: later = left := by
              simpa using read
            have lengths := congrArg List.length taken
            simp only [List.length_take, List.length_cons] at lengths
            simp only [arrivalWeight, List.length_drop]
            omega

/-- What receiving came to. -/
structure Reception (P α : Type) where
  outcome : Except SessionError α
  /-- The bytes that were read and not used. -/
  inbox : Inbox
  /-- What was not read. -/
  arrivals : List Arrival

namespace PacketCodec

variable {P : Type}

/-- Receives one packet, or `none` at the end of a stream that ends between two
packets.  Bytes that were read before are decoded before more is read. -/
def receive (codec : PacketCodec P) (inbox : Inbox) (arrivals : List Arrival) :
    Reception P (Option (Packet P)) :=
  match codec.read inbox.bytes with
  | .error cause rest => ⟨.error (.codec cause), { inbox with bytes := rest }, arrivals⟩
  | .ok (some packet) rest => ⟨.ok (some packet), { inbox with bytes := rest }, arrivals⟩
  | .ok none rest =>
      let inbox := { inbox with bytes := rest }.makeRoom
      match _met : readArrival inbox.room arrivals with
      | (.error cause, left) => ⟨.error (.transport cause), inbox, left⟩
      | (.ok [], left) =>
          if inbox.bytes.isEmpty then ⟨.ok none, inbox, left⟩
          else ⟨.error (.transport .truncated), inbox, left⟩
      | (.ok (byte :: bytes), left) => receive codec (inbox.add (byte :: bytes)) left
termination_by arrivalWeight arrivals
decreasing_by
  exact (arrivalWeight_readArrival (Inbox.room_makeRoom_pos _) _met).2

theorem length_of_read {codec : PacketCodec P} {buffer rest : Bytes}
    {found : Option (Packet P)} (read : codec.read buffer = .ok found rest) :
    rest.length + (if found.isSome then 1 else 0) ≤ buffer.length := by
  simp only [PacketCodec.read, bind, EStateM.bind, EStateM.adaptExcept, Frame.split] at read
  revert read
  cases Frame.announced? buffer with
  | none =>
      simp only [pure, EStateM.pure, EStateM.Result.ok.injEq]
      rintro ⟨rfl, rfl⟩
      simp
  | some length =>
      by_cases large : codec.limit < length
      · simp [large]
      by_cases empty : length = 0
      · simp [empty]
      by_cases short : buffer.length < length + Frame.headerLength
      · simp only [large, empty, short, if_false, if_true, pure, EStateM.pure,
          EStateM.Result.ok.injEq]
        rintro ⟨rfl, rfl⟩
        simp
      simp only [large, empty, short, if_false]
      cases Reader.result codec.readBody ((buffer.drop Frame.headerLength).take length) with
      | error cause =>
          intro failed
          cases failed
      | ok packet =>
          simp only [pure, EStateM.pure, EStateM.Result.ok.injEq]
          rintro ⟨rfl, rfl⟩
          simp only [List.length_drop, Frame.headerLength, Option.isSome_some, if_true] at short ⊢
          omega

/-- How much of a stream is left, counting what was read and not decoded. -/
def remaining (inbox : Inbox) (arrivals : List Arrival) : Nat :=
  inbox.bytes.length + arrivalWeight arrivals

theorem remaining_receive_lt {codec : PacketCodec P} {inbox : Inbox} {arrivals : List Arrival}
    {packet : Packet P} (received : (codec.receive inbox arrivals).outcome = .ok (some packet)) :
    remaining (codec.receive inbox arrivals).inbox (codec.receive inbox arrivals).arrivals <
      remaining inbox arrivals := by
  fun_induction receive codec inbox arrivals with
  | case1 => simp at received
  | case2 inbox arrivals found rest read =>
      have shorter := length_of_read read
      simp only [remaining, Option.isSome_some, if_true] at shorter ⊢
      omega
  | case3 => simp at received
  | case4 => simp at received
  | case5 => simp at received
  | case6 inbox arrivals rest read grown byte bytes left readMore ih =>
      have less := (arrivalWeight_readArrival (Inbox.room_makeRoom_pos _) readMore).1
      have same := length_of_read read
      have bound := ih received
      have bytesGrown : grown.bytes = rest := Inbox.bytes_makeRoom _
      simp only [remaining, Inbox.add, bytesGrown, List.length_append, List.length_cons] at bound ⊢
      omega

/-- Receives packets until the stream ends or fails. -/
def receiveAll (codec : PacketCodec P) (inbox : Inbox) (arrivals : List Arrival) :
    List (Packet P) × Except SessionError Unit :=
  match _received : (codec.receive inbox arrivals).outcome with
  | .error cause => ([], .error cause)
  | .ok none => ([], .ok ())
  | .ok (some packet) =>
      let next := codec.receive inbox arrivals
      let (packets, ending) := receiveAll codec next.inbox next.arrivals
      (packet :: packets, ending)
termination_by remaining inbox arrivals
decreasing_by exact remaining_receive_lt _received

/-- Receives the handshake that a connection has to start with. -/
def receiveHandshake (codec : PacketCodec P) (inbox : Inbox) (arrivals : List Arrival) :
    Reception P Handshake :=
  let first := codec.receive inbox arrivals
  let outcome :=
    match first.outcome with
    | .error cause => .error cause
    | .ok none => .error (.handshakeRejected .closedBeforeHandshake)
    | .ok (some packet) => Handshake.ofPacket packet
  ⟨outcome, first.inbox, first.arrivals⟩

end PacketCodec

end ResumableSession
