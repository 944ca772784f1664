import ResumableSession.Bytes
import ResumableSession.Wire.Error

/-!
# Frames

A packet travels as a frame: the length of its body as four bytes, least
significant first, and then the body.  A body has at least one byte and at most
the limit in force.
-/

namespace ResumableSession.Frame

/-- The size of the length field. -/
def headerLength : Nat := 4

/-- The limit on a body when none is set. -/
def defaultLimit : Nat := 1024 * 1024

/-- No limit may be set above this. -/
def hardLimit : Nat := 16 * 1024 * 1024

/-- A 32-bit length as four bytes, least significant first. -/
def lengthField (length : Nat) : Bytes :=
  [UInt8.ofNat length, UInt8.ofNat (length / 0x100), UInt8.ofNat (length / 0x10000),
    UInt8.ofNat (length / 0x1000000)]

/-- The body length that the first four bytes announce, if there are four. -/
def announced? : Bytes → Option Nat
  | b₀ :: b₁ :: b₂ :: b₃ :: _ =>
      some (b₀.toNat + 0x100 * b₁.toNat + 0x10000 * b₂.toNat + 0x1000000 * b₃.toNat)
  | _ => none

/-- The length of the frame at the head of the buffer, its length field
included; zero while the length field is incomplete. -/
def peekLength (buffer : Bytes) : Nat :=
  match announced? buffer with
  | some length => length + headerLength
  | none => 0

/-- Adds a blank length field to the buffer. -/
def reserve (buffer : Bytes) : Bytes := buffer ++ lengthField 0

/-- Fills in the length field that was left blank at offset `start`, counting
everything after it as the body.  A body over `limit` is cut off again, length
field and all. -/
def finish (limit start : Nat) : Writer WireError Unit := fun buffer =>
  let body := buffer.drop (start + headerLength)
  if limit < body.length then .error (.size body.length) (buffer.take start)
  else .ok () (buffer.take start ++ lengthField body.length ++ body)

/-- Takes one frame off the head of the buffer and gives its body, or `none`
while the frame is incomplete.  A length that no body may have fails at once,
whatever follows, and leaves the buffer as it was. -/
def split (limit : Nat) : Reader WireError (Option Bytes) := fun buffer =>
  match announced? buffer with
  | none => .ok none buffer
  | some length =>
      if limit < length then .error (.size length) buffer
      else if length = 0 then .error .malformed buffer
      else if buffer.length < length + headerLength then .ok none buffer
      else
        let body := buffer.drop headerLength
        .ok (some (body.take length)) (body.drop length)

end ResumableSession.Frame
