import ResumableSession.Bytes
import ResumableSession.Wire.Error

/-!
# Variable-length integers

A 32-bit integer is written in groups of seven bits, least significant group
first; every byte but the last has its high bit set.  A reader accepts longer
forms than the writer produces, up to five bytes, and the fifth may carry only
the four bits that are left.
-/

namespace ResumableSession.Varint

/-- The most bytes an integer can take. -/
def maxLength : Nat := 5

/-- The groups of a natural number, least significant first. -/
def groups (value : Nat) : Bytes :=
  if value < 128 then [UInt8.ofNat value]
  else UInt8.ofNat (value % 128 + 128) :: groups (value / 128)

/-- The shortest encoding of `value`. -/
def encode (value : UInt32) : Bytes := groups value.toNat

/-- The number of seven-bit groups of a natural number; zero has one. -/
def groupCount (value : Nat) : Nat :=
  if value < 128 then 1 else groupCount (value / 128) + 1

/-- The length of the shortest encoding of `value`. -/
def length (value : UInt32) : Nat := groupCount value.toNat

/-- Adds the encoding of `value` to the buffer. -/
def write {ε : Type} (value : UInt32) : Writer ε Unit := Writer.bytes (encode value)

/-- Reads groups while the high bit is set, `allowed` more at most.  The last
allowed group must stay below sixteen. -/
def readGroups : Nat → Reader WireError Nat
  | 0, input => .error .varintOverflow input
  | _ + 1, [] => .error .malformed []
  | allowed + 1, byte :: rest =>
      let group := byte.toNat % 128
      if allowed = 0 ∧ 15 < group then .error .varintOverflow rest
      else if byte.toNat < 128 then .ok group rest
      else
        match readGroups allowed rest with
        | .ok higher left => .ok (group + 128 * higher) left
        | .error failure left => .error failure left

/-- Reads one integer. -/
def read : Reader WireError UInt32 := do
  let value ← readGroups maxLength
  return UInt32.ofNat value

end ResumableSession.Varint
