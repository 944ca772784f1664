/-!
# Faults in the wire format

The causes for which bytes are not a packet, or a packet cannot become bytes.
-/

namespace ResumableSession

/-- What is wrong with bytes read from, or meant for, a line. -/
inductive WireError where
  /-- A body of this many bytes is over the limit in force. -/
  | size (length : Nat)
  /-- No packet kind has this tag. -/
  | unknownTag (tag : UInt8)
  /-- An integer is longer than five groups or does not fit 32 bits. -/
  | varintOverflow
  /-- The bytes of a text are not UTF-8. -/
  | invalidText
  /-- Something is missing from the packet, or left over after it. -/
  | malformed
deriving DecidableEq, Repr

/-- The wording of a fault. -/
def WireError.message : WireError → String
  | .size length => s!"size limit exceeded: {length}"
  | .unknownTag tag => s!"unknown type {tag.toNat}"
  | .varintOverflow => "varint overflow"
  | .invalidText => "string is not valid utf-8"
  | .malformed => "malformed packet"

/-- Why a packet was refused by the codec. -/
inductive CodecError where
  /-- The packet breaks the wire format. -/
  | wire (cause : WireError)
  /-- The payload declares that it has no encoding at the moment. -/
  | notSerializable
  /-- The payload's own codec failed, with its own wording. -/
  | payload (detail : String)
deriving DecidableEq, Repr

/-- The wording of a refusal. -/
def CodecError.message : CodecError → String
  | .wire cause => s!"wire error: {cause.message}"
  | .notSerializable => "packet cannot be serialized now"
  | .payload detail => s!"payload codec error: {detail}"

end ResumableSession
