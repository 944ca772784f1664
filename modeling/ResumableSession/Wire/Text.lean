import ResumableSession.Wire.Varint

/-!
# Texts on the wire

A text is its length in bytes, as a variable-length integer, and then its UTF-8
bytes.  A reader takes the length before it looks for the bytes, and the bytes
before it looks at what they say.
-/

namespace ResumableSession.WireText

/-- The UTF-8 bytes of a text. -/
def utf8 (text : String) : Bytes := text.toUTF8.data.toList

/-- The text that has these UTF-8 bytes, if there is one. -/
def ofUtf8? (bytes : Bytes) : Option String := String.fromUTF8? ⟨bytes.toArray⟩

/-- A length field followed by the bytes it counts. -/
def counted (bytes : Bytes) : Bytes :=
  Varint.encode (UInt32.ofNat bytes.length) ++ bytes

/-- The size of `counted bytes` for `size` bytes. -/
def countedLength (size : Nat) : Nat := Varint.length (UInt32.ofNat size) + size

/-- Reads a length field and the bytes it counts. -/
def readCounted : Reader WireError Bytes := do
  let size ← Varint.read
  Reader.octets size.toNat .malformed

/-- The encoding of a text. -/
def encode (text : String) : Bytes := counted (utf8 text)

/-- The length of the encoding of a text. -/
def length (text : String) : Nat := countedLength text.utf8ByteSize

/-- Adds the encoding of `text` to the buffer. -/
def write {ε : Type} (text : String) : Writer ε Unit := Writer.bytes (encode text)

/-- Reads one text. -/
def read : Reader WireError String := do
  match ofUtf8? (← readCounted) with
  | some text => return text
  | none => throw .invalidText

end ResumableSession.WireText
