import ResumableSession.Bytes

/-!
# Text from doubtful bytes

Bytes that should be UTF-8 but need not be.  Whatever cannot be the start of a
character, or is one cut short, becomes a replacement character.
-/

namespace ResumableSession.Text

/-- What stands for bytes that make up no character. -/
def replacement : Char := '\uFFFD'

/-- The first byte of a character of several bytes: how many bytes follow, the bits
that it gives, and the least and the largest byte that may follow it directly. -/
def leadingByte? (byte : UInt8) : Option (Nat × Nat × UInt8 × UInt8) :=
  let value := byte.toNat
  if 0xC2 ≤ value ∧ value ≤ 0xDF then some (1, value - 0xC0, 0x80, 0xBF)
  else if value = 0xE0 then some (2, 0, 0xA0, 0xBF)
  else if value = 0xED then some (2, 0xD, 0x80, 0x9F)
  else if 0xE1 ≤ value ∧ value ≤ 0xEF then some (2, value - 0xE0, 0x80, 0xBF)
  else if value = 0xF0 then some (3, 0, 0x90, 0xBF)
  else if value = 0xF4 then some (3, 4, 0x80, 0x8F)
  else if 0xF1 ≤ value ∧ value ≤ 0xF3 then some (3, value - 0xF0, 0x80, 0xBF)
  else none

/-- A character that is being read. -/
structure Unfinished where
  /-- The bytes that have to follow. -/
  left : Nat
  /-- The bits so far. -/
  bits : Nat
  /-- The least byte that may come next. -/
  least : UInt8
  /-- The largest byte that may come next. -/
  largest : UInt8
deriving DecidableEq, Repr

/-- Begins a character. -/
def startCharacter (byte : UInt8) : List Char × Option Unfinished :=
  if byte < 0x80 then ([Char.ofNat byte.toNat], none)
  else
    match leadingByte? byte with
    | some (left, bits, least, largest) => ([], some ⟨left, bits, least, largest⟩)
    | none => ([replacement], none)

/-- Takes one more byte. -/
def pushByte (unfinished : Option Unfinished) (byte : UInt8) : List Char × Option Unfinished :=
  match unfinished with
  | none => startCharacter byte
  | some ⟨left, bits, least, largest⟩ =>
      if least ≤ byte ∧ byte ≤ largest then
        let bits := bits * 64 + byte.toNat % 64
        if left ≤ 1 then ([Char.ofNat bits], none)
        else ([], some ⟨left - 1, bits, 0x80, 0xBF⟩)
      else
        let (chars, next) := startCharacter byte
        (replacement :: chars, next)

/-- The characters of bytes that follow the start of a character. -/
def lossyFrom (unfinished : Option Unfinished) : Bytes → List Char
  | [] => if unfinished.isSome then [replacement] else []
  | byte :: bytes =>
      let (chars, next) := pushByte unfinished byte
      chars ++ lossyFrom next bytes

/-- The text that bytes make, as far as they make one. -/
def lossy (bytes : Bytes) : String := String.ofList (lossyFrom none bytes)

end ResumableSession.Text
