/-!
# Characters in their places

A text to be read as a document is a list of characters, each with its place.  Only
such characters may occur as print or separate lines.  A carriage return, a line feed,
both together and a next-line character end a line alike; the separators of lines and
of paragraphs end one too, and remain what they are.
-/

namespace ResumableSession.Yaml

/-- A character in its place. -/
structure Glyph where
  char : Char
  /-- The number of bytes before it. -/
  offset : Nat
  /-- The number of lines before it. -/
  line : Nat
  /-- The number of characters before it on its line. -/
  column : Nat
deriving DecidableEq, Repr

namespace Glyph

/-- Whether it ends a line. -/
def isBreak (glyph : Glyph) : Bool := ['\n', '\u2028', '\u2029'].contains glyph.char

/-- Whether it is a space or a tab. -/
def isBlank (glyph : Glyph) : Bool := glyph.char == ' ' || glyph.char == '\t'

/-- Whether it may belong to a name. -/
def isWord (glyph : Glyph) : Bool :=
  glyph.char.isAlphanum || glyph.char == '_' || glyph.char == '-'

end Glyph

/-- A text that is being read. -/
abbrev Glyphs := List Glyph

namespace Glyphs

/-- Puts characters in their places. -/
def place (offset line column : Nat) : List Char → Glyphs
  | [] => []
  | '\r' :: '\n' :: rest => ⟨'\n', offset, line, column⟩ :: place (offset + 2) (line + 1) 0 rest
  | c :: rest =>
      let glyph : Glyph := ⟨if c = '\r' ∨ c = '\u0085' then '\n' else c, offset, line, column⟩
      glyph ::
        (if glyph.isBreak then place (offset + c.utf8Size) (line + 1) 0 rest
        else place (offset + c.utf8Size) line (column + 1) rest)

/-- Whether a document may contain the character. -/
def isAllowed (c : Char) : Bool :=
  let code := c.toNat
  c == '\t' || c == '\n' || c == '\r' || (0x20 ≤ code && code ≤ 0x7E) || code == 0x85 ||
    (0xA0 ≤ code && code ≤ 0xFFFD) || 0x10000 ≤ code

/-- The characters of a text, or nothing if one of them is not allowed. -/
def ofText? (text : String) : Option Glyphs :=
  if text.toList.all isAllowed then some (place 0 0 0 text.toList) else none

/-- The character that comes next. -/
def next? (text : Glyphs) : Option Char := text.head?.map (·.char)

/-- Whether the text is at its end or at the end of a line. -/
def atLineEnd (text : Glyphs) : Bool := text.head?.all (·.isBreak)

/-- Whether a word ends here. -/
def atSpace (text : Glyphs) : Bool := text.head?.all fun glyph => glyph.isBreak || glyph.isBlank

/-- Whether one of the characters comes next. -/
def atOneOf (chars : List Char) (text : Glyphs) : Bool := text.head?.any (chars.contains ·.char)

/-- Whether the text goes on with three times `c`, and a word ends there. -/
def atThrice (c : Char) (text : Glyphs) : Bool :=
  (text.take 3).map (·.char) == [c, c, c] && Glyphs.atSpace (text.drop 3)

/-- Whether a line starts here that begins or ends a document. -/
def atMarker (text : Glyphs) : Bool :=
  text.head?.any (·.column == 0) && (text.atThrice '-' || text.atThrice '.')

/-- The number of characters at the start that are all of one kind. -/
def count (kind : Glyph → Bool) (text : Glyphs) : Nat := (text.takeWhile kind).length

/-- The number of characters up to the end of the line. -/
def lineLength (text : Glyphs) : Nat := text.count fun glyph => !glyph.isBreak

end Glyphs

end ResumableSession.Yaml
