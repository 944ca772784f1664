import ResumableSession.Yaml.Glyph

/-!
# Scalars

A scalar is a text: plain, in quotes, or in a block of lines.  In the first two, blanks
around the end of a line are dropped, one end of a line becomes a space, and further
ones are kept.  Every reader here gives what it has read with the number of characters
that this has taken.
-/

namespace ResumableSession.Yaml

/-- Why a text is no document. -/
inductive DocumentError where
  /-- A character that no document contains. -/
  | character
  /-- A quote that is not closed. -/
  | unclosed
  /-- Something that looks like an escape and is none. -/
  | escape
  /-- A tab in the place of an indentation. -/
  | tab
  /-- Something that may not stand where it does. -/
  | unexpected
  /-- A key without a colon on its line. -/
  | missingColon
  /-- A line that should say how to read the document, and does not. -/
  | directive
  /-- A tag that is not well formed or has no meaning. -/
  | tag
  /-- A name that no node has been given. -/
  | unknownName (name : String)
  /-- Something after the end of the document. -/
  | trailing
deriving DecidableEq, Repr

/-- How a scalar is written. -/
inductive ScalarStyle where
  | plain
  | quoted
  /-- In a block of lines that are kept. -/
  | literal
  /-- In a block of lines that are joined. -/
  | folded
deriving DecidableEq, Repr

/-- A text that stands in a document. -/
structure Scalar where
  text : String
  /-- How it is written. -/
  style : ScalarStyle
deriving DecidableEq, Repr

/-- What stands between two words. -/
inductive Spacing where
  /-- Blanks on one line, last first. -/
  | blanks (chars : List Char)
  /-- Ends of lines: the first one, if it counts, and those after it, last first. -/
  | lines (first : Option Char) (further : List Char)
deriving DecidableEq, Repr

namespace Spacing

/-- A blank counts only before the end of a line. -/
def blank (c : Char) : Spacing → Spacing
  | blanks chars => blanks (c :: chars)
  | lines first further => lines first further

/-- The end of a line drops the blanks before it. -/
def lineBreak (c : Char) : Spacing → Spacing
  | blanks _ => lines (some c) []
  | lines first further => lines first (c :: further)

/-- Whether a line ends in it. -/
def isBroken : Spacing → Bool
  | blanks _ => false
  | lines _ _ => true

/-- The characters that it stands for, last first. -/
def chars : Spacing → List Char
  | blanks chars => chars
  | lines (some '\n') [] => [' ']
  | lines (some '\n') further => further
  | lines first further => further ++ first.toList

end Spacing

/-- A text that is put together from words. -/
structure Folded where
  /-- The characters so far, last first. -/
  taken : List Char := []
  /-- What has come since then. -/
  spacing : Spacing := .blanks []
deriving DecidableEq, Repr

namespace Folded

/-- One more blank. -/
def blank (folded : Folded) (c : Char) : Folded :=
  { folded with spacing := folded.spacing.blank c }

/-- One more end of a line. -/
def lineBreak (folded : Folded) (c : Char) : Folded :=
  { folded with spacing := folded.spacing.lineBreak c }

/-- The characters so far with what separates them from the next, last first. -/
def joined (folded : Folded) : List Char := folded.spacing.chars ++ folded.taken

/-- One more character that is neither blank nor the end of a line. -/
def push (folded : Folded) (c : Char) : Folded := { taken := c :: folded.joined }

/-- The end of a line that does not count. -/
def splice (folded : Folded) : Folded := { taken := folded.joined, spacing := .lines none [] }

/-- The whole text. -/
def text (folded : Folded) : String := String.ofList folded.joined.reverse

end Folded

/-- The characters that separate the entries of brackets. -/
def separators : List Char := [',', '[', ']', '{', '}']

/-- The characters that mean something at the start of a word. -/
def isIndicator (c : Char) : Bool :=
  separators.contains c || ['#', '&', '*', '!', '|', '>', '\'', '"', '%', '@', '`'].contains c

/-- A text of one line as it is written: in single quotes if its first character
would mean something else. -/
def Scalar.write (text : String) : String :=
  if text.toList.head?.any isIndicator then
    String.ofList (['\''] ++ text.toList.flatMap (fun c => if c = '\'' then [c, c] else [c]) ++ ['\''])
  else text

/-- Whether a plain scalar may start with a character before `rest`. -/
def startsPlain (bracketed : Bool) (glyph : Glyph) (rest : Glyphs) : Bool :=
  if glyph.isBlank || glyph.isBreak then false
  else if glyph.char = '-' then !Glyphs.atSpace rest
  else if glyph.char = '?' ∨ glyph.char = ':' then !bracketed && !Glyphs.atSpace rest
  else !isIndicator glyph.char

/-- Whether the first word of a line, or one after a blank, ends a plain scalar. -/
def endsLines (bracketed : Bool) (least : Nat) (glyph : Glyph) (rest : Glyphs) : Bool :=
  glyph.char == '#' || Glyphs.atMarker (glyph :: rest) || (!bracketed && glyph.column < least)

/-- Reads on in a plain scalar, whose further lines start at column `least` or later. -/
def plainFrom (bracketed : Bool) (least : Nat) (folded : Folded) (taken : Nat) :
    Glyphs → Except DocumentError (Folded × Nat)
  | [] => .ok (folded, taken)
  | glyph :: rest =>
      if glyph.isBreak then
        plainFrom bracketed least (folded.lineBreak glyph.char) (taken + 1) rest
      else if glyph.isBlank then
        if folded.spacing.isBroken && glyph.column < least && glyph.char == '\t' then .error .tab
        else plainFrom bracketed least (folded.blank glyph.char) (taken + 1) rest
      else if folded.spacing ≠ .blanks [] ∧ endsLines bracketed least glyph rest then
        .ok (folded, taken)
      else if bracketed ∧ glyph.char = ':' ∧ Glyphs.atOneOf ('?' :: separators) rest then
        .error .unexpected
      else if (glyph.char == ':' && Glyphs.atSpace rest) ||
          (bracketed && separators.contains glyph.char) then
        .ok (folded, taken)
      else plainFrom bracketed least (folded.push glyph.char) (taken + 1) rest

/-- Reads on in single quotes.  A quote inside is written twice. -/
def singleFrom (folded : Folded) (taken : Nat) : Glyphs → Except DocumentError (String × Nat)
  | [] => .error .unclosed
  | glyph :: rest =>
      if glyph.char = '\'' then
        match rest with
        | [] => .ok (folded.text, taken + 1)
        | next :: others =>
            if next.char = '\'' then singleFrom (folded.push '\'') (taken + 2) others
            else .ok (folded.text, taken + 1)
      else if Glyphs.atMarker (glyph :: rest) then .error .unexpected
      else if glyph.isBreak then singleFrom (folded.lineBreak glyph.char) (taken + 1) rest
      else if glyph.isBlank then singleFrom (folded.blank glyph.char) (taken + 1) rest
      else singleFrom (folded.push glyph.char) (taken + 1) rest

/-- What a letter stands for after a backslash. -/
def escaped? (c : Char) : Option Char :=
  [('0', '\x00'), ('a', '\x07'), ('b', '\x08'), ('t', '\t'), ('\t', '\t'), ('n', '\n'),
    ('v', '\x0b'), ('f', '\x0c'), ('r', '\r'), ('e', '\x1b'), (' ', ' '), ('"', '"'),
    ('/', '/'), ('\\', '\\'), ('N', '\u0085'), ('_', '\u00a0'), ('L', '\u2028'),
    ('P', '\u2029')].lookup c

/-- How many hexadecimal digits a letter announces after a backslash. -/
def escapeWidth? (c : Char) : Option Nat := [('x', 2), ('u', 4), ('U', 8)].lookup c

/-- The value of a hexadecimal digit. -/
def hexValue? (c : Char) : Option Nat :=
  if c.isDigit then some (c.toNat - '0'.toNat)
  else if 'a' ≤ c ∧ c ≤ 'f' then some (c.toNat - 'a'.toNat + 10)
  else if 'A' ≤ c ∧ c ≤ 'F' then some (c.toNat - 'A'.toNat + 10)
  else none

/-- Where a reader stands in double quotes. -/
inductive EscapeState where
  /-- Not in an escape. -/
  | outside
  /-- After a backslash. -/
  | started
  /-- Before further digits of a number. -/
  | digits (left value : Nat)
deriving DecidableEq, Repr

/-- Reads on in double quotes.  A backslash at the end of a line joins it to the next. -/
def doubleFrom (folded : Folded) (escape : EscapeState) (taken : Nat) : Glyphs → Except DocumentError (String × Nat)
  | [] => .error .unclosed
  | glyph :: rest =>
      match escape with
      | .outside =>
          if glyph.char = '"' then .ok (folded.text, taken + 1)
          else if glyph.char = '\\' then doubleFrom folded .started (taken + 1) rest
          else if Glyphs.atMarker (glyph :: rest) then .error .unexpected
          else if glyph.isBreak then
            doubleFrom (folded.lineBreak glyph.char) .outside (taken + 1) rest
          else if glyph.isBlank then doubleFrom (folded.blank glyph.char) .outside (taken + 1) rest
          else doubleFrom (folded.push glyph.char) .outside (taken + 1) rest
      | .started =>
          if glyph.isBreak then doubleFrom folded.splice .outside (taken + 1) rest
          else match escaped? glyph.char, escapeWidth? glyph.char with
            | some c, _ => doubleFrom (folded.push c) .outside (taken + 1) rest
            | none, some width => doubleFrom folded (.digits (width - 1) 0) (taken + 1) rest
            | none, none => .error .escape
      | .digits left value =>
          match hexValue? glyph.char with
          | none => .error .escape
          | some digit =>
              let value := value * 16 + digit
              match left with
              | left + 1 => doubleFrom folded (.digits left value) (taken + 1) rest
              | 0 =>
                  if value.isValidChar then
                    doubleFrom (folded.push (Char.ofNat value)) .outside (taken + 1) rest
                  else .error .escape

end ResumableSession.Yaml
