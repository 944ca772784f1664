import ResumableSession.Yaml.Scalar

/-!
# Names and tags

A node may be given a name, by which it is meant again elsewhere, and a tag, which says
what kind of thing it is.  A tag is written in full, or as a handle and what follows it;
lines before the document say what handles stand for.
-/

namespace ResumableSession.Yaml

/-- Reads a name of a node. -/
def readName (text : Glyphs) : Except DocumentError (String × Nat) :=
  let length := Glyphs.count (·.isWord) text
  let after := text.drop length
  let ends := ['?', ':', ',', ']', '}', '%', '@', '`']
  if length ≠ 0 ∧ (Glyphs.atSpace after || Glyphs.atOneOf ends after) then
    .ok (String.ofList ((text.take length).map (·.char)), length)
  else .error .unexpected

/-- A tag as it is written. -/
structure Tag where
  /-- The handle, empty if the tag is written in full. -/
  handle : String
  /-- What follows the handle, in bytes. -/
  suffix : List UInt8
deriving DecidableEq, Repr

namespace Tag

/-- Whether a character may stand in a tag.  `enclosed` says that the end of the tag is
marked. -/
def isAllowed (enclosed : Bool) (glyph : Glyph) : Bool :=
  glyph.isWord || ";/?:@&=+$.!~*'()".toList.contains glyph.char ||
    (enclosed && [',', '[', ']'].contains glyph.char)

/-- How many bytes follow the first byte of a character. -/
def following? (first : Nat) : Option Nat :=
  if first < 0x80 then some 0
  else if 0xC0 ≤ first ∧ first < 0xE0 then some 1
  else if 0xE0 ≤ first ∧ first < 0xF0 then some 2
  else if 0xF0 ≤ first ∧ first < 0xF8 then some 3
  else none

/-- How many bytes have to follow `byte`, where `pending` are still missing before it. -/
def pendingAfter? (pending byte : Nat) : Option Nat :=
  match pending with
  | 0 => following? byte
  | pending + 1 => if 0x80 ≤ byte ∧ byte < 0xC0 then some pending else none

/-- Reads the characters of a tag.  A percent sign and two digits are one byte of a
character.  `read` are the bytes so far, last first, and `pending` those that are missing. -/
def charsFrom (enclosed : Bool) (read : List UInt8) (pending taken : Nat) :
    Glyphs → Except DocumentError (List UInt8 × Nat)
  | [] => if pending = 0 then .ok (read.reverse, taken) else .error .escape
  | glyph :: rest =>
      if glyph.char = '%' then
        match rest with
        | high :: low :: others =>
            match hexValue? high.char, hexValue? low.char with
            | some high, some low =>
                let byte := 16 * high + low
                match pendingAfter? pending byte with
                | some pending =>
                    charsFrom enclosed (UInt8.ofNat byte :: read) pending (taken + 3) others
                | none => .error .escape
            | _, _ => .error .escape
        | _ => .error .escape
      else if pending ≠ 0 then .error .escape
      else if isAllowed enclosed glyph then
        charsFrom enclosed (UInt8.ofNat glyph.char.toNat :: read) 0 (taken + 1) rest
      else .ok (read.reverse, taken)

/-- The handle at the start of a text after an exclamation mark: a word and a second
mark, if both are there. -/
def handleLength (text : Glyphs) : Nat :=
  let length := Glyphs.count (·.isWord) text
  if Glyphs.next? (text.drop length) = some '!' then length + 1 else 0

/-- A handle with its marks. -/
def handleText (text : Glyphs) (length : Nat) : String :=
  String.ofList ('!' :: (text.take length).map (·.char))

/-- Reads what follows the exclamation mark of a tag. -/
def readAfterMark (text : Glyphs) : Except DocumentError (Tag × Nat) :=
  if Glyphs.next? text = some '<' then do
    let (suffix, length) ← charsFrom true [] 0 1 (text.drop 1)
    if length = 1 ∨ Glyphs.next? (text.drop length) ≠ some '>' then throw .tag
    return (⟨"", suffix⟩, length + 1)
  else do
    let shorthand := handleLength text
    let (suffix, length) ← charsFrom false [] 0 shorthand (text.drop shorthand)
    if shorthand ≠ 0 then
      if length = shorthand then throw .tag
      return (⟨handleText text shorthand, suffix⟩, length)
    else if suffix.isEmpty then return (⟨"", "!".toUTF8.toList⟩, length)
    else return (⟨"!", suffix⟩, length)

/-- Reads a tag after its exclamation mark.  A blank follows it, or in brackets a comma. -/
def read (bracketed : Bool) (text : Glyphs) : Except DocumentError (Tag × Nat) := do
  let (tag, length) ← readAfterMark text
  let after := text.drop length
  if Glyphs.atSpace after || (bracketed && Glyphs.next? after == some ',') then
    return (tag, length)
  else throw .tag

/-- The tag in full, where `handles` are known.  A byte zero ends it. -/
def resolve? (handles : List (String × List UInt8)) (tag : Tag) : Option (List UInt8) :=
  let full :=
    if tag.handle = "" then some tag.suffix
    else (handles.lookup tag.handle).map (· ++ tag.suffix)
  full.map fun bytes => bytes.takeWhile (· ≠ 0)

/-- The handles that are known to every document. -/
def knownHandles : List (String × List UInt8) :=
  [("!", "!".toUTF8.toList), ("!!", "tag:yaml.org,2002:".toUTF8.toList)]

/-- The tag of truth values. -/
def truth : List UInt8 := "tag:yaml.org,2002:bool".toUTF8.toList

end Tag

/-- What a line before a document says. -/
inductive Directive where
  /-- The version of the form in which the document is written. -/
  | version (major minor : Nat)
  /-- What a handle stands for. -/
  | handle (name : String) (meaning : List UInt8)
deriving DecidableEq, Repr

namespace Directive

/-- Reads a number of at most nine digits. -/
def readNumber (text : Glyphs) : Except DocumentError (Nat × Nat) :=
  let length := Glyphs.count (·.char.isDigit) text
  if length = 0 ∨ 9 < length then .error .directive
  else
    let value := (text.take length).foldl (fun sum glyph => sum * 10 + (glyph.char.toNat - 48)) 0
    .ok (value, length)

/-- Reads a version: two numbers with a point between them. -/
def readVersion (text : Glyphs) : Except DocumentError (Directive × Nat) := do
  let (major, majorLength) ← readNumber text
  let after := text.drop majorLength
  if Glyphs.next? after ≠ some '.' then throw .directive
  let (minor, minorLength) ← readNumber (after.drop 1)
  return (.version major minor, majorLength + 1 + minorLength)

/-- Reads a handle and what it stands for. -/
def readHandle (text : Glyphs) : Except DocumentError (Directive × Nat) := do
  if Glyphs.next? text ≠ some '!' then throw .directive
  let shorthand := Tag.handleLength (text.drop 1)
  let after := text.drop (shorthand + 1)
  let blanks := Glyphs.count (·.isBlank) after
  if blanks = 0 then throw .directive
  let (meaning, length) ← Tag.charsFrom true [] 0 0 (after.drop blanks)
  if length = 0 ∨ !Glyphs.atSpace (after.drop (blanks + length)) then throw .directive
  return (.handle (Tag.handleText (text.drop 1) shorthand) meaning,
    shorthand + 1 + blanks + length)

/-- Reads what a line says after its percent sign, with the end of the line. -/
def read (text : Glyphs) : Except DocumentError (Directive × Nat) := do
  let nameLength := Glyphs.count (·.isWord) text
  let name := String.ofList ((text.take nameLength).map (·.char))
  let after := text.drop nameLength
  if !Glyphs.atSpace after then throw .directive
  let start := nameLength + Glyphs.count (·.isBlank) after
  let (directive, length) ←
    if name = "YAML" then readVersion (text.drop start)
    else if name = "TAG" then readHandle (text.drop start)
    else throw .directive
  let after := text.drop (start + length)
  let blanks := Glyphs.count (·.isBlank) after
  let after := after.drop blanks
  let comment := if Glyphs.next? after = some '#' then Glyphs.lineLength after else 0
  let after := after.drop comment
  if !Glyphs.atLineEnd after then throw .directive
  return (directive, start + length + blanks + comment + min 1 after.length)

end Directive

end ResumableSession.Yaml
