import ResumableSession.Yaml.Scalar

/-!
# Blocks of lines

A scalar may be a block of indented lines after a header.  The header says whether the
ends of lines are kept or folded, how many columns the lines are indented, and what
becomes of the ends of lines after the last word.  Where it says nothing of the
indentation, the first line with a word has it.
-/

namespace ResumableSession.Yaml

/-- What becomes of the ends of lines after the last word. -/
inductive Chomping where
  /-- All are dropped. -/
  | strip
  /-- One is kept. -/
  | clip
  /-- All are kept. -/
  | keep
deriving DecidableEq, Repr

/-- What the first line of a block says. -/
structure LineBlockHeader where
  /-- Whether the ends of lines are kept. -/
  literal : Bool
  /-- What becomes of the last ones. -/
  chomping : Chomping := .clip
  /-- How many columns the lines are indented more than what is around them. -/
  increment : Option Nat := none
deriving DecidableEq, Repr

namespace LineBlockHeader

/-- Takes one character of a header, each kind of which may stand there once. -/
def take? (header : LineBlockHeader) (c : Char) : Option LineBlockHeader :=
  if (c = '+' ∨ c = '-') ∧ header.chomping = .clip then
    some { header with chomping := if c = '+' then .keep else .strip }
  else if c.isDigit ∧ c ≠ '0' ∧ header.increment = none then
    some { header with increment := some (c.toNat - '0'.toNat) }
  else none

/-- Reads the header up to the end of its line. -/
def readFrom (header : LineBlockHeader) (taken : Nat) : Glyphs → Except DocumentError (LineBlockHeader × Nat)
  | [] => .ok (header, taken)
  | glyph :: rest =>
      match header.take? glyph.char with
      | some header => readFrom header (taken + 1) rest
      | none =>
          let blanks := Glyphs.count (·.isBlank) (glyph :: rest)
          let after := (glyph :: rest).drop blanks
          let comment := if Glyphs.next? after = some '#' then Glyphs.lineLength after else 0
          if Glyphs.atLineEnd (after.drop comment) then
            .ok (header, taken + blanks + comment + min 1 (after.drop comment).length)
          else .error .unexpected

end LineBlockHeader

/-- A block that is being read. -/
structure LineBlock where
  /-- What its first line says. -/
  header : LineBlockHeader
  /-- The least column in which its lines may start. -/
  least : Nat
  /-- The column in which its lines start, once it is known. -/
  column : Option Nat
  /-- The furthest column that blanks have led to while it is not known. -/
  furthest : Nat := 0
  /-- The characters so far, last first. -/
  taken : List Char := []
  /-- The end of the last line with a word. -/
  first : Option Char := none
  /-- The ends of the empty lines since then, last first. -/
  further : List Char := []
  /-- Whether the last line with a word starts with a blank. -/
  spaced : Bool := false
deriving DecidableEq, Repr

namespace LineBlock

/-- A block with nothing read, inside a node in column `around`. -/
def start (header : LineBlockHeader) (around : Option Nat) : LineBlock where
  header
  least := max 1 ((around.map (· + 1)).getD 0)
  column := header.increment.map (around.getD 0 + ·)

/-- Whether `column` lies before the words of a line. -/
def isIndented (block : LineBlock) (column : Nat) : Bool := block.column.all (column < ·)

/-- The column in which its lines start. -/
def found (block : LineBlock) : Nat := block.column.getD (max block.least block.furthest)

/-- Starts a line with a word.  Between two lines of a folded block, neither of which
starts with a blank, the end of a line is a space. -/
def startLine (block : LineBlock) (spaced : Bool) : LineBlock :=
  let joins := !block.header.literal && block.first == some '\n' && !block.spaced && !spaced
  let between :=
    if joins then if block.further.isEmpty then [' '] else block.further
    else block.further ++ block.first.toList
  { block with
    column := some block.found, taken := between ++ block.taken, first := none, further := []
    spaced }

/-- The text of the block. -/
def text (block : LineBlock) : String :=
  let last :=
    match block.header.chomping with
    | .strip => []
    | .clip => block.first.toList
    | .keep => block.further ++ block.first.toList
  String.ofList (last ++ block.taken).reverse

/-- Reads on in a block.  `inside` says that a line with a word has started. -/
def readFrom (block : LineBlock) (inside : Bool) (taken : Nat) : Glyphs → Except DocumentError (LineBlock × Nat)
  | [] => .ok (block, taken)
  | glyph :: rest =>
      if inside then
        if glyph.isBreak then
          readFrom { block with first := some glyph.char } false (taken + 1) rest
        else readFrom { block with taken := glyph.char :: block.taken } true (taken + 1) rest
      else if block.isIndented glyph.column ∧ glyph.char = ' ' then
        readFrom { block with furthest := max block.furthest (glyph.column + 1) } false
          (taken + 1) rest
      else if block.isIndented glyph.column ∧ glyph.char = '\t' then .error .tab
      else if glyph.isBreak then
        readFrom { block with further := glyph.char :: block.further } false (taken + 1) rest
      else if glyph.column = block.found then
        let block := block.startLine glyph.isBlank
        readFrom { block with taken := glyph.char :: block.taken } true (taken + 1) rest
      else .ok (block, taken)

end LineBlock

/-- Reads a block after the character that announces it, inside a node in column
`around`. -/
def readLineBlock (literal : Bool) (around : Option Nat) (text : Glyphs) : Except DocumentError (Scalar × Nat) := do
  let (header, headerLength) ← LineBlockHeader.readFrom { literal } 0 text
  let (block, length) ← (LineBlock.start header around).readFrom false 0 (text.drop headerLength)
  return (⟨block.text, if literal then .literal else .folded⟩, headerLength + length)

end ResumableSession.Yaml
