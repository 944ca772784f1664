import ResumableSession.Yaml.LineBlock
import ResumableSession.Yaml.Tag

/-!
# Tokens

A text falls into tokens.  Indentation is turned into tokens too: outside brackets, a
block begins where a column lies further in than the open blocks, and it ends where a
token lies further out.

Whether something is a key is known only at the colon after it.  So what may turn out to
be a key is kept as a candidate, one for every bracket that is open, until a colon
comes; the token that announces the key is then put in before it.  A key has its colon
on the same line, within 1024 bytes.
-/

namespace ResumableSession.Yaml

/-- A piece of a document. -/
inductive Token where
  /-- What a line before the document says. -/
  | directive (directive : Directive)
  /-- The line before a document. -/
  | documentStart
  /-- The line after a document. -/
  | documentEnd
  | textEnd
  /-- The start of a sequence in a block. -/
  | blockSequence
  /-- The start of a mapping in a block. -/
  | blockMapping
  | blockEnd
  /-- The bracket before a sequence. -/
  | openSequence
  /-- The bracket after a sequence. -/
  | closeSequence
  /-- The bracket before a mapping. -/
  | openMapping
  /-- The bracket after a mapping. -/
  | closeMapping
  /-- The dash before an item of a block. -/
  | dash
  /-- The comma in brackets. -/
  | comma
  /-- The beginning of a key. -/
  | key
  /-- The colon between a key and its value. -/
  | colon
  /-- A node that has been named before. -/
  | reference (name : String)
  /-- The name of a node that follows. -/
  | anchor (name : String)
  /-- The tag of a node that follows. -/
  | tag (tag : Tag)
  | scalar (scalar : Scalar)
deriving DecidableEq, Repr

/-- What may turn out to be a key. -/
structure KeyCandidate where
  /-- The number of tokens before it. -/
  position : Nat
  /-- Where it starts. -/
  start : Glyph
  /-- Whether nothing but a key may stand there. -/
  required : Bool
deriving DecidableEq, Repr

namespace KeyCandidate

/-- The number of bytes between the start of a key and its colon. -/
def reach : Nat := 1024

/-- Whether a key cannot go on to `glyph`. -/
def isPast (candidate : KeyCandidate) (glyph : Glyph) : Bool :=
  candidate.start.line < glyph.line || candidate.start.offset + reach < glyph.offset

/-- The candidate as it is at `glyph`. -/
def atGlyph? (glyph : Glyph) : Option KeyCandidate → Except DocumentError (Option KeyCandidate)
  | none => .ok none
  | some candidate =>
      if !candidate.isPast glyph then .ok (some candidate)
      else if candidate.required then .error .missingColon
      else .ok none

end KeyCandidate

/-- A text that is being cut into tokens. -/
structure Lexing where
  /-- The tokens so far. -/
  tokens : Array Token := #[]
  /-- The columns of the open blocks, innermost first. -/
  columns : List Nat := []
  /-- What may turn out to be a key. -/
  candidate : Option KeyCandidate := none
  /-- The candidates around each open bracket, innermost first. -/
  outer : List (Option KeyCandidate) := []
  /-- Whether a key may start here. -/
  keyAllowed : Bool := true
deriving DecidableEq, Repr

namespace Lexing

/-- Whether a bracket is open. -/
def bracketed (state : Lexing) : Bool := !state.outer.isEmpty

/-- Appends a token. -/
def emit (state : Lexing) (token : Token) : Lexing := { state with tokens := state.tokens.push token }

/-- Puts a token in after the first `position` ones. -/
def insert (state : Lexing) (position : Nat) (token : Token) : Lexing :=
  { state with tokens := state.tokens.insertIdxIfInBounds position token }

/-- Gives up the candidates that have no colon in time. -/
def expire (state : Lexing) (glyph : Glyph) : Except DocumentError Lexing := do
  return { state with
    candidate := ← KeyCandidate.atGlyph? glyph state.candidate
    outer := ← state.outer.mapM (KeyCandidate.atGlyph? glyph) }

/-- Gives up the candidate, because something else follows. -/
def dropCandidate (state : Lexing) : Except DocumentError Lexing :=
  if state.candidate.any (·.required) then .error .missingColon
  else .ok { state with candidate := none }

/-- What starts at `glyph` may turn out to be a key. -/
def saveCandidate (state : Lexing) (glyph : Glyph) : Except DocumentError Lexing :=
  if state.keyAllowed then do
    let required := !state.bracketed && state.columns.head? == some glyph.column
    let position := state.tokens.size
    return { ← state.dropCandidate with candidate := some { position, start := glyph, required } }
  else return state

/-- Begins a block in `column`, unless one is open there.  Its token is put in after the
first `position` ones. -/
def openBlock (state : Lexing) (column position : Nat) (token : Token) : Lexing :=
  if !state.bracketed && state.columns.head?.all (· < column) then
    { state.insert position token with columns := column :: state.columns }
  else state

/-- Ends the blocks that `ends` holds for, from the innermost on. -/
def closeBlocks (state : Lexing) (ends : Nat → Bool) : Lexing :=
  if state.bracketed then state
  else
    let closed := state.columns.takeWhile ends
    { state with
      tokens := state.tokens ++ closed.map fun _ => Token.blockEnd
      columns := state.columns.drop closed.length }

/-- A line that belongs to no document ends every block. -/
def leaveDocument (state : Lexing) : Except DocumentError Lexing := do
  return { ← (state.closeBlocks fun _ => true).dropCandidate with keyAllowed := false }

/-- An opening bracket. -/
def openBracket (state : Lexing) (glyph : Glyph) (token : Token) : Except DocumentError Lexing := do
  let state ← state.saveCandidate glyph
  return { state.emit token with
    candidate := none, outer := state.candidate :: state.outer, keyAllowed := true }

/-- A closing bracket. -/
def closeBracket (state : Lexing) (token : Token) : Except DocumentError Lexing := do
  let state ← state.dropCandidate
  return { state.emit token with
    candidate := state.outer.head?.join, outer := state.outer.tail, keyAllowed := false }

/-- A comma in brackets. -/
def comma (state : Lexing) : Except DocumentError Lexing := do
  return { ← state.dropCandidate with keyAllowed := true }.emit .comma

/-- The mark at `glyph` of an item or of a key.  Outside brackets it stands where a key
may start, and a block begins with it. -/
def mark (state : Lexing) (glyph : Glyph) (block token : Token) (keyAllowed : Bool) :
    Except DocumentError Lexing := do
  if !state.bracketed && !state.keyAllowed then throw .unexpected
  let state ← (state.openBlock glyph.column state.tokens.size block).dropCandidate
  return { state.emit token with keyAllowed }

/-- The colon at `glyph`. -/
def colon (state : Lexing) (glyph : Glyph) : Except DocumentError Lexing :=
  match state.candidate with
  | some candidate =>
      let state := state.insert candidate.position .key
      let state := state.openBlock candidate.start.column candidate.position .blockMapping
      .ok { state.emit .colon with candidate := none, keyAllowed := false }
  | none =>
      if state.bracketed then .ok { state.emit .colon with keyAllowed := false }
      else if !state.keyAllowed then .error .unexpected
      else
        let state := state.openBlock glyph.column state.tokens.size .blockMapping
        .ok { state.emit .colon with keyAllowed := true }

/-- A word at `glyph`, which may turn out to be a key, or stand before one. -/
def word {α : Type} (state : Lexing) (glyph : Glyph) (read : Except DocumentError (α × Nat)) (toToken : α → Token) :
    Except DocumentError (Lexing × Nat) := do
  let state ← state.saveCandidate glyph
  let (content, length) ← read
  return ({ state.emit (toToken content) with keyAllowed := false }, length)

/-- A block of lines. -/
def lineBlock (state : Lexing) (literal : Bool) (rest : Glyphs) : Except DocumentError (Lexing × Nat) := do
  let state ← state.dropCandidate
  let (scalar, length) ← readLineBlock literal state.columns.head? rest
  return ({ state.emit (.scalar scalar) with keyAllowed := true }, length)

/-- A plain scalar.  If it takes the end of a line, a key may follow. -/
def plain (state : Lexing) (glyph : Glyph) (rest : Glyphs) : Except DocumentError (Lexing × Nat) := do
  let state ← state.saveCandidate glyph
  let least := (state.columns.head?.map (· + 1)).getD 0
  let (folded, length) ← plainFrom state.bracketed least (Folded.push {} glyph.char) 0 rest
  let scalar : Scalar := ⟨String.ofList folded.taken.reverse, .plain⟩
  return ({ state.emit (.scalar scalar) with keyAllowed := folded.spacing.isBroken }, length)

/-- The token that starts at `glyph`, with the number of characters after `glyph` that
it takes. -/
def token (state : Lexing) (glyph : Glyph) (rest : Glyphs) : Except DocumentError (Lexing × Nat) := do
  let c := glyph.char
  let marks := state.bracketed || Glyphs.atSpace rest
  let alone (next : Except DocumentError Lexing) : Except DocumentError (Lexing × Nat) := return (← next, 0)
  let quoted (text : String) : Token := .scalar ⟨text, .quoted⟩
  if c = '%' ∧ glyph.column = 0 then
    let (directive, length) ← Directive.read rest
    return ((← state.leaveDocument).emit (.directive directive), length)
  else if Glyphs.atMarker (glyph :: rest) then
    let token := if c = '-' then Token.documentStart else .documentEnd
    return ((← state.leaveDocument).emit token, 2)
  else if c = '[' then alone (state.openBracket glyph .openSequence)
  else if c = '{' then alone (state.openBracket glyph .openMapping)
  else if c = ']' then alone (state.closeBracket .closeSequence)
  else if c = '}' then alone (state.closeBracket .closeMapping)
  else if c = ',' then alone state.comma
  else if c = '-' ∧ Glyphs.atSpace rest then
    alone (state.mark glyph .blockSequence .dash true)
  else if c = '?' ∧ marks then
    alone (state.mark glyph .blockMapping .key (!state.bracketed))
  else if c = ':' ∧ marks then alone (state.colon glyph)
  else if c = '*' then state.word glyph (readName rest) .reference
  else if c = '&' then state.word glyph (readName rest) .anchor
  else if c = '!' then state.word glyph (Tag.read state.bracketed rest) .tag
  else if c = '|' ∧ !state.bracketed then state.lineBlock true rest
  else if c = '>' ∧ !state.bracketed then state.lineBlock false rest
  else if c = '\'' then state.word glyph (singleFrom {} 0 rest) quoted
  else if c = '"' then state.word glyph (doubleFrom {} .outside 0 rest) quoted
  else if startsPlain state.bracketed glyph rest then state.plain glyph rest
  else throw .unexpected

/-- What starts at `glyph`, with the number of characters after `glyph` that it takes.
A tab separates tokens where no key may start or indentation does not matter. -/
def take (state : Lexing) (glyph : Glyph) (rest : Glyphs) : Except DocumentError (Lexing × Nat) :=
  if glyph.isBreak then .ok ({ state with keyAllowed := state.keyAllowed || !state.bracketed }, 0)
  else if glyph.char = '\uFEFF' ∧ glyph.column = 0 then .ok (state, 0)
  else if glyph.char = ' ' then .ok (state, 0)
  else if glyph.char = '\t' ∧ (state.bracketed || !state.keyAllowed) then .ok (state, 0)
  else if glyph.char = '#' then .ok (state, Glyphs.lineLength rest)
  else do
    let state ← state.expire glyph
    (state.closeBlocks (glyph.column < ·)).token glyph rest

/-- Cuts the rest of a text into tokens. -/
def readFrom (state : Lexing) : Glyphs → Except DocumentError Lexing
  | [] => do return (← state.leaveDocument).emit .textEnd
  | glyph :: rest => do
      let (state, length) ← state.take glyph rest
      readFrom state (rest.drop length)
termination_by text => text.length
decreasing_by simp only [List.length_drop, List.length_cons]; omega

end Lexing

/-- The tokens of a text, the last of which is its end. -/
def Token.ofText (text : String) : Except DocumentError (List Token) :=
  match Glyphs.ofText? text with
  | none => .error .character
  | some glyphs => do return (← Lexing.readFrom {} glyphs).tokens.toList

end ResumableSession.Yaml
