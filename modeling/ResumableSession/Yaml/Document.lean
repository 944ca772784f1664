import ResumableSession.Yaml.Node
import ResumableSession.Yaml.Token

/-!
# Documents

A text holds one document at most.  Its tokens are read one after another.  At each
there is a place where the reader stands, and a stack of the collections that are open,
each with the place that it goes to.  A node that is left out is an empty plain scalar;
before a token is taken, what is left out before it is put in.
-/

namespace ResumableSession.Yaml

/-- How a sequence is written. -/
inductive SequenceForm where
  /-- As a block of its own. -/
  | block
  /-- As a block in the column of the keys around it. -/
  | shared
  | bracketed
deriving DecidableEq, Repr

/-- A place for a node. -/
inductive Slot where
  /-- The root of the document, whose start may be marked. -/
  | root (marked : Bool)
  /-- An item after others, last first. -/
  | item (form : SequenceForm) (items : List Node)
  /-- A key that is announced, after entries, last first. -/
  | key (bracketed : Bool) (entries : List (Node × Node))
  /-- A key in brackets that is not announced and has no value. -/
  | bareKey (entries : List (Node × Node))
  | value (bracketed : Bool) (entries : List (Node × Node)) (key : Node)
  /-- The key of a pair among the items of a sequence in brackets. -/
  | pairKey (items : List Node)
  /-- The value of such a pair. -/
  | pairValue (items : List Node) (key : Node)
deriving Repr

/-- Where a reader of tokens stands. -/
inductive Place where
  /-- Before the document, after these lines. -/
  | start (directives : List Directive)
  /-- At the place of a node, after its name and tag. -/
  | slot (label : Label) (slot : Slot)
  /-- After an item. -/
  | items (form : SequenceForm) (items : List Node)
  | afterKey (bracketed : Bool) (entries : List (Node × Node)) (key : Node)
  /-- After the key of a pair among items. -/
  | afterPairKey (items : List Node) (key : Node)
  /-- After an entry. -/
  | entries (bracketed : Bool) (entries : List (Node × Node))
  /-- After the document. -/
  | finished (root : Node)
deriving Repr

namespace Slot

/-- Where a reader stands once the place is filled. -/
def put (node : Node) : Slot → Place
  | root _ => .finished node
  | item form items => .items form (node :: items)
  | key bracketed entries => .afterKey bracketed entries node
  | bareKey entries => .entries true ((node, Node.empty {}) :: entries)
  | value bracketed entries name => .entries bracketed ((name, node) :: entries)
  | pairKey items => .afterPairKey items node
  | pairValue items name => .items .bracketed (.mapping {} [(name, node)] :: items)

/-- Whether a block may start in the place. -/
def takesBlock : Slot → Bool
  | root _ | item .block _ | item .shared _ | key false _ | value false _ _ => true
  | _ => false

/-- Whether a sequence may start in the place without a block of its own. -/
def takesShared : Slot → Bool
  | key false _ | value false _ _ => true
  | _ => false

/-- The tokens before which the place is left empty. -/
def emptyBefore : Slot → Token → Bool
  | root true, .directive _ | root true, .documentStart | root true, .documentEnd
  | root true, .textEnd => true
  | item .block _, .dash | item .block _, .blockEnd => true
  | item .shared _, .dash | item .shared _, .key | item .shared _, .colon
  | item .shared _, .blockEnd => true
  | key false _, .key | key false _, .colon | key false _, .blockEnd => true
  | value false _ _, .key | value false _ _, .colon | value false _ _, .blockEnd => true
  | key true _, .colon | key true _, .comma | key true _, .closeMapping => true
  | value true _ _, .comma | value true _ _, .closeMapping => true
  | pairValue _ _, .comma | pairValue _ _, .closeSequence => true
  | _, _ => false

/-- Whether a token begins a node in the place, or is part of what stands before it. -/
def continues (slot : Slot) (label : Label) : Token → Bool
  | .scalar _ | .openSequence | .openMapping => true
  | .blockSequence | .blockMapping => slot.takesBlock
  | .dash => slot.takesShared
  | .anchor _ => label.number.isNone
  | .tag _ => label.tag.isNone
  | _ => false

end Slot

/-- A document that is being read. -/
structure Reading where
  /-- Where the reader stands. -/
  place : Place := .start []
  /-- What the open collections have before them, and the places that they go to. -/
  stack : List (Label × Slot) := []
  /-- What handles stand for. -/
  handles : List (String × List UInt8) := Tag.knownHandles
  /-- The names of nodes and their numbers. -/
  names : List (String × Nat) := []
deriving Repr

namespace Reading

/-- Fills a place. -/
def put (state : Reading) (slot : Slot) (node : Node) : Reading :=
  { state with place := slot.put node }

/-- Begins a collection. -/
def enter (state : Reading) (label : Label) (slot : Slot) (place : Place) : Reading :=
  { state with place, stack := (label, slot) :: state.stack }

/-- Ends a collection. -/
def leave (state : Reading) (node : Label → Node) : Except DocumentError Reading :=
  match state.stack with
  | [] => .error .unexpected
  | (label, slot) :: stack => .ok { state with place := slot.put (node label), stack }

/-- Ends a sequence. -/
def leaveItems (state : Reading) (items : List Node) : Except DocumentError Reading :=
  state.leave (.sequence · items.reverse)

/-- Ends a mapping. -/
def leaveEntries (state : Reading) (entries : List (Node × Node)) : Except DocumentError Reading :=
  state.leave (.mapping · entries.reverse)

/-- A document may start without a mark. -/
def begin (state : Reading) (token : Token) : Reading :=
  match state.place, token with
  | .start [], .directive _ | .start [], .documentStart | .start [], .textEnd => state
  | .start [], _ => { state with place := .slot {} (.root false) }
  | _, _ => state

/-- Puts in the node that is left out before a token. -/
def fill (state : Reading) (token : Token) : Reading :=
  match state.place with
  | .slot label slot =>
      if label.isEmpty then
        if slot.emptyBefore token then state.put slot (.empty {}) else state
      else if slot.continues label token then state
      else state.put slot (.empty label)
  | _ => state

/-- Ends a sequence without a block of its own where no dash follows. -/
def endShared (state : Reading) (token : Token) : Except DocumentError Reading :=
  match state.place with
  | .items .shared items => if token = .dash then .ok state else state.leaveItems items
  | _ => .ok state

/-- Puts in the value that is left out where no colon follows. -/
def fillValue (state : Reading) (token : Token) : Reading :=
  if token = .colon then state
  else match state.place with
    | .afterKey bracketed entries key =>
        state.put (.value bracketed entries key) (.empty {})
    | .afterPairKey items key => state.put (.pairValue items key) (.empty {})
    | _ => state

/-- Takes a line before the document.  Each version and each handle is said once. -/
def takeDirective (state : Reading) (directives : List Directive) (directive : Directive) :
    Except DocumentError Reading :=
  let state := { state with place := .start (directive :: directives) }
  match directive with
  | .version major minor =>
      let repeated := directives.any fun
        | .version _ _ => true
        | .handle _ _ => false
      if repeated ∨ major ≠ 1 ∨ (minor ≠ 1 ∧ minor ≠ 2) then .error .directive else .ok state
  | .handle name meaning =>
      let repeated := directives.any fun
        | .version _ _ => false
        | .handle other _ => other == name
      if repeated then .error .directive
      else .ok { state with handles := (name, meaning) :: state.handles }

/-- Gives the node that follows a name.  Its number is that of the names so far, of which
the same name counts once. -/
def takeName (state : Reading) (label : Label) (slot : Slot) (name : String) : Reading :=
  let number := state.names.length
  { state with
    place := .slot { label with number := some number } slot
    names := (name, number) :: state.names.filter (·.1 ≠ name) }

/-- Takes a token at the place of a node. -/
def takeAtSlot (state : Reading) (label : Label) (slot : Slot) (token : Token) :
    Except DocumentError Reading :=
  match slot, token with
  | .item .bracketed items, .closeSequence => state.leaveItems items
  | .item .bracketed items, .key => .ok { state with place := .slot {} (.pairKey items) }
  | .bareKey entries, .closeMapping => state.leaveEntries entries
  | .bareKey entries, .key => .ok { state with place := .slot {} (.key true entries) }
  | .pairKey _, .colon | .pairKey _, .comma | .pairKey _, .closeSequence =>
      .ok (state.put slot (.empty {}))
  | _, .scalar scalar => .ok (state.put slot (.scalar label scalar))
  | _, .openSequence => .ok (state.enter label slot (.slot {} (.item .bracketed [])))
  | _, .openMapping => .ok (state.enter label slot (.slot {} (.bareKey [])))
  | _, .blockSequence =>
      if slot.takesBlock then .ok (state.enter label slot (.items .block []))
      else .error .unexpected
  | _, .blockMapping =>
      if slot.takesBlock then .ok (state.enter label slot (.entries false []))
      else .error .unexpected
  | _, .dash =>
      if slot.takesShared then .ok (state.enter label slot (.slot {} (.item .shared [])))
      else .error .unexpected
  | _, .anchor name => .ok (state.takeName label slot name)
  | _, .tag tag =>
      match tag.resolve? state.handles with
      | none => .error .tag
      | some full => .ok { state with place := .slot { label with tag := some full } slot }
  | _, .reference name =>
      match state.names.lookup name with
      | none => .error (.unknownName name)
      | some number => .ok (state.put slot (.reference number))
  | _, _ => .error .unexpected

/-- Takes a token. -/
def take (state : Reading) (token : Token) : Except DocumentError Reading :=
  match state.place, token with
  | .start directives, .directive directive => state.takeDirective directives directive
  | .start _, .documentStart => .ok { state with place := .slot {} (.root true) }
  | .start [], .textEnd => .ok state
  | .slot label slot, token => state.takeAtSlot label slot token
  | .items .bracketed items, .closeSequence => state.leaveItems items
  | .items .bracketed items, .comma => .ok { state with place := .slot {} (.item .bracketed items) }
  | .items .block items, .blockEnd => state.leaveItems items
  | .items .block items, .dash => .ok { state with place := .slot {} (.item .block items) }
  | .items .shared items, .dash => .ok { state with place := .slot {} (.item .shared items) }
  | .afterKey bracketed entries key, .colon =>
      .ok { state with place := .slot {} (.value bracketed entries key) }
  | .afterPairKey items key, .colon => .ok { state with place := .slot {} (.pairValue items key) }
  | .entries true entries, .closeMapping => state.leaveEntries entries
  | .entries true entries, .comma => .ok { state with place := .slot {} (.bareKey entries) }
  | .entries false entries, .blockEnd => state.leaveEntries entries
  | .entries false entries, .key => .ok { state with place := .slot {} (.key false entries) }
  | .finished _, .documentEnd | .finished _, .textEnd => .ok state
  | .finished _, _ => .error .trailing
  | _, _ => .error .unexpected

/-- Puts in what is left out before a token, and takes it. -/
def next (state : Reading) (token : Token) : Except DocumentError Reading := do
  let state ← ((state.begin token).fill token).endShared token
  (state.fillValue token).take token

end Reading

/-- The root of the document in a text, if there is one. -/
def Node.ofText? (text : String) : Except DocumentError (Option Node) := do
  let state ← (← Token.ofText text).foldlM Reading.next {}
  match state.place with
  | .finished root => return some root
  | _ => return none

end ResumableSession.Yaml
