import ResumableSession.Yaml.Scalar

/-!
# Nodes

A document is made of nodes: scalars, sequences and mappings.  A node may be given a
number, by which a reference means it again; where several have one number, the last of
them is meant.
-/

namespace ResumableSession.Yaml

/-- What stands before a node. -/
structure Label where
  /-- The number that a reference means it by. -/
  number : Option Nat := none
  /-- Its tag in full. -/
  tag : Option (List UInt8) := none
deriving DecidableEq, Repr

/-- Whether nothing stands before a node. -/
def Label.isEmpty (label : Label) : Bool := label.number.isNone && label.tag.isNone

/-- What a document is made of. -/
inductive Node where
  | scalar (label : Label) (scalar : Scalar)
  /-- Nodes in order. -/
  | sequence (label : Label) (items : List Node)
  /-- Keys and values in order. -/
  | mapping (label : Label) (entries : List (Node × Node))
  /-- The node of that number. -/
  | reference (number : Nat)
deriving Repr

namespace Node

/-- The node that is left out. -/
def empty (label : Label) : Node := scalar label ⟨"", .plain⟩

instance : Inhabited Node := ⟨empty {}⟩

/-- A node by its number, if it has that one. -/
def own (number : Nat) (label : Label) (node : Node) : Option Node :=
  if label.number = some number then some node else none

mutual

/-- The last node of that number in a node, itself included. -/
def find? (number : Nat) : Node → Option Node
  | scalar label content => own number label (scalar label content)
  | sequence label items => findItem? number items <|> own number label (sequence label items)
  | mapping label entries => findEntry? number entries <|> own number label (mapping label entries)
  | reference _ => none

/-- The last node of that number in a sequence. -/
def findItem? (number : Nat) : List Node → Option Node
  | [] => none
  | item :: items => findItem? number items <|> find? number item

/-- The last node of that number in a mapping. -/
def findEntry? (number : Nat) : List (Node × Node) → Option Node
  | [] => none
  | (key, value) :: entries =>
      findEntry? number entries <|> find? number value <|> find? number key

end

/-- What is meant by a node in a document with that root. -/
def resolve (node root : Node) : Node :=
  match node with
  | reference number => (root.find? number).getD node
  | _ => node

end Node

end ResumableSession.Yaml
