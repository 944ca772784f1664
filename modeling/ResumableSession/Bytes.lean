/-!
# Bytes, readers and writers

A byte string is a list of octets.  A reader takes bytes off its front and a
writer adds bytes at its end; both may fail, and both say where they stood when
they did.  The state that a failed reader leaves is what it had not looked at.
-/

namespace ResumableSession

/-- A finite string of octets, first octet first. -/
abbrev Bytes := List UInt8

/-- A reader of `α`: its state is the input it has not consumed, also after a failure. -/
abbrev Reader (ε α : Type) := EStateM ε Bytes α

/-- A writer: its state is the buffer it adds to, also after a failure. -/
abbrev Writer (ε α : Type) := EStateM ε Bytes α

namespace Reader

variable {ε α : Type}

/-- Takes the next octet, or fails with `missing` at the end of input. -/
def octet (missing : ε) : Reader ε UInt8
  | [] => .error missing []
  | byte :: rest => .ok byte rest

/-- Takes exactly `count` octets.  With too few it fails and takes none. -/
def octets (count : Nat) (missing : ε) : Reader ε Bytes := fun input =>
  if input.length < count then .error missing input
  else .ok (input.take count) (input.drop count)

/-- Succeeds only at the end of input. -/
def atEnd (trailing : ε) : Reader ε Unit
  | [] => .ok () []
  | input => .error trailing input

/-- The value that `reader` finds in `input`, whatever it leaves. -/
def result (reader : Reader ε α) (input : Bytes) : Except ε α :=
  match reader input with
  | .ok value _ => .ok value
  | .error failure _ => .error failure

end Reader

namespace Writer

variable {ε : Type}

/-- Adds `bytes` at the end of the buffer. -/
def bytes (bytes : Bytes) : Writer ε Unit := fun buffer => .ok () (buffer ++ bytes)

/-- A writer that only ever adds at the end, also when it fails half-way. -/
def Appends (writer : Writer ε Unit) : Prop :=
  ∀ buffer, (∃ added, writer buffer = .ok () (buffer ++ added)) ∨
    ∃ failure added, writer buffer = .error failure (buffer ++ added)

end Writer

end ResumableSession
