import ResumableSession.Time.Duration

/-!
# Live sessions and binding tokens

The registry of a gateway: the live sessions by id, and the tokens that were
issued and not used.  An id is never zero and never that of a live session.  A
token is good for one session.
-/

namespace ResumableSession

/-- A token that was issued and not used. -/
structure Binding where
  /-- The text that a client has to present. -/
  token : String
  /-- On whose behalf it was issued. -/
  tag : String
  /-- When it was issued. -/
  issuedAt : Duration
deriving DecidableEq, Repr

/-- The live sessions and outstanding tokens of a gateway. -/
structure Registry (T : Type) where
  /-- The id issued last. -/
  lastSessionId : UInt32 := 0
  /-- The live sessions, newest first. -/
  sessions : List (UInt32 × T) := []
  /-- The outstanding tokens, oldest first. -/
  bindings : List Binding := []
deriving Repr

namespace Registry

variable {T : Type}

/-- Whether a session is live under this id. -/
def isLive (registry : Registry T) (id : UInt32) : Bool :=
  registry.sessions.any fun entry => entry.1 == id

/-- The first of `tries` ids after `last` that may be issued.  Zero follows the
largest id. -/
def nextFree (registry : Registry T) : (tries : Nat) → (last : UInt32) → Option UInt32
  | 0, _ => none
  | tries + 1, last =>
      let id := last + 1
      if id ≠ 0 ∧ registry.isLive id = false then some id else registry.nextFree tries id

/-- Issues the next free id.  There is none only if every id is live: one more
try than there are sessions, and one for zero, find a free id. -/
def issueSessionId (registry : Registry T) : Option (UInt32 × Registry T) :=
  match registry.nextFree (registry.sessions.length + 2) registry.lastSessionId with
  | some id => some (id, { registry with lastSessionId := id })
  | none => none

/-- The session that is live under this id. -/
def get? (registry : Registry T) (id : UInt32) : Option T :=
  (registry.sessions.find? fun entry => entry.1 == id).map (·.2)

/-- Makes a session live under this id, and gives the one it replaces. -/
def register (registry : Registry T) (id : UInt32) (session : T) : Registry T × Option T :=
  ({ registry with
      sessions := (id, session) :: registry.sessions.filter fun entry => entry.1 != id },
    registry.get? id)

/-- Forgets the session under this id, and gives it. -/
def unregister (registry : Registry T) (id : UInt32) : Registry T × Option T :=
  ({ registry with sessions := registry.sessions.filter fun entry => entry.1 != id },
    registry.get? id)

/-- The number of live sessions. -/
def size (registry : Registry T) : Nat := registry.sessions.length

/-- Whether no session is live. -/
def isEmpty (registry : Registry T) : Bool := registry.sessions.isEmpty

/-- Issues a token on behalf of `tag`. -/
def openBinding (registry : Registry T) (token tag : String) (now : Duration) : Registry T :=
  { registry with
    bindings := registry.bindings.filter (fun binding => binding.token != token) ++
      [⟨token, tag, now⟩] }

/-- Uses a token up, and gives its tag. -/
def takeBinding (registry : Registry T) (token : String) : Registry T × Option String :=
  ({ registry with bindings := registry.bindings.filter fun binding => binding.token != token },
    (registry.bindings.find? fun binding => binding.token == token).map (·.tag))

/-- Whether a token has reached the age of `timeout`.  A token issued later than
`now` has no age. -/
def isExpired (now timeout : Duration) (binding : Binding) : Bool :=
  decide (timeout ≤ now - binding.issuedAt)

/-- Drops the tokens that have reached the age of `timeout`, and gives their tags. -/
def sweepBindings (registry : Registry T) (now timeout : Duration) :
    Registry T × List String :=
  ({ registry with
      bindings := registry.bindings.filter fun binding => !isExpired now timeout binding },
    (registry.bindings.filter (isExpired now timeout)).map (·.tag))

end Registry

end ResumableSession
