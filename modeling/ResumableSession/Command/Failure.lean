import ResumableSession.Config.Loading
import ResumableSession.Session.Error

/-!
# Failures of a command

What is said on standard error when a command comes to nothing: what failed, and
below it what that was caused by.
-/

namespace ResumableSession

/-- What a failed packet was caused by, the nearest cause first. -/
def CodecError.causes : CodecError → List String
  | .wire cause => [cause.message]
  | _ => []

/-- What a failed session was caused by, the nearest cause first. -/
def SessionError.causes : SessionError → List String
  | .transport cause => [cause.message]
  | .codec cause => cause.message :: cause.causes
  | _ => []

namespace Command

/-- Why a command came to nothing. -/
inductive Failure where
  /-- There is no configuration. -/
  | config (cause : ConfigError)
  /-- The gateway cannot listen. -/
  | bind (address : SocketAddress) (cause : TransportError)
  /-- No session was created. -/
  | connect (address : SocketAddress) (cause : SessionError)
  /-- A payload cannot be sent. -/
  | send (cause : SessionError)
  /-- The session ended before every payload had come back. -/
  | closed (reason : CloseReason) (echoed count : Nat)
  /-- The channel was gone before every payload had come back. -/
  | ended (echoed count : Nat)
deriving DecidableEq, Repr

namespace Failure

/-- What failed. -/
def message : Failure → String
  | config cause => cause.message
  | bind address _ => "failed to bind gateway listener on " ++ address.toText
  | connect address _ => "failed to create session at " ++ address.toText
  | send cause => cause.message
  | closed reason echoed count =>
      "session closed (" ++ reason.name ++ ") after " ++ toString echoed ++ " of " ++
        toString count ++ " echoes"
  | ended echoed count =>
      "session ended after " ++ toString echoed ++ " of " ++ toString count ++ " echoes"

/-- What it was caused by, the nearest cause first.  What is wrong with a
configuration file is not told. -/
def causes : Failure → List String
  | config (.document _ _) => []
  | config (.override _ _ cause) => [cause.message]
  | bind _ cause => [cause.message]
  | connect _ cause => cause.message :: cause.causes
  | send cause => cause.causes
  | closed .. => []
  | ended .. => []

/-- The lines below the heading of the causes; several causes are numbered. -/
def causeLines (causes : List String) : List String :=
  match causes with
  | [cause] => ["    " ++ cause]
  | causes => causes.zipIdx.map fun (cause, index) => "    " ++ toString index ++ ": " ++ cause

/-- The lines on standard error. -/
def lines (failure : Failure) : List String :=
  let causes := failure.causes
  ["Error: " ++ failure.message] ++
    if causes.isEmpty then [] else ["", "Caused by:"] ++ causeLines causes

end Failure

end Command

end ResumableSession
