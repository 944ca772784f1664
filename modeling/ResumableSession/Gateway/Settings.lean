import ResumableSession.Session.Settings

/-!
# Gateway settings

An address is whatever names a listening place; its type is a parameter.
-/

namespace ResumableSession

/-- What an accepting side needs to know. -/
structure GatewaySettings (Address : Type) where
  /-- Where to listen. -/
  listen : Address
  /-- Whether a session may only be created with an issued token. -/
  tokenRequired : Bool := false
  /-- How long a token may go unused; zero means for ever. -/
  tokenTimeout : Duration := .ofSeconds 30
  /-- How long the first packet of a connection may take. -/
  handshakeTimeout : Duration := .ofSeconds 5
  /-- The settings of every session. -/
  session : SessionSettings := {}
deriving DecidableEq, Repr

end ResumableSession
