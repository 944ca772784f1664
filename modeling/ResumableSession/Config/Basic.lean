import ResumableSession.Gateway.Settings
import ResumableSession.Network.SocketAddress

/-!
# Configuration

Everything that the service lets its operator choose.  The timers of a session are
the same for accepted and for opened sessions.
-/

namespace ResumableSession

/-- The choices of an operator. -/
structure Config where
  /-- Where to listen. -/
  listen : SocketAddress := .loopback 5000
  /-- Whether a session may only be created with an issued token. -/
  tokenRequired : Bool := false
  /-- How long a token may go unused; zero means for ever. -/
  tokenTimeout : Duration := .ofSeconds 30
  /-- How long the first packet of a connection may take. -/
  handshakeTimeout : Duration := .ofSeconds 5
  /-- The timers of every session. -/
  session : SessionSettings := {}
  /-- The pace of rebind attempts. -/
  rebind : RebindLimits := {}
  /-- How long creating a session may take. -/
  connectTimeout : Duration := .ofSeconds 10
deriving DecidableEq, Repr

namespace Config

/-- What a gateway takes from the configuration. -/
def gateway (config : Config) : GatewaySettings SocketAddress where
  listen := config.listen
  tokenRequired := config.tokenRequired
  tokenTimeout := config.tokenTimeout
  handshakeTimeout := config.handshakeTimeout
  session := config.session

/-- What a client takes from the configuration. -/
def client (config : Config) : ClientSettings where
  session := config.session
  rebind := config.rebind
  connectTimeout := config.connectTimeout

end Config

end ResumableSession
