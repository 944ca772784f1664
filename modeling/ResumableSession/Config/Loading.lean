import ResumableSession.Config.Document
import ResumableSession.Log.Line
import ResumableSession.Text.Quoted
import ResumableSession.Wire.Text

/-!
# Loading the configuration

The document in a file comes first, and then variables of the environment replace
single values.  A file that is missing or no text leaves the defaults.  A file is
read before any variable, and the variables are read in a fixed order.
-/

namespace ResumableSession

/-- Why the value of a variable was refused. -/
inductive OverrideFault where
  /-- It is no address. -/
  | notAnAddress
  /-- It is no duration. -/
  | notADuration (cause : DurationTextError)
deriving DecidableEq, Repr

/-- What is said about a refused value. -/
def OverrideFault.message : OverrideFault → String
  | .notAnAddress => "invalid socket address syntax"
  | .notADuration cause => cause.message

/-- Why there is no configuration. -/
inductive ConfigError where
  /-- The file is no configuration. -/
  | document (path : String) (cause : ConfigReadError)
  /-- A variable has a value that it cannot have. -/
  | override (name value : String) (cause : OverrideFault)
deriving DecidableEq, Repr

/-- What is said about a failure. -/
def ConfigError.message : ConfigError → String
  | .document path _ => "failed to parse config file " ++ Text.quoted path
  | .override name value _ => "invalid " ++ name ++ " " ++ Text.quoted value

/-- A variable that replaces a value. -/
structure ConfigOverride where
  /-- The name of the variable. -/
  name : String
  /-- Puts its value into a configuration. -/
  apply : String → Config → Except OverrideFault Config

namespace ConfigOverride

/-- A variable that holds a duration. -/
def duration (name : String) (set : Config → Duration → Config) : ConfigOverride where
  name
  apply value config :=
    match Duration.ofText value with
    | .ok time => .ok (set config time)
    | .error cause => .error (.notADuration cause)

/-- A variable for the place to listen. -/
def listen : ConfigOverride where
  name := "CHANNEL_LISTEN"
  apply value config :=
    match SocketAddress.ofText? value with
    | some address => .ok { config with listen := address }
    | none => .error .notAnAddress

/-- A variable that says whether tokens are required; whatever is not true is false. -/
def tokenRequired : ConfigOverride where
  name := "CHANNEL_TOKEN_REQUIRED"
  apply value config := .ok { config with tokenRequired := value.toLower == "true" }

/-- The variables, in the order in which they are read. -/
def all : List ConfigOverride :=
  [listen, tokenRequired,
    duration "CHANNEL_OFFLINE_TIMEOUT" fun config time =>
      { config with session.offlineTimeout := time },
    duration "CHANNEL_ALIVE_CHECK_INTERVAL" fun config time =>
      { config with session.aliveCheckInterval := time },
    duration "CHANNEL_TICK_INTERVAL" fun config time =>
      { config with session.tickInterval := time },
    duration "CHANNEL_TOKEN_TIMEOUT" fun config time => { config with tokenTimeout := time },
    duration "CHANNEL_CONNECT_TIMEOUT" fun config time => { config with connectTimeout := time }]

/-- Puts the variables that are set into a configuration, up to a refused one. -/
def applyAll (environment : String → Option String) :
    List ConfigOverride → Config → Except ConfigError Config
  | [], config => .ok config
  | entry :: entries, config =>
      match environment entry.name with
      | none => applyAll environment entries config
      | some value =>
          match entry.apply value config with
          | .ok config => applyAll environment entries config
          | .error cause => .error (.override entry.name value cause)

end ConfigOverride

/-- What loading a configuration comes to. -/
structure ConfigLoading where
  /-- What goes into the log, in order. -/
  events : List Log.Event
  /-- The configuration, or why there is none. -/
  outcome : Except ConfigError Config

namespace Config

/-- The event that names the choices of general interest. -/
def summary (config : Config) : Log.Event where
  level := .info
  message :=
    "Final channel configuration: listen=" ++ config.listen.toText ++ ", token_required=" ++
      (if config.tokenRequired then "true" else "false") ++ ", offline_timeout=" ++
      config.session.offlineTimeout.toDecimalText ++ ", alive_check_interval=" ++
      config.session.aliveCheckInterval.toDecimalText

/-- Loads a configuration.  `file` is what the file at `path` holds, if it can be read. -/
def load (path : String) (file : Option Bytes) (environment : String → Option String) :
    ConfigLoading :=
  let overridden (event : Log.Event) (config : Config) : ConfigLoading :=
    match ConfigOverride.applyAll environment ConfigOverride.all config with
    | .ok config => ⟨[event, config.summary], .ok config⟩
    | .error cause => ⟨[event], .error cause⟩
  match file.bind WireText.ofUtf8? with
  | none =>
      let message := "Config file " ++ Text.quoted path ++ " not found, using defaults"
      overridden { level := .warn, message } {}
  | some text =>
      match ofDocument text with
      | .error cause => ⟨[], .error (.document path cause)⟩
      | .ok config =>
          overridden { level := .info, message := "Loaded configuration from " ++ Text.quoted path }
            config

end Config

end ResumableSession
