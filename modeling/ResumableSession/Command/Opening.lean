import ResumableSession.Command.Arguments
import ResumableSession.Command.Failure

/-!
# The beginning of a command

Every command first says what is starting and loads the configuration; options of
the call then replace what the configuration says.
-/

namespace ResumableSession.Command

/-- The name of the service in the log. -/
def serviceName : String := "channel"

/-- The version of the service. -/
def version : String := "0.1.0"

/-- What can be asked for. -/
def usage : String :=
  "Session channel echo gateway and client\n\n" ++
    "Usage: channel [--log-level LEVEL] [--config FILE] COMMAND\n\n" ++
    "Commands:\n" ++
    "  serve    [--listen ADDRESS] [--token-required] [--offline-timeout DURATION]\n" ++
    "  connect  [--addr ADDRESS] [--token TOKEN] [--count COUNT] [--message MESSAGE]\n" ++
    "           [--interval DURATION]\n"

/-- Whether an event of this level goes into the log.  What is no level stands for
the usual one. -/
def Arguments.logs (arguments : Arguments) (level : Log.Level) : Bool :=
  level.rank ≤ ((Log.Level.named? arguments.logLevel).getD .info).rank

/-- What is written for the user who wants to know the version. -/
def versionLine : String := serviceName ++ " " ++ version

/-- An event of a part of the service. -/
def partEvent (part message : String) : Log.Event :=
  { level := .info, message, component := some (.text part) }

/-- The event that begins the log. -/
def started : Log.Event := { level := .info, message := "Starting session channel v" ++ version }

/-- What the beginning of a command comes to. -/
structure Opening where
  /-- What goes into the log, in order. -/
  events : List Log.Event
  /-- The configuration to work with, or why there is none. -/
  outcome : Except Failure Config

/-- Puts the options of a call in the place of what the configuration says. -/
def Arguments.override (arguments : Arguments) (config : Config) : Config :=
  let timeout := arguments.offlineTimeout.getD config.session.offlineTimeout
  { config with
    listen := arguments.listen.getD config.listen
    tokenRequired := arguments.tokenRequired || config.tokenRequired
    session := { config.session with offlineTimeout := timeout } }

/-- Begins a command.  `file` is what the configuration file holds, if it can be read. -/
def Arguments.begin (arguments : Arguments) (file : Option Bytes)
    (environment : String → Option String) : Opening :=
  let loading := Config.load arguments.configPath file environment
  { events := started :: loading.events
    outcome :=
      match loading.outcome with
      | .ok config => .ok (arguments.override config)
      | .error cause => .error (.config cause) }

end ResumableSession.Command
