import ResumableSession.Command.Echo
import ResumableSession.Network.Isolated

/-!
# Commands on an isolated host

What a command comes to where nothing can be reached: a service waits until it is
interrupted, and a client cannot create its session.
-/

namespace ResumableSession.Command

/-- Whether a path leads to the file of that name in the working directory, which has no
other directories in it. -/
def leadsTo (name path : String) : Bool :=
  match (path.splitOn "/").reverse with
  | [] => false
  | last :: before =>
      last == name && !path.startsWith "/" && before.all fun part => part == "" || part == "."

/-- What is found at a path, where the working directory holds nothing but a configuration
file.  The null device is a file with nothing in it. -/
def fileAt (path : String) (file : Option Bytes) : Option Bytes :=
  if path = "/dev/null" then some []
  else if leadsTo usualConfigPath path then file
  else none

/-- A command that was started. -/
structure IsolatedRun where
  /-- What it has written into the log and nobody has read, oldest first. -/
  events : List Log.Event
  /-- How it ended, if it has. -/
  outcome : Option (Except Failure Unit)
  /-- The host it runs on. -/
  host : IsolatedHost Bytes

namespace IsolatedRun

/-- The codec of payloads. -/
def codec : PacketCodec Bytes := { payloads := .raw }

/-- A command that has ended. -/
def ended (events : List Log.Event) (outcome : Except Failure Unit) : IsolatedRun :=
  { events, outcome := some outcome, host := { host := { codec } } }

/-- A service at `config.listen`; it gets `portNumber` if it does not ask for a number. -/
def serve (taken : List SocketAddress) (portNumber : UInt16) (events : List Log.Event)
    (config : Config) : IsolatedRun :=
  match IsolatedHost.listen taken config.listen with
  | .error cause => ended events (.error (.bind config.listen cause))
  | .ok () =>
      { events := events ++ [listening (config.listen.withPort portNumber)]
        outcome := none
        host := .start codec (some config.gateway) }

/-- A client that tries to create a session. -/
def connect (arguments : Arguments) (events : List Log.Event) (config : Config) : IsolatedRun :=
  let idle : IsolatedHost Bytes := { host := { codec } }
  let (host, outcome) := idle.connect config.client arguments.token
  let outcome :=
    match outcome with
    | .ok _ => .error (.ended 0 arguments.count)
    | .error cause => .error (.connect arguments.remote cause)
  { events, outcome := some outcome, host }

/-- Starts a command, as far as it gets without being interrupted.  `file` is what the
configuration file in the working directory holds. -/
def start (verb : Verb) (arguments : Arguments) (file : Option Bytes)
    (environment : String → Option String) (taken : List SocketAddress) (portNumber : UInt16) :
    IsolatedRun :=
  let opening := arguments.begin (fileAt arguments.configPath file) environment
  match opening.outcome with
  | .error failure => ended opening.events (.error failure)
  | .ok config =>
      match verb with
      | .serve => serve taken portNumber opening.events config
      | .connect => connect arguments opening.events config

/-- The user interrupts the command: a service closes its sessions, of which there
are none, and ends. -/
def interrupt (run : IsolatedRun) : IsolatedRun :=
  match run.outcome with
  | some _ => run
  | none =>
      let host := run.host.stop false
      let finished := host.host.gateway.isFinished
      { events := run.events ++ [interrupted] ++ (if finished then [shutDown] else [])
        outcome := if finished then some (.ok ()) else none
        host }

/-- Takes the next event of the log. -/
def nextEvent (run : IsolatedRun) : IsolatedRun × Option Log.Event :=
  ({ run with events := run.events.drop 1 }, run.events.head?)

/-- The exit code of a command that has ended. -/
def exitCode (run : IsolatedRun) : Nat :=
  match run.outcome with
  | some (.ok ()) => 0
  | _ => 1

end IsolatedRun

end ResumableSession.Command
