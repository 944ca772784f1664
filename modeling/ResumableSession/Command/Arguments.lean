import ResumableSession.Network.SocketAddress
import ResumableSession.Time.Units

/-!
# Arguments of the command line

A call names what to do, `serve` or `connect`, and options.  Options of the call as
a whole may stand before or after that name, the others after it.  An option is
given at most once on each side.  Its value is the next word or follows an equals
sign; a word that starts with a dash is no value unless it follows the sign.
-/

namespace ResumableSession.Command

/-- What to do. -/
inductive Verb where
  /-- Run a gateway that sends every payload back. -/
  | serve
  /-- Create a session, send payloads and await them back. -/
  | connect
deriving DecidableEq, Repr

/-- The file with the configuration, unless the arguments name another. -/
def usualConfigPath : String := "channel.yaml"

/-- What the arguments say. -/
structure Arguments where
  /-- What to do, once that is known. -/
  verb : Option Verb := none
  /-- The least importance of events that go into the log. -/
  logLevel : String := "info"
  /-- The file with the configuration. -/
  configPath : String := usualConfigPath
  /-- Where to listen, in place of what the configuration says. -/
  listen : Option SocketAddress := none
  /-- Whether a token is required, whatever the configuration says. -/
  tokenRequired : Bool := false
  /-- How long a session may be without a line, in place of what the configuration
  says. -/
  offlineTimeout : Option Duration := none
  /-- The gateway to connect to. -/
  remote : SocketAddress := .loopback 5000
  /-- The token to present. -/
  token : String := ""
  /-- How many payloads to send. -/
  count : Nat := 3
  message : String := "hello"
  /-- How long to pause between payloads. -/
  interval : Duration := .zero
deriving DecidableEq, Repr

/-- What comes of reading arguments. -/
inductive Call where
  /-- Something to do. -/
  | perform (verb : Verb) (arguments : Arguments)
  /-- The user wants to know what can be asked for. -/
  | help
  /-- The user wants to know the version. -/
  | version
  /-- The arguments make no sense. -/
  | rejected
deriving DecidableEq, Repr

/-- An option, and what it puts into the arguments. -/
structure CallOption where
  /-- The name, without the dashes. -/
  name : String
  /-- What the option does: without a value if it takes none. -/
  effect : (Arguments → Arguments) ⊕ (String → Arguments → Option Arguments)

/-- An option with a value that may be any text. -/
def textOption (name : String) (set : String → Arguments → Arguments) : CallOption where
  name
  effect := .inr fun text arguments => some (set text arguments)

/-- An option with a value that has to be read. -/
def readOption {α : Type} (name : String) (read : String → Option α)
    (set : α → Arguments → Arguments) : CallOption where
  name
  effect := .inr fun text arguments => (read text).map fun value => set value arguments

/-- The number that a text denotes, with at most one sign, if it fits 32 bits. -/
def numberOf? (text : String) : Option Nat :=
  let (negative, digits) :=
    match text.toList with
    | '-' :: digits => (true, digits)
    | '+' :: digits => (false, digits)
    | digits => (false, digits)
  if digits.isEmpty || !digits.all Char.isDigit then none
  else
    let value := digits.foldl (fun value c => value * 10 + (c.toNat - '0'.toNat)) 0
    if value < 0x100000000 ∧ (negative → value = 0) then some value else none

/-- The duration that a text denotes. -/
def durationOf? (text : String) : Option Duration := (Duration.ofText text).toOption

/-- The options of every call. -/
def commonOptions : List CallOption :=
  [textOption "log-level" fun value arguments => { arguments with logLevel := value },
    readOption "config" (fun text => if text = "" then none else some text)
      fun value arguments => { arguments with configPath := value }]

/-- The options that may stand after a verb. -/
def Verb.options : Verb → List CallOption
  | .serve =>
      [readOption "listen" SocketAddress.ofText? fun value arguments =>
          { arguments with listen := some value },
        { name := "token-required"
          effect := .inl fun arguments => { arguments with tokenRequired := true } },
        readOption "offline-timeout" durationOf? fun value arguments =>
          { arguments with offlineTimeout := some value }]
  | .connect =>
      [readOption "addr" SocketAddress.ofText? fun value arguments =>
          { arguments with remote := value },
        textOption "token" fun value arguments => { arguments with token := value },
        readOption "count" numberOf? fun value arguments => { arguments with count := value },
        textOption "message" fun value arguments => { arguments with message := value },
        readOption "interval" durationOf? fun value arguments =>
          { arguments with interval := value }]

/-- The verb of this name. -/
def Verb.named? : String → Option Verb
  | "serve" => some .serve
  | "connect" => some .connect
  | _ => none

namespace Call

/-- The call that is complete. -/
def finish (arguments : Arguments) : Call :=
  match arguments.verb with
  | some verb => perform verb arguments
  | none => rejected

/-- Whether a word can be the value of an option before it. -/
def isValue (word : String) : Bool := word.toList.head? != some '-' || word == "-"

/-- The name of a long option, and the value after its equals sign. -/
def splitOption (word : String) : String × Option String :=
  let chars := word.toList.drop 2
  let name := String.ofList (chars.takeWhile (· != '='))
  match chars.dropWhile (· != '=') with
  | [] => (name, none)
  | _ :: value => (name, some (String.ofList value))

/-- Reads the rest of the arguments; `seen` are the options since the verb. -/
def read (seen : List String) (arguments : Arguments) : List String → Call
  | [] => finish arguments
  | "--" :: words => if words.isEmpty then finish arguments else rejected
  | word :: words =>
      match word.toList with
      | '-' :: '-' :: _ =>
          let (name, value) := splitOption word
          let known := commonOptions ++ ((arguments.verb.map Verb.options).getD [])
          if name = "help" then if value.isNone then help else rejected
          else if name = "version" ∧ arguments.verb.isNone then
            if value.isNone then version else rejected
          else
            match known.find? (·.name == name) with
            | none => rejected
            | some option =>
                if seen.contains name then rejected
                else
                  match option.effect, value with
                  | .inl effect, none => read (name :: seen) (effect arguments) words
                  | .inl _, some _ => rejected
                  | .inr effect, some text =>
                      match effect text arguments with
                      | some arguments => read (name :: seen) arguments words
                      | none => rejected
                  | .inr effect, none =>
                      match words with
                      | [] => rejected
                      | text :: words =>
                          if isValue text then
                            match effect text arguments with
                            | some arguments => read (name :: seen) arguments words
                            | none => rejected
                          else rejected
      | '-' :: 'h' :: _ => help
      | '-' :: 'V' :: _ => if arguments.verb.isNone then version else rejected
      | '-' :: _ :: _ => rejected
      | _ =>
          if arguments.verb.isSome then rejected
          else if word = "help" then
            if words.all fun word => word = "help" ∨ (Verb.named? word).isSome then help
            else rejected
          else
            match Verb.named? word with
            | some verb => read [] { arguments with verb := some verb } words
            | none => rejected
termination_by words => words.length

/-- Reads the arguments of a call. -/
def ofArguments (words : List String) : Call := read [] {} words

end Call

end ResumableSession.Command
