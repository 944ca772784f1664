import ResumableSession.Config.Basic
import ResumableSession.Time.Units
import ResumableSession.Yaml.Document

/-!
# Configuration documents

A configuration document has three sections, each with named values.  Whatever is
left out keeps its default, and names that are not known are passed over.
-/

namespace ResumableSession

/-- Why a document is no configuration. -/
inductive ConfigReadError where
  /-- It is no document at all. -/
  | document (cause : Yaml.DocumentError)
  /-- Something other than a section stands in the place of one. -/
  | notASection
  /-- A key that is no scalar. -/
  | notAName
  /-- A name that stands twice in one section. -/
  | repeatedName (name : String)
  /-- Something other than a text stands in the place of one. -/
  | notAText
  /-- A text that is no duration. -/
  | notADuration (cause : DurationTextError)
  /-- A text that is no address. -/
  | notAnAddress
  /-- Something other than a truth value stands in the place of one. -/
  | notATruthValue
deriving DecidableEq, Repr

/-- Puts what a node describes into a configuration, in a document with that root. -/
abbrev ConfigReader := (root node : Yaml.Node) → Config → Except ConfigReadError Config

/-- A named part of a configuration, and how it is read and written. -/
structure ConfigField where
  name : String
  /-- Puts what a node describes into a configuration. -/
  read : ConfigReader
  /-- The text that describes the part. -/
  write : Config → String

namespace ConfigField

/-- The text of a node. -/
def textOf (root node : Yaml.Node) : Except ConfigReadError String :=
  match node.resolve root with
  | .scalar _ scalar => .ok scalar.text
  | _ => .error .notAText

/-- The duration that a node describes. -/
def durationOf (root node : Yaml.Node) : Except ConfigReadError Duration := do
  match Duration.ofText (← textOf root node) with
  | .ok duration => return duration
  | .error cause => throw (.notADuration cause)

/-- The address that a node describes. -/
def addressOf (root node : Yaml.Node) : Except ConfigReadError SocketAddress := do
  match SocketAddress.ofText? (← textOf root node) with
  | some address => return address
  | none => throw .notAnAddress

/-- Whether a scalar may be a truth value.  Quotes make it a text, and so does a block of
lines unless its tag says otherwise. -/
def mayBeTruth (label : Yaml.Label) (scalar : Yaml.Scalar) : Bool :=
  scalar.style == .plain || (scalar.style == .literal && label.tag == some Yaml.Tag.truth)

/-- The truth value that a node describes. -/
def truthOf (root node : Yaml.Node) : Except ConfigReadError Bool :=
  match node.resolve root with
  | .scalar label scalar =>
      if !mayBeTruth label scalar then .error .notATruthValue
      else if ["true", "True", "TRUE"].contains scalar.text then .ok true
      else if ["false", "False", "FALSE"].contains scalar.text then .ok false
      else .error .notATruthValue
  | _ => .error .notATruthValue

/-- A part that is a duration. -/
def duration (name : String) (get : Config → Duration) (set : Config → Duration → Config) :
    ConfigField where
  name
  read root node config := return set config (← durationOf root node)
  write config := (get config).toText

/-- Takes values by the names of the parts.  `seen` are the names taken before. -/
def readEntries (fields : List ConfigField) (seen : List String) (root : Yaml.Node) :
    List (Yaml.Node × Yaml.Node) → Config → Except ConfigReadError Config
  | [], config => .ok config
  | (key, value) :: entries, config =>
      match key.resolve root with
      | .scalar _ name =>
          match fields.find? fun field => field.name == name.text with
          | none => readEntries fields seen root entries config
          | some field =>
              if seen.contains field.name then .error (.repeatedName field.name)
              else do
                let config ← field.read root value config
                readEntries fields (field.name :: seen) root entries config
      | _ => .error .notAName

/-- Takes what a node says about some parts.  A node that is left out says nothing. -/
def readAll (fields : List ConfigField) : ConfigReader := fun root node config =>
  match node.resolve root with
  | .scalar _ scalar => if scalar = ⟨"", .plain⟩ then .ok config else .error .notASection
  | .mapping _ entries => readEntries fields [] root entries config
  | _ => .error .notASection

end ConfigField

/-- A section of the document. -/
structure ConfigSection where
  name : String
  /-- The parts in it, in order. -/
  fields : List ConfigField

namespace ConfigSection

/-- What concerns a gateway. -/
def gateway : ConfigSection where
  name := "gateway"
  fields :=
    [{ name := "listen"
       read := fun root node config =>
         return { config with listen := ← ConfigField.addressOf root node }
       write := fun config => config.listen.toText },
      { name := "token_required"
        read := fun root node config =>
          return { config with tokenRequired := ← ConfigField.truthOf root node }
        write := fun config => if config.tokenRequired then "true" else "false" },
      .duration "token_timeout" (·.tokenTimeout) fun config time =>
        { config with tokenTimeout := time },
      .duration "handshake_timeout" (·.handshakeTimeout) fun config time =>
        { config with handshakeTimeout := time }]

/-- What concerns every session. -/
def session : ConfigSection where
  name := "session"
  fields :=
    [.duration "offline_timeout" (·.session.offlineTimeout) fun config time =>
        { config with session.offlineTimeout := time },
      .duration "time_wait_timeout" (·.session.timeWaitTimeout) fun config time =>
        { config with session.timeWaitTimeout := time },
      .duration "alive_check_interval" (·.session.aliveCheckInterval) fun config time =>
        { config with session.aliveCheckInterval := time },
      .duration "alive_check_wait_interval" (·.session.aliveCheckWait) fun config time =>
        { config with session.aliveCheckWait := time },
      .duration "tick_interval" (·.session.tickInterval) fun config time =>
        { config with session.tickInterval := time }]

/-- What concerns a client. -/
def client : ConfigSection where
  name := "client"
  fields :=
    [.duration "rebind_timeout" (·.rebind.timeout) fun config time =>
        { config with rebind.timeout := time },
      .duration "rebind_cooltime_timeout" (·.rebind.cooltime) fun config time =>
        { config with rebind.cooltime := time },
      .duration "connect_timeout" (·.connectTimeout) fun config time =>
        { config with connectTimeout := time }]

/-- The sections of a document, in order. -/
def all : List ConfigSection := [gateway, session, client]

/-- The lines of a section. -/
def write (config : Config) (part : ConfigSection) : String :=
  let line (field : ConfigField) : String :=
    "  " ++ field.name ++ ": " ++ Yaml.Scalar.write (field.write config) ++ "\n"
  part.name ++ ":\n" ++ String.join (part.fields.map line)

/-- A section as a part of the whole. -/
def toField (part : ConfigSection) : ConfigField where
  name := part.name
  read := ConfigField.readAll part.fields
  write config := part.write config

end ConfigSection

namespace Config

/-- The configuration that a document describes. -/
def ofDocument (text : String) : Except ConfigReadError Config :=
  match Yaml.Node.ofText? text with
  | .error cause => .error (.document cause)
  | .ok none => .ok {}
  | .ok (some root) => ConfigField.readAll (ConfigSection.all.map (·.toField)) root root {}

/-- The document that describes a configuration in full. -/
def toDocument (config : Config) : String :=
  String.join (ConfigSection.all.map (·.write config))

end Config

end ResumableSession
