import ResumableSession.Text.Quoted

/-!
# Lines of the log

A line has three columns in brackets, for the time, the service and the level,
and then the message and the fields of the event.
-/

namespace ResumableSession.Log

/-- How important an event is. -/
inductive Level where
  /-- Something failed. -/
  | error
  /-- Something is not as it should be. -/
  | warn
  /-- Something happened. -/
  | info
  /-- For those who look for a fault. -/
  | debug
  /-- For those who look closely. -/
  | trace
deriving DecidableEq, Repr

/-- The sign and the name of a level. -/
def Level.label : Level → String
  | .error => "✗ ERROR"
  | .warn => "⚠ WARN"
  | .info => "ℹ INFO"
  | .debug => "◦ DEBUG"
  | .trace => "◦ TRACE"

/-- The levels by rising number, the most important first. -/
def Level.rank : Level → Nat
  | .error => 0
  | .warn => 1
  | .info => 2
  | .debug => 3
  | .trace => 4

/-- The level of this name, in small letters. -/
def Level.named? : String → Option Level
  | "error" => some .error
  | "warn" => some .warn
  | "info" => some .info
  | "debug" => some .debug
  | "trace" => some .trace
  | _ => none

/-- A value that an event carries, by the way it is written. -/
inductive Value where
  /-- A text, as it is. -/
  | text (text : String)
  /-- Something that was written out by its own rules. -/
  | shown (rendering : String)
  /-- A text in quotes. -/
  | quoted (text : String)
  | number (number : Int)
  /-- A truth value. -/
  | flag (flag : Bool)
deriving DecidableEq, Repr

/-- The text of a value. -/
def Value.render : Value → String
  | .text content => content
  | .shown rendering => rendering
  | .quoted content => Text.quoted content
  | .number value => toString value
  | .flag value => if value then "true" else "false"

/-- The text of a value that has a column of its own.  A rendering with a quote
at both ends loses the two; a plain text keeps them. -/
def Value.plain : Value → String
  | .text content => content
  | value => (Text.unquoted? value.render).getD value.render

/-- Something to put into the log. -/
structure Event where
  level : Level
  /-- What happened. -/
  message : String
  /-- The part of the service it happened in. -/
  component : Option Value := none
  /-- The particulars, in the order in which they are written. -/
  fields : List (String × Value) := []
deriving DecidableEq, Repr

/-- The width of the service column. -/
def serviceWidth : Nat := 20

/-- The width of the level column. -/
def levelWidth : Nat := 9

/-- Fills up a text to `width` characters with spaces on the right. -/
def padded (width : Nat) (text : String) : String :=
  text ++ String.ofList (List.replicate (width - text.length) ' ')

/-- The service column: the name of the service, and of the component if there is
one.  A name that is too long is cut, and an ellipsis takes the last place. -/
def serviceColumn (service : String) (component : Option Value) : String :=
  let name :=
    match component with
    | some component => service ++ "-" ++ component.plain
    | none => service
  if serviceWidth < name.length then
    String.ofList (name.toList.take (serviceWidth - 1) ++ ['…'])
  else padded serviceWidth name

/-- The message as it is written. -/
def Event.text (event : Event) : String := (Value.shown event.message).plain

/-- A line without its time, and with the line feed at its end. -/
def line (service : String) (event : Event) : String :=
  let fields := event.fields.map fun (name, value) => " " ++ name ++ "=" ++ value.render
  "[" ++ serviceColumn service event.component ++ "] [" ++
    padded levelWidth event.level.label ++ "] " ++ event.text ++ String.join fields ++ "\n"

/-- A moment of local time. -/
structure Moment where
  year : Nat
  /-- The month, from one. -/
  month : Nat
  /-- The day of the month, from one. -/
  day : Nat
  hour : Nat
  minute : Nat
  second : Nat
  milli : Nat
deriving DecidableEq, Repr

/-- A number with leading zeros up to `width` digits. -/
def zeroPadded (width number : Nat) : String :=
  let digits := toString number
  String.ofList (List.replicate (width - digits.length) '0') ++ digits

/-- The time column, and the space after it. -/
def stamp (moment : Moment) : String :=
  "[" ++ zeroPadded 4 moment.year ++ "-" ++ zeroPadded 2 moment.month ++ "-" ++
    zeroPadded 2 moment.day ++ " " ++ zeroPadded 2 moment.hour ++ ":" ++
    zeroPadded 2 moment.minute ++ ":" ++ zeroPadded 2 moment.second ++ "." ++
    zeroPadded 3 moment.milli ++ "] "

end ResumableSession.Log
