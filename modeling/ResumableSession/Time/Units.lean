import ResumableSession.Text.Blank
import ResumableSession.Time.Duration

/-!
# Durations in units

A duration is written as amounts with units, as in `1h 30m` or `1.5s`, and is
their sum.  Blanks may stand anywhere but inside a unit.  Amounts and sums must
fit 64 bits: amounts of less than a second in nanoseconds, the others in seconds.
A fraction must be a whole number of nanoseconds, and of seconds from an hour on.
-/

namespace ResumableSession

/-- A unit of time. -/
structure TimeUnit where
  names : List String
  /-- Its length in nanoseconds. -/
  nanos : Nat
deriving DecidableEq, Repr

namespace TimeUnit

/-- The length of a second in nanoseconds. -/
def second : Nat := 1000000000

/-- The length of a minute in nanoseconds. -/
def minute : Nat := 60 * second

/-- The length of an hour in nanoseconds. -/
def hour : Nat := 60 * minute

/-- The length of a day in nanoseconds. -/
def day : Nat := 24 * hour

/-- The length of a month in nanoseconds: 30.44 days. -/
def month : Nat := 2630016 * second

/-- The length of a year in nanoseconds: 365.25 days. -/
def year : Nat := 31557600 * second

/-- Every unit that an amount may have. -/
def all : List TimeUnit :=
  [⟨["nanos", "nsec", "ns"], 1⟩,
    ⟨["usec", "us", "µs"], 1000⟩,
    ⟨["millis", "msec", "ms"], 1000000⟩,
    ⟨["seconds", "second", "secs", "sec", "s"], second⟩,
    ⟨["minutes", "minute", "min", "mins", "m"], minute⟩,
    ⟨["hours", "hour", "hr", "hrs", "h"], hour⟩,
    ⟨["days", "day", "d"], day⟩,
    ⟨["weeks", "week", "wk", "wks", "w"], 7 * day⟩,
    ⟨["months", "month", "M"], month⟩,
    ⟨["years", "year", "yr", "yrs", "y"], year⟩]

/-- The unit of this name. -/
def named? (name : String) : Option TimeUnit := all.find? fun unit => unit.names.contains name

end TimeUnit

/-- Why a text is no duration.  A place is a number of bytes before it. -/
inductive DurationTextError where
  /-- There is nothing but blanks. -/
  | empty
  /-- Something other than a digit comes where an amount has to start. -/
  | expectedNumber (place : Nat)
  /-- A character that may not stand in an amount or a unit. -/
  | invalidCharacter (place : Nat)
  /-- An amount without a unit; its whole part. -/
  | missingUnit (whole : Nat)
  /-- A word that is no unit. -/
  | unknownUnit (name : String)
  /-- A number that does not fit, or a fraction that is too fine. -/
  | outOfRange
deriving DecidableEq, Repr

/-- What is said about a text that is no duration. -/
def DurationTextError.message : DurationTextError → String
  | .empty => "value was empty"
  | .expectedNumber place => "expected number at " ++ toString place
  | .invalidCharacter place => "invalid character at " ++ toString place
  | .missingUnit whole =>
      "time unit needed, for example " ++ toString whole ++ "sec or " ++ toString whole ++ "ms"
  | .unknownUnit name =>
      "unknown time unit \"" ++ name ++ "\", supported units: ns, us/µs, ms, sec, min, " ++
        "hours, days, weeks, months, years (and few variations)"
  | .outOfRange =>
      "number is too large or cannot be represented without a lack of precision " ++
        "(values below 1ns are not supported)"

/-- A fraction in decimal notation. -/
structure DecimalFraction where
  /-- The digits after the point, as a number. -/
  numerator : Nat := 0
  /-- Ten for every digit. -/
  denominator : Nat := 1
deriving DecidableEq, Repr

/-- Where a reader of durations stands. -/
inductive DurationReading where
  /-- Between amounts; the place where the blanks began. -/
  | between (since : Nat)
  /-- In the whole part of an amount. -/
  | inWhole (whole : Nat)
  /-- After the point; the place of the point or after the last character. -/
  | inFraction (whole : Nat) (fraction : DecimalFraction) (place : Nat)
  /-- In a unit; the amount, and the letters in reverse. -/
  | inUnit (whole : Nat) (fraction : Option DecimalFraction) (letters : List Char)
deriving DecidableEq, Repr

namespace DurationReading

/-- The bound on every number. -/
def bound : Nat := 0x10000000000000000

/-- A number that fits. -/
def checked (number : Nat) : Except DurationTextError Nat :=
  if number < bound then .ok number else .error .outOfRange

/-- A quotient without a remainder. -/
def exact (dividend divisor : Nat) : Except DurationTextError Nat :=
  if dividend % divisor = 0 then .ok (dividend / divisor) else .error .outOfRange

/-- Adds some seconds and nanoseconds to a number of nanoseconds. -/
def accumulate (total seconds nanos : Nat) : Except DurationTextError Nat := do
  let carried ← checked (total % 1000000000 + nanos)
  let seconds ← checked (total / 1000000000 + seconds + carried / 1000000000)
  return seconds * 1000000000 + carried % 1000000000

/-- Adds an amount of a unit to a number of nanoseconds. -/
def addAmount (total whole : Nat) (fraction : Option DecimalFraction) (unit : TimeUnit) :
    Except DurationTextError Nat := do
  let total ←
    if unit.nanos < TimeUnit.second then
      accumulate total 0 (← checked (whole * unit.nanos))
    else
      accumulate total (← checked (whole * (unit.nanos / TimeUnit.second))) 0
  match fraction with
  | none => return total
  | some fraction =>
      if unit.nanos = 1 then throw .outOfRange
      if unit.nanos ≤ TimeUnit.minute then
        let scaled ← checked (fraction.numerator * unit.nanos)
        accumulate total 0 (← exact scaled fraction.denominator)
      else
        let scaled ← checked (fraction.numerator * (unit.nanos / TimeUnit.second))
        accumulate total (← exact scaled fraction.denominator) 0

/-- Adds an amount whose unit is complete. -/
def finish (total whole : Nat) (fraction : Option DecimalFraction) (letters : List Char) :
    Except DurationTextError Nat :=
  if letters.isEmpty then .error (.missingUnit whole)
  else
    let name := String.ofList letters.reverse
    match TimeUnit.named? name with
    | some unit => addAmount total whole fraction unit
    | none => .error (.unknownUnit name)

/-- The value of a decimal digit. -/
def digitValue (c : Char) : Nat := c.toNat - '0'.toNat

/-- Whether a character may stand in a unit. -/
def isUnitLetter (c : Char) : Bool := c.isAlpha || c == 'µ'

/-- One more digit after the point.  Zeros before the first other digit leave
the numerator alone. -/
def pushDigit (fraction : DecimalFraction) (c : Char) :
    Except DurationTextError DecimalFraction := do
  let denominator ← checked (fraction.denominator * 10)
  let numerator ← checked (fraction.numerator * 10 + digitValue c)
  return { numerator, denominator }

/-- Reads the character at `place`.  The state is the sum so far in nanoseconds,
and where the reader stands. -/
def step (total place : Nat) (c : Char) :
    DurationReading → Except DurationTextError (Nat × DurationReading)
  | .between since =>
      if c.isDigit then .ok (total, .inWhole (digitValue c))
      else if Text.isBlank c then .ok (total, .between since)
      else .error (.expectedNumber since)
  | .inWhole whole =>
      if c.isDigit then do return (total, .inWhole (← checked (whole * 10 + digitValue c)))
      else if Text.isBlank c then .ok (total, .inWhole whole)
      else if isUnitLetter c then .ok (total, .inUnit whole none [c])
      else if c = '.' then .ok (total, .inFraction whole {} place)
      else .error (.invalidCharacter place)
  | .inFraction whole fraction since =>
      if c.isDigit then do
        return (total, .inFraction whole (← pushDigit fraction c) (place + c.utf8Size))
      else if Text.isBlank c then .ok (total, .inFraction whole fraction (place + c.utf8Size))
      else if isUnitLetter c && fraction.denominator != 1 then
        .ok (total, .inUnit whole (some fraction) [c])
      else .error (.invalidCharacter since)
  | .inUnit whole fraction letters =>
      if c.isDigit then do return (← finish total whole fraction letters, .inWhole (digitValue c))
      else if Text.isBlank c then do
        return (← finish total whole fraction letters, .between (place + c.utf8Size))
      else if isUnitLetter c then .ok (total, .inUnit whole fraction (c :: letters))
      else .error (.invalidCharacter place)

/-- The sum at the end of the text. -/
def result (total : Nat) : DurationReading → Except DurationTextError Nat
  | .between _ => .ok total
  | .inWhole whole => finish total whole none []
  | .inFraction whole fraction place =>
      if fraction.denominator = 1 then .error (.invalidCharacter place)
      else finish total whole (some fraction) []
  | .inUnit whole fraction letters => finish total whole fraction letters

/-- Reads the rest of a text, from `place` on. -/
def run (total place : Nat) (reading : DurationReading) :
    List Char → Except DurationTextError Nat
  | [] => result total reading
  | c :: rest => do
      let (total, reading) ← step total place c reading
      run total (place + c.utf8Size) reading rest

end DurationReading

namespace Duration

/-- The duration that a text denotes.  A lone zero needs no unit. -/
def ofText (text : String) : Except DurationTextError Duration :=
  if text = "0" then .ok zero
  else if text.toList.all Text.isBlank then .error .empty
  else do return ofNanos (← DurationReading.run 0 0 (.between 0) text.toList)

/-- An amount with its unit, or nothing if there is none of it. -/
def part (amount : Nat) (unit : String) : List String :=
  if amount = 0 then [] else [toString amount ++ unit]

/-- The same, with the plural of a word for the unit. -/
def wordPart (amount : Nat) (unit : String) : List String :=
  part amount (if amount = 1 then unit else unit ++ "s")

/-- A duration in units, the largest first, of each as many as there are. -/
def toText (duration : Duration) : String :=
  let nanos := duration.nanos
  let inYear := nanos % TimeUnit.year
  let inMonth := inYear % TimeUnit.month
  let parts :=
    wordPart (nanos / TimeUnit.year) "year" ++ wordPart (inYear / TimeUnit.month) "month" ++
      wordPart (inMonth / TimeUnit.day) "day" ++ part (inMonth / TimeUnit.hour % 24) "h" ++
      part (inMonth / TimeUnit.minute % 60) "m" ++ part (inMonth / TimeUnit.second % 60) "s" ++
      part (nanos / 1000000 % 1000) "ms" ++ part (nanos / 1000 % 1000) "us" ++
      part (nanos % 1000) "ns"
  if parts.isEmpty then "0s" else " ".intercalate parts

/-- A number of `size` nanoseconds each, with as many decimals as it takes. -/
def decimal (nanos size : Nat) (unit : String) : String :=
  let digits := (toString (size + nanos % size)).toList.drop 1
  let decimals := (digits.reverse.dropWhile (· == '0')).reverse
  let point := if decimals.isEmpty then "" else "."
  toString (nanos / size) ++ point ++ String.ofList decimals ++ unit

/-- A duration as one decimal number, in the largest of the units second to
nanosecond of which it has at least one. -/
def toDecimalText (duration : Duration) : String :=
  let nanos := duration.nanos
  if 1000000000 ≤ nanos then decimal nanos 1000000000 "s"
  else if 1000000 ≤ nanos then decimal nanos 1000000 "ms"
  else if 1000 ≤ nanos then decimal nanos 1000 "µs"
  else decimal nanos 1 "ns"

end Duration

end ResumableSession
