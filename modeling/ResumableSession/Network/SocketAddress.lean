/-!
# Socket addresses

The internet address of an endpoint: a machine and a number on it, and how they are
written.  The machine is four decimal numbers with points, or eight hexadecimal
groups with colons in brackets, of which one run of zeros may be left out.
-/

namespace ResumableSession

/-- An address of four octets. -/
abbrev Ipv4Address := Vector UInt8 4

/-- An address of eight groups of sixteen bits. -/
abbrev Ipv6Address := Vector UInt16 8

/-- The octet that a short address starts with. -/
def Ipv4Address.leading (address : Ipv4Address) : Nat := address[0].toNat

/-- The group that a long address starts with. -/
def Ipv6Address.leading (address : Ipv6Address) : Nat := address[0].toNat

/-- The address of an endpoint: a machine, and a number on it. -/
inductive SocketAddress where
  /-- A short address. -/
  | v4 (address : Ipv4Address) (portNumber : UInt16)
  /-- A long address, and the zone it belongs to; zone zero is none. -/
  | v6 (address : Ipv6Address) (zone : UInt32) (portNumber : UInt16)
deriving DecidableEq, Repr

namespace SocketAddress

/-! ## Reading -/

/-- A reader takes a prefix of the text, or refuses it. -/
abbrev TextReader (α : Type) := StateT (List Char) Option α

namespace TextReader

variable {α : Type}

/-- Takes the character `expected`. -/
def char (expected : Char) : TextReader Unit
  | c :: rest => if c = expected then some ((), rest) else none
  | [] => none

/-- What `reader` finds, or nothing, and then it takes nothing. -/
def optional (reader : TextReader α) : TextReader (Option α) := fun text =>
  match reader text with
  | some (value, rest) => some (some value, rest)
  | none => some (none, text)

end TextReader

/-- The value of a digit, in bases up to sixteen. -/
def digitValue? (base : Nat) (c : Char) : Option Nat :=
  let value :=
    if c.isDigit then c.toNat - '0'.toNat
    else if 'a' ≤ c ∧ c ≤ 'f' then c.toNat - 'a'.toNat + 10
    else if 'A' ≤ c ∧ c ≤ 'F' then c.toNat - 'A'.toNat + 10
    else base
  if value < base then some value else none

/-- The value of a number in digits. -/
def numberValue (base : Nat) (digits : List Char) : Nat :=
  digits.foldl (fun value c => value * base + (digitValue? base c).getD 0) 0

/-- Takes a number of at least one digit that is below `bound`. -/
def number (base bound : Nat) : TextReader (Nat × Nat) := fun text =>
  let isDigit c := (digitValue? base c).isSome
  let digits := text.takeWhile isDigit
  let value := numberValue base digits
  if digits.isEmpty ∨ bound ≤ value then none
  else some ((value, digits.length), text.dropWhile isDigit)

/-- Takes an octet in decimal, without leading zeros. -/
def octet : TextReader UInt8 := do
  let (value, width) ← number 10 256
  if width = (toString value).length then return UInt8.ofNat value else failure

/-- Takes a short address. -/
def ipv4 : TextReader Ipv4Address := do
  let first ← octet
  TextReader.char '.'
  let second ← octet
  TextReader.char '.'
  let third ← octet
  TextReader.char '.'
  let fourth ← octet
  return #v[first, second, third, fourth]

/-- Takes a group of up to four hexadecimal digits. -/
def group : TextReader UInt16 := do
  let (value, width) ← number 16 0x10000
  if width ≤ 4 then return UInt16.ofNat value else failure

/-- The two groups that hold a short address. -/
def groupsOf (address : Ipv4Address) : List UInt16 :=
  let pair (high low : UInt8) : UInt16 := high.toUInt16 * 256 + low.toUInt16
  [pair address[0] address[1], pair address[2] address[3]]

/-- What follows a colon, or what comes first. -/
def separated {α : Type} (first : Bool) (reader : TextReader α) : TextReader α := do
  if !first then TextReader.char ':'
  reader

/-- Takes at most `limit` groups, and says whether a short address ends them.
That takes the place of two. -/
def groups (first : Bool) : (limit : Nat) → TextReader (List UInt16 × Bool)
  | 0 => return ([], false)
  | limit + 1 => do
      let embedded ←
        if 0 < limit then TextReader.optional (separated first ipv4) else pure none
      match embedded with
      | some address => return (groupsOf address, true)
      | none =>
          match ← TextReader.optional (separated first group) with
          | none => return ([], false)
          | some value =>
              let (rest, ended) ← groups false limit
              return (value :: rest, ended)

/-- The address of eight groups. -/
def ofGroups (groups : List UInt16) : Ipv6Address := Vector.ofFn fun i => groups.getD i.val 0

/-- Takes a long address.  Two colons stand for at least one group of zeros. -/
def ipv6 : TextReader Ipv6Address := do
  let (head, ended) ← groups true 8
  if head.length = 8 then return ofGroups head
  if ended then failure
  TextReader.char ':'
  TextReader.char ':'
  let (tail, _) ← groups true (7 - head.length)
  return ofGroups (head ++ List.replicate (8 - head.length - tail.length) 0 ++ tail)

/-- Takes a colon and the number on the machine. -/
def portNumber : TextReader UInt16 := do
  TextReader.char ':'
  let (value, _) ← number 10 0x10000
  return UInt16.ofNat value

/-- Takes a zone. -/
def zone : TextReader UInt32 := do
  TextReader.char '%'
  let (value, _) ← number 10 0x100000000
  return UInt32.ofNat value

/-- Takes a short address and the number after it. -/
def withIpv4 : TextReader SocketAddress := do
  let address ← ipv4
  return v4 address (← portNumber)

/-- Takes a long address in brackets and the number after it. -/
def withIpv6 : TextReader SocketAddress := do
  TextReader.char '['
  let address ← ipv6
  let zone ← TextReader.optional zone
  TextReader.char ']'
  return v6 address (zone.getD 0) (← portNumber)

/-- The address that a text denotes. -/
def ofText? (text : String) : Option SocketAddress :=
  let whole (reader : TextReader SocketAddress) : Option SocketAddress :=
    match reader text.toList with
    | some (address, []) => some address
    | _ => none
  whole withIpv4 <|> whole withIpv6

/-! ## Writing -/

/-- A short address with points. -/
def ipv4Text (address : Ipv4Address) : String :=
  ".".intercalate (address.toList.map fun octet => toString octet.toNat)

/-- Groups with colons, in lower case and without leading zeros. -/
def groupsText (groups : List UInt16) : String :=
  ":".intercalate (groups.map fun group => String.ofList (Nat.toDigits 16 group.toNat))

/-- The number of zeros that `groups` starts with. -/
def zeroRun (groups : List UInt16) : Nat := (groups.takeWhile (· == 0)).length

/-- Where the longest run of zeros starts, and its length; the first of several. -/
def longestZeroRun (groups : List UInt16) : Nat × Nat :=
  (List.range groups.length).foldl (fun best start =>
    let length := zeroRun (groups.drop start)
    if best.2 < length then (start, length) else best) (0, 0)

/-- The short address within a long one that stands for it. -/
def mapped? (groups : List UInt16) : Option Ipv4Address :=
  match groups with
  | [0, 0, 0, 0, 0, 0xFFFF, high, low] =>
      some #v[(high / 256).toUInt8, high.toUInt8, (low / 256).toUInt8, low.toUInt8]
  | _ => none

/-- A long address.  The longest run of at least two zeros is left out. -/
def ipv6Text (address : Ipv6Address) : String :=
  let groups := address.toList
  match mapped? groups with
  | some short => "::ffff:" ++ ipv4Text short
  | none =>
      let (start, length) := longestZeroRun groups
      if 1 < length then
        groupsText (groups.take start) ++ "::" ++ groupsText (groups.drop (start + length))
      else groupsText groups

/-- The text of an address in full. -/
def toText : SocketAddress → String
  | v4 address portNumber => ipv4Text address ++ ":" ++ toString portNumber.toNat
  | v6 address zone portNumber =>
      let zone := if zone = 0 then "" else "%" ++ toString zone.toNat
      "[" ++ ipv6Text address ++ zone ++ "]:" ++ toString portNumber.toNat

/-! ## Listening -/

/-- An endpoint of this machine that is reached from itself only. -/
def loopback (portNumber : UInt16) : SocketAddress := v4 #v[127, 0, 0, 1] portNumber

/-- The number on the machine. -/
def portOf : SocketAddress → UInt16
  | v4 _ portNumber => portNumber
  | v6 _ _ portNumber => portNumber

/-- The same address, with this number on the machine in the place of zero. -/
def withPort (portNumber : UInt16) : SocketAddress → SocketAddress
  | v4 address 0 => v4 address portNumber
  | v6 address zone 0 => v6 address zone portNumber
  | address => address

/-- Whether the address stands for every address of the machine. -/
def isUnspecified : SocketAddress → Bool
  | v4 address _ => address.toList.all (· == 0)
  | v6 address _ _ => address.toList.all (· == 0)

/-- Whether the address is one that the machine has for itself. -/
def isLoopback : SocketAddress → Bool
  | v4 address _ => address[0] == 127
  | v6 address _ _ => address.toList == [0, 0, 0, 0, 0, 0, 0, 1]

/-- Whether nobody can listen at one address while somebody listens at the other.
The number zero stands for a free one. -/
def conflicts (left right : SocketAddress) : Bool :=
  left.portOf != 0 && left.portOf == right.portOf &&
    (left == right || left.isUnspecified || right.isUnspecified)

end SocketAddress

end ResumableSession
