import ResumableSession.Network.SocketAddress
import ResumableSession.Session.Error

/-!
# Where a host can listen

A host that no connection leads to listens at the addresses that it has for itself, and
at those that mean many hosts at once.  Low numbers are kept for privileged services.
Of two faults, the number of a long address is found first, and the machine of a short
one.
-/

namespace ResumableSession

/-- Whether every host has the address for itself. -/
def Ipv4Address.isOwn (address : Ipv4Address) : Bool := address.leading == 127

/-- Whether the address means a group of hosts, or every host around. -/
def Ipv4Address.isShared (address : Ipv4Address) : Bool :=
  address.leading == 0 || (224 ≤ address.leading && address.leading < 240) ||
    address.toList.all (·.toNat == 255)

/-- Whether the address means a group of hosts. -/
def Ipv6Address.isShared (address : Ipv6Address) : Bool := 0xFF00 ≤ address.leading

/-- Whether the address has a meaning in its zone only. -/
def Ipv6Address.isLocal (address : Ipv6Address) : Bool :=
  0xFE80 ≤ address.leading && address.leading < 0xFEC0

namespace SocketAddress

/-- Whether the number is kept for privileged services.  Zero stands for a free one. -/
def isPrivileged (address : SocketAddress) : Bool :=
  address.portOf != 0 && address.portOf.toNat < 1024

/-- Why nobody can listen at an address of that machine, if there is a reason. -/
def machineFault? : SocketAddress → Option TransportError
  | v4 address _ =>
      if address.isOwn || address.isShared then none else some .addressNotAvailable
  | v6 address zone portNumber =>
      match mapped? address.toList with
      | some short =>
          if short.isOwn || short.isShared then none else some .addressNotAvailable
      | none =>
          if (v6 address zone portNumber).isUnspecified || (v6 address zone portNumber).isLoopback then
            none
          else if address.isLocal && zone == 0 then some .invalidArgument
          else if address.isLocal && zone != 1 then some .noDevice
          else some .addressNotAvailable

/-- Why an unprivileged service cannot listen at an address, if there is a reason. -/
def fault? (address : SocketAddress) : Option TransportError :=
  let numberFault := if address.isPrivileged then some TransportError.permissionDenied else none
  match address with
  | v4 .. => address.machineFault? <|> numberFault
  | v6 machine .. =>
      if machine.isShared then some .invalidArgument else numberFault <|> address.machineFault?

end SocketAddress

end ResumableSession
