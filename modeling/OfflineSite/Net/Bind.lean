import OfflineSite.IoFailure
import OfflineSite.Net.Address
import OfflineSite.Url.Ipv4
import OfflineSite.Url.Ipv6

namespace OfflineSite

namespace IpAddress

/-- The version 4 address that an address is or that is embedded in it. -/
def v4? : IpAddress → Option Ipv4
  | v4 address => some address
  | v6 [0, 0, 0, 0, 0, 0xFFFF, high, low] => some (Url.ipv4OfNat (high * 0x10000 + low))
  | v6 _ => none

def text (address : IpAddress) : String :=
  match address, address.v4? with
  | v4 address, _ => address.text
  | v6 _, some embedded => "::ffff:" ++ embedded.text
  | v6 groups, none => String.ofList (Url.ipv6Text groups)

/-- Reads four octets in decimal. -/
def ipv4? (text : List Char) : Option Ipv4 := do
  match ← (Split.pieces (· == '.') text).mapM Url.octet? with
  | [a, b, c, d] => return ⟨UInt8.ofNat a, UInt8.ofNat b, UInt8.ofNat c, UInt8.ofNat d⟩
  | _ => none

/-- Reads an address of either version. -/
def parse? (text : String) : Option IpAddress :=
  ((ipv4? text.toList).map v4).or ((Url.ipv6? text.toList).map v6)

/-- Reads an address of which some octets may be written as one number, and numbers with the
marks of octal and hexadecimal. -/
def looseIpv4? (text : List Char) : Option Ipv4 := do
  let isNumeral (part : List Char) : Bool :=
    part.head?.any Char.isDigit && part != ['0', 'x'] && part != ['0', 'X']
  guard ((Split.pieces (· == '.') text).all isNumeral)
  Url.ipv4? text

/-- Whether addresses of this kind need no machine that has them: those of the own machine and
those of many machines at once. -/
def isBindable (address : Ipv4) : Bool :=
  !address.isExternal || (224 ≤ address.a && address.a < 240) || address == ⟨255, 255, 255, 255⟩

/-- Why an address cannot be listened on, whatever the port. -/
def refusal? (address : IpAddress) : Option IoFailure :=
  match address, address.v4? with
  | _, some embedded => if isBindable embedded then none else some .addressNotAvailable
  | v6 groups, none =>
    let first := groups.headD 0
    if 0xFF00 ≤ first || (0xFE80 ≤ first && first < 0xFEC0) then some .invalidArgument
    else if groups.dropLast.all (· == 0) && groups.getLast?.any (· ≤ 1) then none
    else some .addressNotAvailable
  | v4 _, none => none

/-- Whether an address stands for all addresses of the machine. -/
def isEvery (address : IpAddress) : Bool := address == v6 (List.replicate 8 0)

/-- Whether two listeners on one port are in each other's way. -/
def overlaps (address other : IpAddress) : Bool :=
  address == other || address.isEvery || other.isEvery ||
    match address.v4?, other.v4? with
    | some a, some b => a == b || a.isUnspecified || b.isUnspecified
    | _, _ => false

end IpAddress

namespace Net

/-- The reason given where a name is not known. -/
def unknownHost : IoFailure :=
  .described "failed to lookup address information: Name or service not known"

/-- Reads an address of version 6, which the number of a network may follow. -/
def zonedIpv6? (text : List Char) : Option IpAddress :=
  match Split.first? (· == '%') text with
  | none => (Url.ipv6? text).map .v6
  | some (address, zone) => do
    guard (!zone.isEmpty && zone.all Char.isDigit)
    guard (Hex.ofDigits 10 (zone.filterMap Hex.value?) < 0x100000000)
    return .v6 (← Url.ipv6? address)

/-- The address of a host. Brackets may enclose an address of version 6 only. -/
def address? (host : String) : Option IpAddress :=
  match host.toList with
  | '[' :: rest => if rest.getLast? == some ']' then zonedIpv6? rest.dropLast else none
  | text =>
    if text.map Char.toLower = "localhost".toList then some (.v4 ⟨127, 0, 0, 1⟩)
    else (zonedIpv6? text).or ((IpAddress.looseIpv4? text).map .v4)

/-- The address that a host is listened on, if no listener that holds the port is in its way. -/
def bind (host : String) (holder : Option IpAddress) : Except IoFailure IpAddress :=
  if host.toList.contains '\x00' then .error .nulInName
  else match address? host with
    | none => .error unknownHost
    | some address =>
      match address.refusal? with
      | some failure => .error failure
      | none => if holder.any address.overlaps then .error .addressInUse else .ok address

end Net

end OfflineSite
