namespace OfflineSite

/-- The four octets of an IPv4 address. -/
structure Ipv4 where
  a : UInt8
  b : UInt8
  c : UInt8
  d : UInt8
  deriving Repr, DecidableEq, Inhabited

namespace Ipv4

def text (address : Ipv4) : String :=
  s!"{address.a.toNat}.{address.b.toNat}.{address.c.toNat}.{address.d.toNat}"

/-- Addresses of 127.0.0.0/8 reach the own machine only. -/
def isLoopback (address : Ipv4) : Bool := address.a == 127

/-- The address 0.0.0.0 names no machine. -/
def isUnspecified (address : Ipv4) : Bool := address == ⟨0, 0, 0, 0⟩

/-- Whether another machine could reach this address. -/
def isExternal (address : Ipv4) : Bool := !address.isLoopback && !address.isUnspecified

end Ipv4

/-- An address of either version. Only version 4 is ever advertised, so the eight groups of a
version 6 address are kept as they are. -/
inductive IpAddress where
  | v4 (address : Ipv4)
  | v6 (groups : List Nat)
  deriving Repr, DecidableEq

/-- The address as version 4, if another machine could reach it. -/
def IpAddress.external? : IpAddress → Option Ipv4
  | .v4 address => if address.isExternal then some address else none
  | .v6 _ => none

/-- The interfaces that have an external address, in the order given. -/
def externalAddresses (interfaces : List (String × IpAddress)) : List (String × Ipv4) :=
  interfaces.filterMap fun (name, address) => address.external?.map (name, ·)

/-- The address to advertise: of the interfaces with an external address, the first by name, and
of one interface's addresses the first listed. The sort is stable, so the choice does not depend
on how interfaces of different names are ordered. -/
def firstExternalIpv4 (interfaces : List (String × IpAddress)) : Option Ipv4 :=
  ((externalAddresses interfaces).mergeSort fun x y => compare x.1 y.1 != .gt).head?.map (·.2)

/-- The host name to advertise. -/
def lanHost (interfaces : List (String × IpAddress)) : String :=
  match firstExternalIpv4 interfaces with
  | some address => address.text
  | none => "localhost"

end OfflineSite
