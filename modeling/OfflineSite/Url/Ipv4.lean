import OfflineSite.Net.Address
import OfflineSite.Number.Power
import OfflineSite.Text.Hex
import OfflineSite.Text.Split
import OfflineSite.Url.Failure

namespace OfflineSite.Url

/-- A part of an address: digits of base ten, of base eight after `0`, of base sixteen after
`0x`. -/
def ipv4Part? (part : List Char) : Option Nat :=
  let numeral (base : Nat) (isDigit : Char → Bool) (digits : List Char) : Option Nat :=
    if digits.all isDigit then some (Hex.ofDigits base (digits.filterMap Hex.value?)) else none
  match part with
  | [] => none
  | '0' :: 'x' :: digits => numeral 16 (Hex.value? · |>.isSome) digits
  | '0' :: 'X' :: digits => numeral 16 (Hex.value? · |>.isSome) digits
  | '0' :: d :: digits => numeral 8 (fun c => '0' ≤ c && c ≤ '7') (d :: digits)
  | digits => numeral 10 Char.isDigit digits

/-- The parts of a host between dots; a dot at the end counts for nothing. -/
def hostParts (host : List Char) : List (List Char) :=
  let parts := Split.pieces (· == '.') host
  if parts.length > 1 && parts.getLast? == some [] then parts.dropLast else parts

/-- Whether the last part is a number, which makes the host an address and no name. -/
def endsInNumber (host : List Char) : Bool :=
  match (hostParts host).getLast? with
  | some last => (!last.isEmpty && last.all Char.isDigit) || (ipv4Part? last).isSome
  | none => false

def ipv4OfNat (n : Nat) : Ipv4 :=
  ⟨UInt8.ofNat (n / 0x1000000), UInt8.ofNat (n / 0x10000), UInt8.ofNat (n / 0x100), UInt8.ofNat n⟩

/-- Reads an address. All parts but the last are single octets; the last fills what is left. Each
part may be decimal, octal or hexadecimal. -/
def ipv4? (host : List Char) : Option Ipv4 := do
  let numbers ← (hostParts host).mapM ipv4Part?
  let last ← numbers.getLast?
  let front := numbers.dropLast
  let unit := twoTo (8 * (4 - front.length))
  guard (front.length < 4 && front.all (· < 256) && last < unit)
  return ipv4OfNat (Hex.ofDigits 256 front * unit + last)

end OfflineSite.Url
