import OfflineSite.Url.Domain
import OfflineSite.Url.Ipv4
import OfflineSite.Url.Ipv6
import OfflineSite.Url.Reserved

namespace OfflineSite.Url

inductive Host where
  /-- A domain, or for a scheme without rules of its own any text; it may be empty. -/
  | name (text : String)
  | ipv4 (address : Ipv4)
  | ipv6 (groups : List Nat)
  deriving Repr, DecidableEq

namespace Host

def text : Host → String
  | name text => text
  | ipv4 address => address.text
  | ipv6 groups => "[" ++ String.ofList (ipv6Text groups) ++ "]"

def isEmpty : Host → Bool
  | name text => text.isEmpty
  | _ => false

/-- Reads what stands in brackets. -/
def bracketed (text : List Char) : Except UrlFailure Host :=
  match text.getLast?, ipv6? text.dropLast with
  | some ']', some groups => .ok (ipv6 groups)
  | _, _ => .error .ipv6

/-- Reads the host of a scheme whose hosts are domains and addresses. -/
def parse : List Char → Except UrlFailure Host
  | '[' :: rest => bracketed rest
  | text =>
    match Domain.ascii? (Percent.decodeBytes (Utf8.encode text)) with
    | none => .error .domain
    | some [] => .error .emptyHost
    | some domain =>
      if endsInNumber domain then
        match ipv4? domain with
        | some address => .ok (ipv4 address)
        | none => .error .ipv4
      else .ok (name (String.ofList domain))

/-- The characters that a host may not hold, whatever the scheme. -/
def isForbidden (c : Char) : Bool :=
  "\x00\t\n\r #/:<>?@[\\]^|".toList.contains c

/-- Reads the host of any other scheme, which is kept as it is. -/
def parseOpaque : List Char → Except UrlFailure Host
  | '[' :: rest => bracketed rest
  | text =>
    if text.any isForbidden then .error .opaqueHost
    else .ok (name (escaped isControl text))

end Host

end OfflineSite.Url
