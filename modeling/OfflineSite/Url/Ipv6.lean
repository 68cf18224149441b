import OfflineSite.Text.Hex
import OfflineSite.Text.Split

namespace OfflineSite.Url

/-- Reads a group of one to four digits. -/
def ipv6Group? (text : List Char) : Option Nat := do
  guard (!text.isEmpty && text.length ≤ 4)
  return Hex.ofDigits 16 (← text.mapM Hex.value?)

/-- Reads an octet in decimal, without leading zeros. -/
def octet? (text : List Char) : Option Nat := do
  guard (!text.isEmpty && text.length ≤ 3 && text.all Char.isDigit)
  guard (text.length == 1 || text.head? != some '0')
  let n := Hex.ofDigits 10 (text.filterMap Hex.value?)
  if n < 256 then some n else none

/-- Reads four octets as two groups. -/
def dottedGroups? (text : List Char) : Option (List Nat) := do
  match ← (Split.pieces (· == '.') text).mapM octet? with
  | [a, b, c, d] => return [a * 256 + b, c * 256 + d]
  | _ => none

/-- Reads groups between colons. The last may be dotted if these are the last of the address. -/
def ipv6Groups? (atEnd : Bool) : List (List Char) → Option (List Nat)
  | [] => some []
  | [last] =>
    if atEnd && last.contains '.' then dottedGroups? last else (ipv6Group? last).map ([·])
  | group :: rest => return (← ipv6Group? group) :: (← ipv6Groups? atEnd rest)

/-- The groups of a text, which may be empty. -/
def ipv6Run? (atEnd : Bool) (text : List Char) : Option (List Nat) :=
  if text.isEmpty then some [] else ipv6Groups? atEnd (Split.pieces (· == ':') text)

/-- The text before and after the first double colon. -/
def splitDoubleColon : List Char → Option (List Char × List Char)
  | ':' :: ':' :: rest => some ([], rest)
  | c :: rest => (splitDoubleColon rest).map fun (before, after) => (c :: before, after)
  | [] => none

/-- Reads an address. One run of zero groups may be left out, and the last two groups may be given
as an IPv4 address. -/
def ipv6? (text : List Char) : Option (List Nat) :=
  match splitDoubleColon text with
  | none => do
    let groups ← ipv6Groups? true (Split.pieces (· == ':') text)
    if groups.length = 8 then some groups else none
  | some (before, after) => do
    let front ← ipv6Run? false before
    let back ← ipv6Run? true after
    if front.length + back.length < 8 then
      some (front ++ List.replicate (8 - front.length - back.length) 0 ++ back)
    else none

/-- A group without leading zeros. -/
def groupText (group : Nat) : List Char :=
  Nat.toDigits 16 group

/-- The length of the run of zeros that a list starts with. -/
def zeroRun (groups : List Nat) : Nat := (groups.takeWhile (· == 0)).length

/-- The length of the longest run of zeros. -/
def longestZeroRun : List Nat → Nat
  | [] => 0
  | group :: rest => max (zeroRun (group :: rest)) (longestZeroRun rest)

/-- Where the first run of `length` zeros starts. -/
def zeroRunIndex (length : Nat) : List Nat → Nat
  | [] => 0
  | group :: rest =>
    if zeroRun (group :: rest) = length then 0 else zeroRunIndex length rest + 1

/-- The text of an address. The longest run of two or more zero groups is left out. -/
def ipv6Text (groups : List Nat) : List Char :=
  let run := longestZeroRun groups
  let join (groups : List Nat) := Split.join ':' (groups.map groupText)
  if run < 2 then join groups
  else
    let start := zeroRunIndex run groups
    join (groups.take start) ++ [':', ':'] ++ join (groups.drop (start + run))

end OfflineSite.Url
