import OfflineSite.Text.Utf8
import OfflineSite.Unicode.Direction
import OfflineSite.Unicode.Joining
import OfflineSite.Url.Domain.Mapping
import OfflineSite.Url.Punycode

namespace OfflineSite.Url.Domain

open Unicode (Direction)

/-- The characters that no domain holds, even where a URL lets an escape stand for them. -/
def isForbidden (c : Char) : Bool :=
  c.toNat ≤ 0x20 || c.toNat == 0x7F || "%#/:<>?@[\\]^|".toList.contains c

def isAscii (text : List Char) : Bool := text.all (·.toNat < 128)

/-- A text as domains are compared. -/
def folded? (text : List Char) : Option (List Char) := do
  let mapped ← text.mapM mapped?
  return if isAscii text then mapped.flatten else Unicode.normal mapped.flatten

/-- A label: its characters, and its text in a domain. -/
structure Label where
  plain : List Char
  written : List Char

/-- The class of the marks that join two letters into one. -/
def isJoiningMark (c : Char) : Bool := Unicode.markClass c.toNat == 9

/-- Whether the joiners of a label stand where they matter: after a mark that joins letters, or,
if they part letters, between two that would be joined. The characters before are given last
first. -/
def joinersMatter (before : List Char) : List Char → Bool
  | [] => true
  | c :: rest =>
    let nearest (text : List Char) : Option Char := (text.dropWhile Unicode.isTransparent).head?
    let matters := before.head?.any isJoiningMark || (c == '\u200C' &&
      (nearest before).any Unicode.joinsNext && (nearest rest).any Unicode.joinsPrevious)
    ((c != '\u200C' && c != '\u200D') || matters) && joinersMatter (c :: before) rest

/-- Whether the characters of a label may stand together, apart from their directions. -/
def isSound (label : List Char) : Bool :=
  !label.head?.any Unicode.isMark && joinersMatter [] label

/-- Reads a label. One with the mark of Punycode is to stand for a label that needs it and that
is written as domains are compared. -/
def label? : List Char → Option Label
  | 'x' :: 'n' :: '-' :: '-' :: code => do
    guard (isAscii code && code.getLast? != some '-' && code.length ≤ 2000)
    let plain ← Punycode.decode? code
    guard (!isAscii plain && folded? plain == some plain && isSound plain)
    return ⟨plain, "xn--".toList ++ code⟩
  | label =>
    if isAscii label then some ⟨label, label⟩
    else do
      guard (isSound label && label.length ≤ 1000)
      return ⟨label, "xn--".toList ++ Punycode.encode label⟩

/-- Whether a label is written in one direction. It begins with a letter, and ends with a letter or
a number, apart from marks; from right to left, its numbers are of one kind. -/
def hasOneDirection (label : List Char) : Bool :=
  match label.map Direction.ofChar with
  | [] => true
  | first :: rest =>
    let rest := (rest.reverse.dropWhile (· == .nonspacing)).reverse
    let endsIn (last : List Direction) : Bool := rest.getLast?.all last.contains
    match first with
    | .left =>
      rest.all (fun d => d != .right && d != .arabicNumber) && endsIn [.left, .europeanNumber]
    | .right =>
      rest.all (· != .left) && endsIn [.right, .europeanNumber, .arabicNumber] &&
        !(rest.contains .europeanNumber && rest.contains .arabicNumber)
    | _ => false

/-- Whether a label holds anything that is written from right to left. -/
def runsLeft (label : List Char) : Bool :=
  label.any fun c => Direction.ofChar c == .right || Direction.ofChar c == .arabicNumber

/-- The ASCII form of the domain that some bytes name. Once a label holds anything from right to
left, every label is to have one direction. -/
def ascii? (bytes : List UInt8) : Option (List Char) := do
  let folded ← folded? (← Utf8.decode? bytes)
  guard (folded.all (!isForbidden ·))
  let labels ← (Split.pieces (· == '.') folded).mapM label?
  guard (!labels.any (runsLeft ·.plain) || labels.all (hasOneDirection ·.plain))
  return Split.join '.' (labels.map (·.written))

end OfflineSite.Url.Domain
