import OfflineSite.Unicode.Composition

namespace OfflineSite.Unicode

/-- The leading, the vowel and the trailing part of a Hangul syllable, which may lack the last. -/
def syllableParts? (n : Nat) : Option (List Nat) :=
  if 0xAC00 ≤ n ∧ n < 0xD7A4 then
    let i := n - 0xAC00
    let parts := [0x1100 + i / 588, 0x1161 + i % 588 / 28]
    some (if i % 28 = 0 then parts else parts ++ [0x11A7 + i % 28])
  else none

/-- The Hangul syllable made of two parts, or of a syllable and a trailing part. -/
def syllable? (a b : Nat) : Option Nat :=
  if 0x1100 ≤ a ∧ a < 0x1113 ∧ 0x1161 ≤ b ∧ b < 0x1176 then
    some (0xAC00 + (a - 0x1100) * 588 + (b - 0x1161) * 28)
  else if 0xAC00 ≤ a ∧ a < 0xD7A4 ∧ (a - 0xAC00) % 28 = 0 ∧ 0x11A8 ≤ b ∧ b < 0x11C3 then
    some (a + (b - 0x11A7))
  else none

/-- The code points that one is composed of, in which no more than `depth` compositions stand in
each other. -/
def partsWithin : Nat → Nat → List Nat
  | 0, n => [n]
  | depth + 1, n =>
    match syllableParts? n, dissolvedTable.at? n, compositeTable.at? n with
    | some parts, _, _ => parts
    | none, some parts, _ => parts
    | none, none, some [a, b] => partsWithin depth a ++ [b]
    | none, none, _ => [n]

/-- The code points that one is composed of. -/
def parts (n : Nat) : List Nat := partsWithin 4 n

/-- Where a mark stands on its character; 0 for characters that are no such marks. -/
def markClass (n : Nat) : Nat :=
  match classTable.row? n with
  | some [_, last, place] => if n ≤ last then place else 0
  | _ => 0

/-- A code point with the class of its mark. -/
abbrev Classed := Nat × Nat

/-- Puts a code point in front of others, behind the marks among them that come before it. -/
def place (item : Classed) : List Classed → List Classed
  | [] => [item]
  | other :: rest =>
    if 0 < other.2 ∧ other.2 < item.2 then other :: place item rest else item :: other :: rest

/-- Puts the marks of each character in order. Those of one class keep theirs. -/
def ordered (items : List Classed) : List Classed := items.foldr place []

/-- The code point that is composed of two. -/
def composed? (a b : Nat) : Option Nat :=
  (syllable? a b).or ((compositeTable.find? (·.tail == [a, b])).bind (·.head?))

/-- Composes a code point with those that follow it. A mark is out of reach behind one of its own
class, and any other code point behind any mark. The marks passed over are given last first, and
`nearest` is the class of the last. -/
def composeFrom (first : Nat) (passed : List Nat) (nearest : Nat) : List Classed → List Nat
  | [] => first :: passed.reverse
  | item :: rest =>
    match if passed.isEmpty || nearest < item.2 then composed? first item.1 else none with
    | some whole => composeFrom whole passed nearest rest
    | none =>
      if item.2 = 0 then first :: passed.reverse ++ composeFrom item.1 [] 0 rest
      else composeFrom first (item.1 :: passed) item.2 rest

/-- Composes what can be composed. Marks at the front stay alone. -/
def compose : List Classed → List Nat
  | [] => []
  | item :: rest =>
    if item.2 = 0 then composeFrom item.1 [] 0 rest else item.1 :: compose rest

/-- The text in its composed form. -/
def normal (text : List Char) : List Char :=
  let points := text.flatMap fun c => parts c.toNat
  (compose (ordered (points.map fun n => (n, markClass n)))).map Char.ofNat

end OfflineSite.Unicode
