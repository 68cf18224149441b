namespace OfflineSite.Base64

/-- What is wrong with a text that is not base64. -/
inductive Failure where
  /-- A byte that is no symbol, or a padding sign where none may stand. -/
  | symbol (byte : UInt8) (offset : Nat)
  /-- A last symbol that carries bits no byte takes. -/
  | lastSymbol (byte : UInt8) (offset : Nat)
  /-- A single symbol at the end. -/
  | length (count : Nat)
  /-- Padding that is missing or incomplete. -/
  | padding
  deriving Repr, DecidableEq

def Failure.message : Failure → String
  | symbol byte offset => s!"Invalid symbol {byte.toNat}, offset {offset}."
  | lastSymbol byte offset => s!"Invalid last symbol {byte.toNat}, offset {offset}."
  | length count => s!"Invalid input length: {count}"
  | padding => "Invalid padding"

def pad : UInt8 := '='.toUInt8

/-- The symbol of a value below 64. -/
def symbol (value : Nat) : UInt8 :=
  if value < 26 then UInt8.ofNat (65 + value)
  else if value < 52 then UInt8.ofNat (71 + value)
  else if value < 62 then UInt8.ofNat (value - 4)
  else if value = 62 then '+'.toUInt8
  else '/'.toUInt8

/-- The value of a symbol. -/
def value? (b : UInt8) : Option Nat :=
  if 65 ≤ b ∧ b ≤ 90 then some (b.toNat - 65)
  else if 97 ≤ b ∧ b ≤ 122 then some (b.toNat - 71)
  else if 48 ≤ b ∧ b ≤ 57 then some (b.toNat + 4)
  else if b = '+'.toUInt8 then some 62
  else if b = '/'.toUInt8 then some 63
  else none

/-- The text of a byte sequence. -/
def encode : List UInt8 → List UInt8
  | a :: b :: c :: rest =>
    let n := (a.toNat * 256 + b.toNat) * 256 + c.toNat
    symbol (n / 262144) :: symbol (n / 4096 % 64) :: symbol (n / 64 % 64) :: symbol (n % 64) ::
      encode rest
  | [a, b] =>
    let n := a.toNat * 256 + b.toNat
    [symbol (n / 1024), symbol (n / 16 % 64), symbol (n % 16 * 4), pad]
  | [a] => [symbol (a.toNat / 4), symbol (a.toNat % 4 * 16), pad, pad]
  | [] => []

/-- The value of the symbol at an offset. -/
def valueAt (offset : Nat) (b : UInt8) : Except Failure Nat :=
  match value? b with
  | some value => .ok value
  | none => .error (.symbol b offset)

/-- Reads four symbols, none of them padding. -/
def decodeFour (offset : Nat) (a b c d : UInt8) : Except Failure (List UInt8) := do
  let x ← valueAt offset a
  let y ← valueAt (offset + 1) b
  let z ← valueAt (offset + 2) c
  let w ← valueAt (offset + 3) d
  let n := ((x * 64 + y) * 64 + z) * 64 + w
  return [UInt8.ofNat (n / 65536), UInt8.ofNat (n / 256 % 256), UInt8.ofNat (n % 256)]

/-- Reads the last group, in which padding may stand for the third and fourth symbol. -/
def decodeLast (offset : Nat) : List UInt8 → Except Failure (List UInt8)
  | [] => .ok []
  | [a] => do
    discard <| valueAt offset a
    .error (.length (offset + 1))
  | [a, b] => do
    discard <| valueAt offset a
    discard <| valueAt (offset + 1) b
    .error .padding
  | [a, b, c] => do
    discard <| valueAt offset a
    discard <| valueAt (offset + 1) b
    if c ≠ pad then discard <| valueAt (offset + 2) c
    .error .padding
  | a :: b :: c :: d :: _ => do
    let x ← valueAt offset a
    let y ← valueAt (offset + 1) b
    if c = pad then
      if d ≠ pad then .error (.symbol pad (offset + 2))
      else if y % 16 ≠ 0 then .error (.lastSymbol b (offset + 1))
      else .ok [UInt8.ofNat (x * 4 + y / 16)]
    else
      let z ← valueAt (offset + 2) c
      if d = pad then
        if z % 4 ≠ 0 then .error (.lastSymbol c (offset + 2))
        else
          let n := ((x * 64 + y) * 64 + z) / 4
          .ok [UInt8.ofNat (n / 256), UInt8.ofNat (n % 256)]
      else decodeFour offset a b c d

/-- Reads group after group; only the last may hold padding. -/
def decodeFrom (offset : Nat) : List UInt8 → Except Failure (List UInt8)
  | a :: b :: c :: d :: e :: rest => do
    let front ← decodeFour offset a b c d
    return front ++ (← decodeFrom (offset + 4) (e :: rest))
  | last => decodeLast offset last

/-- Reads a text. A stray byte that follows complete groups, such as a line end, is reported before
anything else. Nothing is read but what is written. -/
def decode (text : List UInt8) : Except Failure (List UInt8) :=
  match text.getLast? with
  | some last =>
    if text.length % 4 = 1 ∧ last ≠ pad ∧ value? last = none then
      .error (.symbol last (text.length - 1))
    else decodeFrom 0 text
  | none => .ok []

end OfflineSite.Base64
