import OfflineSite.Text.Split

namespace OfflineSite.Url.Punycode

def digit (value : Nat) : Char :=
  if value < 26 then Char.ofNat (97 + value) else Char.ofNat (22 + value)

def value? (c : Char) : Option Nat :=
  if c.isLower then some (c.toNat - 97)
  else if c.isUpper then some (c.toNat - 65)
  else if c.isDigit then some (c.toNat - 22)
  else none

/-- The least digit that does not end a number, at the digit of weight index `k / 36`. -/
def threshold (bias k : Nat) : Nat :=
  max 1 (min 26 (k - bias))

theorem threshold_pos (bias k : Nat) : 0 < threshold bias k :=
  Nat.lt_of_lt_of_le Nat.zero_lt_one (Nat.le_max_left ..)

/-- Scales a step count down to the range from which a bias is read. -/
def scaleDown (delta k : Nat) : Nat :=
  if 455 < delta then scaleDown (delta / 35) (k + 36) else k + 36 * delta / (delta + 38)
  termination_by delta
  decreasing_by exact Nat.div_lt_self (by omega) (by omega)

/-- The bias after a number of steps, when `count` characters are placed. -/
def adapt (delta count : Nat) (first : Bool) : Nat :=
  let delta := if first then delta / 700 else delta / 2
  scaleDown (delta + delta / count) 0

/-- The digits of a number, least first. -/
def digits (bias k n : Nat) : List Char :=
  if n < threshold bias k then [digit n]
  else
    digit (threshold bias k + (n - threshold bias k) % (36 - threshold bias k)) ::
      digits bias (k + 36) ((n - threshold bias k) / (36 - threshold bias k))
  termination_by n
  decreasing_by
    have := threshold_pos bias k
    exact Nat.lt_of_le_of_lt (Nat.div_le_self ..) (by omega)

/-- The state of writing: the steps since the last character, the bias, how many characters are
placed, how many were ASCII, and what is written. -/
structure Writing where
  delta : Nat
  bias : Nat
  placed : Nat
  basic : Nat
  written : List Char

/-- Passes one character of the label while the code point `n` is being placed. -/
def pass (n : Nat) (w : Writing) (c : Char) : Writing :=
  if c.toNat < n then { w with delta := w.delta + 1 }
  else if c.toNat = n then
    { w with
      delta := 0
      bias := adapt w.delta (w.placed + 1) (w.placed == w.basic)
      placed := w.placed + 1
      written := w.written ++ digits w.bias 36 w.delta }
  else w

/-- Places code points in ascending order, `n` being the first that is not yet done. -/
def place (label : List Char) : Nat → Writing → List Nat → Writing
  | _, w, [] => w
  | n, w, m :: rest =>
    let w := label.foldl (pass m) { w with delta := w.delta + (m - n) * (w.placed + 1) }
    place label (m + 1) { w with delta := w.delta + 1 } rest

/-- The label in ASCII. The ASCII characters come first; the others follow in order of code point,
each as the number of steps from the one before, in digits whose thresholds adapt to the numbers
seen. -/
def encode (label : List Char) : List Char :=
  let basic := label.filter (·.toNat < 128)
  let points := ((label.map Char.toNat).filter (128 ≤ ·)).mergeSort.eraseDups
  let front := if basic.isEmpty then [] else basic ++ ['-']
  front ++ (place label 128 ⟨0, 72, basic.length, basic.length, []⟩ points).written

/-- Reads the digits of a number, whose weights are to fit 32 bits. -/
def number (bias : Nat) : Nat → Nat → Nat → List Char → Option (Nat × List Char)
  | _, _, _, [] => none
  | k, weight, total, c :: rest =>
    match value? c with
    | none => none
    | some d =>
      let total := total + d * weight
      let t := threshold bias k
      if d < t then some (total, rest)
      else if weight * (36 - t) < 0x100000000 then
        number bias (k + 36) (weight * (36 - t)) total rest
      else none

/-- Reads numbers and puts in the characters they stand for. A number counts steps through the
places of a label that grows, from the place after the last character put in. -/
def insertAll : Nat → Nat → Nat → Nat → List Char → List Char → Option (List Char)
  | _, _, _, _, label, [] => some label
  | 0, _, _, _, _, _ => none
  | fuel + 1, point, start, bias, label, text => do
    let (steps, rest) ← number bias 36 1 0 text
    let count := label.length + 1
    let point := point + (start + steps) / count
    let place := (start + steps) % count
    guard (point < 0xD800 || (0xE000 ≤ point && point < 0x110000))
    insertAll fuel point (place + 1) (adapt steps count (start == 0))
      (label.take place ++ Char.ofNat point :: label.drop place) rest

/-- The label that a text writes. -/
def decode? (text : List Char) : Option (List Char) :=
  match Split.last? (· == '-') text with
  | some (basic, rest) =>
    if basic.isEmpty then none else insertAll rest.length 128 0 72 basic rest
  | none => insertAll text.length 128 0 72 [] text

end OfflineSite.Url.Punycode
