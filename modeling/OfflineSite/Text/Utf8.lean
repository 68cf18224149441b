namespace OfflineSite.Utf8

/-- What a lead byte announces: how many bytes follow, the range the first of them must lie in,
and the bits it contributes. -/
structure Lead where
  followers : Nat
  low : UInt8
  high : UInt8
  bits : Nat
  deriving Repr, DecidableEq

/-- The lead bytes of well-formed sequences of two to four bytes. The narrowed ranges keep out
overlong forms, surrogates and values past U+10FFFF. -/
def lead? (b : UInt8) : Option Lead :=
  if 0xC2 ≤ b ∧ b ≤ 0xDF then some ⟨1, 0x80, 0xBF, b.toNat - 0xC0⟩
  else if b = 0xE0 then some ⟨2, 0xA0, 0xBF, 0⟩
  else if b = 0xED then some ⟨2, 0x80, 0x9F, 0xD⟩
  else if 0xE1 ≤ b ∧ b ≤ 0xEF then some ⟨2, 0x80, 0xBF, b.toNat - 0xE0⟩
  else if b = 0xF0 then some ⟨3, 0x90, 0xBF, 0⟩
  else if 0xF1 ≤ b ∧ b ≤ 0xF3 then some ⟨3, 0x80, 0xBF, b.toNat - 0xF0⟩
  else if b = 0xF4 then some ⟨3, 0x80, 0x8F, 4⟩
  else none

/-- Takes `count` continuation bytes, the first of them from the given range. Stops before the
first byte that does not fit; the number is there only when none was missing. -/
def continuation : Nat → UInt8 → UInt8 → Nat → List UInt8 → Option Nat × List UInt8
  | 0, _, _, bits, bytes => (some bits, bytes)
  | _ + 1, _, _, _, [] => (none, [])
  | count + 1, low, high, bits, b :: bytes =>
    if low ≤ b ∧ b ≤ high then
      continuation count 0x80 0xBF (bits * 64 + (b.toNat - 0x80)) bytes
    else (none, b :: bytes)

theorem continuation_length_le (count : Nat) (low high : UInt8) (bits : Nat)
    (bytes : List UInt8) : (continuation count low high bits bytes).2.length ≤ bytes.length := by
  induction bytes generalizing count low high bits with
  | nil => cases count <;> simp [continuation]
  | cons b bytes ih =>
    cases count with
    | zero => simp [continuation]
    | succ count =>
      unfold continuation
      split
      · exact Nat.le_succ_of_le (ih ..)
      · exact Nat.le_refl _

/-- The characters of a byte sequence, with `none` for each maximal piece that is not UTF-8. -/
def scalars : List UInt8 → List (Option Char)
  | [] => []
  | b :: bytes =>
    if b < 0x80 then some (Char.ofNat b.toNat) :: scalars bytes
    else match lead? b with
      | none => none :: scalars bytes
      | some l =>
        (continuation l.followers l.low l.high l.bits bytes).1.map Char.ofNat ::
          scalars (continuation l.followers l.low l.high l.bits bytes).2
  termination_by bytes => bytes.length
  decreasing_by
    · exact Nat.lt_succ_self _
    · exact Nat.lt_succ_self _
    · exact Nat.lt_succ_of_le (continuation_length_le ..)

/-- Reads bytes as text, putting U+FFFD for each maximal ill-formed piece. -/
def decodeLossy (bytes : List UInt8) : List Char :=
  (scalars bytes).map (·.getD '\uFFFD')

/-- Reads bytes as text, or refuses bytes that are not UTF-8. -/
def decode? (bytes : List UInt8) : Option (List Char) :=
  (scalars bytes).mapM id

/-- How many bytes come before the first that is not UTF-8. -/
def validLength (bytes : List UInt8) : Nat :=
  ((scalars bytes).takeWhile Option.isSome).foldl
    (fun total c => total + (c.getD '\uFFFD').utf8Size) 0

/-- The bytes of a text. -/
def encode (text : List Char) : List UInt8 :=
  text.flatMap String.utf8EncodeChar

end OfflineSite.Utf8
