import OfflineSite.Text.Hex
import OfflineSite.Text.Utf8

namespace OfflineSite.Percent

/-- The value of a byte read as a hexadecimal digit. -/
def digit? (b : UInt8) : Option UInt8 :=
  (Hex.value? (Char.ofNat b.toNat)).map UInt8.ofNat

/-- Undoes every well-formed escape and leaves all else, broken escapes included. -/
def decodeBytes : List UInt8 → List UInt8
  | [] => []
  | [b] => [b]
  | [b, c] => [b, c]
  | b :: high :: low :: rest =>
    if b = '%'.toUInt8 then
      match digit? high, digit? low with
      | some h, some l => (h * 16 + l) :: decodeBytes rest
      | _, _ => b :: decodeBytes (high :: low :: rest)
    else b :: decodeBytes (high :: low :: rest)

/-- The bytes that a text stands for once its escapes are undone. -/
def decode (text : String) : List UInt8 :=
  decodeBytes (Utf8.encode text.toList)

/-- A byte as an escape, with digits in upper case. -/
def escape (b : UInt8) : List Char :=
  ['%', Hex.upper (b.toNat / 16), Hex.upper (b.toNat % 16)]

/-- Escapes the bytes of the characters that `reserved` selects and keeps the others. -/
def encode (reserved : Char → Bool) (text : List Char) : List Char :=
  text.flatMap fun c => if reserved c then (String.utf8EncodeChar c).flatMap escape else [c]

end OfflineSite.Percent
