import OfflineSite.Proofs.Text.Utf8
import OfflineSite.Text.Percent

namespace OfflineSite

namespace Hex

/-- Digits are among the first 128 characters. -/
theorem toNat_lt_of_value? {c : Char} {n : Nat} (value : value? c = some n) : c.toNat < 128 := by
  have bounded {last : Char} (before : c ≤ last) (ascii : last.toNat < 128) : c.toNat < 128 :=
    Nat.lt_of_le_of_lt (Char.le_def.mp before) ascii
  unfold value? at value
  split at value
  · next range => exact bounded range.2 (by decide)
  · split at value
    · next range => exact bounded range.2 (by decide)
    · split at value
      · next range => exact bounded range.2 (by decide)
      · cases value

theorem value?_upper : ∀ n < 16, value? (upper n) = some n := by decide

end Hex

namespace Percent

/-- Whether an escape begins with a byte, by what comes after it. -/
def Escapes (b : UInt8) : List UInt8 → Prop
  | high :: low :: _ => b = '%'.toUInt8 ∧ (digit? high).isSome ∧ (digit? low).isSome
  | _ => False

theorem decodeBytes_of_escape {high low h l : UInt8} (first : digit? high = some h)
    (second : digit? low = some l) (rest : List UInt8) :
    decodeBytes ('%'.toUInt8 :: high :: low :: rest) = (h * 16 + l) :: decodeBytes rest := by
  rw [decodeBytes, if_pos rfl, first, second]

theorem decodeBytes_of_not_escapes {b : UInt8} {rest : List UInt8} (plain : ¬ Escapes b rest) :
    decodeBytes (b :: rest) = b :: decodeBytes rest := by
  match rest with
  | [] => rfl
  | [c] => rfl
  | high :: low :: rest =>
    rw [decodeBytes]
    split
    · next percent =>
      split
      · next first second => exact absurd ⟨percent, by simp [first], by simp [second]⟩ plain
      · rfl
    · rfl

/-- No escape goes on past a byte that is neither `%` nor a digit. -/
theorem escapes_append {b c : UInt8} (noDigit : digit? c = none) (front rest : List UInt8) :
    Escapes b (front ++ c :: rest) ↔ Escapes b front := by
  match front with
  | [] => cases rest <;> simp [Escapes, noDigit]
  | [d] => simp [Escapes, noDigit]
  | high :: low :: front => exact Iff.rfl

theorem not_escapes_of_ne {b : UInt8} (ne_percent : b ≠ '%'.toUInt8) (rest : List UInt8) :
    ¬ Escapes b rest := by
  unfold Escapes
  split
  · exact fun escapes => ne_percent escapes.1
  · exact id

theorem decodeBytes_append {c : UInt8} (noDigit : digit? c = none) (ne_percent : c ≠ '%'.toUInt8)
    (front rest : List UInt8) :
    decodeBytes (front ++ c :: rest) = decodeBytes front ++ c :: decodeBytes rest := by
  match front with
  | [] => exact decodeBytes_of_not_escapes (not_escapes_of_ne ne_percent rest)
  | b :: front =>
    by_cases escapes : Escapes b front
    · match front, escapes with
      | high :: low :: front, ⟨percent, first, second⟩ =>
        obtain ⟨h, first⟩ := Option.isSome_iff_exists.mp first
        obtain ⟨l, second⟩ := Option.isSome_iff_exists.mp second
        have later := decodeBytes_append noDigit ne_percent front rest
        rw [percent, decodeBytes_of_escape first second, List.cons_append, List.cons_append,
          List.cons_append, decodeBytes_of_escape first second, later, List.cons_append]
    · have later := decodeBytes_append noDigit ne_percent front rest
      rw [decodeBytes_of_not_escapes escapes, List.cons_append, decodeBytes_of_not_escapes
        (mt (escapes_append noDigit front rest).mp escapes), later, List.cons_append]

/-- Escapes of bytes, one after the other, each with digits of either case. -/
inductive Escaped : List UInt8 → List Char → Prop
  | nil : Escaped [] []
  | cons {b : UInt8} {high low : Char} {bytes : List UInt8} {text : List Char}
      (first : Hex.value? high = some (b.toNat / 16))
      (second : Hex.value? low = some (b.toNat % 16)) (rest : Escaped bytes text) :
      Escaped (b :: bytes) ('%' :: high :: low :: text)

theorem escaped_escape (bytes : List UInt8) : Escaped bytes (bytes.flatMap escape) := by
  induction bytes with
  | nil => exact .nil
  | cons b bytes ih =>
    have bound := b.toNat_lt
    exact .cons (Hex.value?_upper _ (by omega)) (Hex.value?_upper _ (by omega)) ih

theorem digit?_ofNat {c : Char} {n : Nat} (value : Hex.value? c = some n) :
    digit? (UInt8.ofNat c.toNat) = some (UInt8.ofNat n) := by
  have ascii := Hex.toNat_lt_of_value? value
  have same : (UInt8.ofNat c.toNat).toNat = c.toNat := by
    rw [UInt8.toNat_ofNat']
    omega
  rw [digit?, same, Char.ofNat_toNat, value]
  rfl

theorem ofNat_halves (b : UInt8) :
    UInt8.ofNat (b.toNat / 16) * 16 + UInt8.ofNat (b.toNat % 16) = b := by
  have bound := b.toNat_lt
  refine UInt8.toNat_inj.mp ?_
  simp only [UInt8.toNat_add, UInt8.toNat_mul, UInt8.toNat_ofNat', UInt8.reduceToNat]
  omega

/-- Bytes are read back from their escapes, whatever comes after these. -/
theorem Escaped.decodeBytes_append {bytes : List UInt8} {text : List Char}
    (escaped : Escaped bytes text) (rest : List UInt8) :
    decodeBytes (Utf8.encode text ++ rest) = bytes ++ decodeBytes rest := by
  induction escaped with
  | nil => rfl
  | @cons b high low bytes text first second _ ih =>
    have read := decodeBytes_of_escape (digit?_ofNat first) (digit?_ofNat second)
      (Utf8.encode text ++ rest)
    rw [ofNat_halves, ih] at read
    rw [Utf8.encode_cons_of_ascii (by decide), Utf8.encode_cons_of_ascii
      (Hex.toNat_lt_of_value? first), Utf8.encode_cons_of_ascii (Hex.toNat_lt_of_value? second)]
    exact read

end Percent

end OfflineSite
