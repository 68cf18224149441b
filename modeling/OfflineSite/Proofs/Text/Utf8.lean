import OfflineSite.Text.Utf8

namespace OfflineSite

namespace Utf8

theorem lead?_low {b : UInt8} {l : Lead} (leads : lead? b = some l) : 0x80 ≤ l.low := by
  unfold lead? at leads
  grind

/-- No sequence goes on past a byte that is no continuation byte. -/
theorem continuation_append {c : UInt8} (ascii : c < 0x80) {low : UInt8} (late : 0x80 ≤ low)
    (count : Nat) (high : UInt8) (bits : Nat) (front rest : List UInt8) :
    continuation count low high bits (front ++ c :: rest) =
      ((continuation count low high bits front).1,
        (continuation count low high bits front).2 ++ c :: rest) := by
  induction front generalizing count low high bits with
  | nil =>
    cases count with
    | zero => rfl
    | succ count =>
      have stops : ¬ (low ≤ c ∧ c ≤ high) := fun fits =>
        absurd (UInt8.le_trans late fits.1) (UInt8.not_le.mpr ascii)
      simp [continuation, stops]
  | cons b front ih =>
    cases count with
    | zero => rfl
    | succ count =>
      simp only [List.cons_append, continuation]
      split
      · exact ih (UInt8.le_refl _) ..
      · rfl

theorem scalars_append {c : UInt8} (ascii : c < 0x80) (front rest : List UInt8) :
    scalars (front ++ c :: rest) =
      scalars front ++ some (Char.ofNat c.toNat) :: scalars rest := by
  fun_induction scalars front with
  | case1 => simp [scalars, ascii]
  | case2 b front alone ih => simp [scalars, alone, ih]
  | case3 b front longer stray ih => simp [scalars, longer, stray, ih]
  | case4 b front longer lead leads ih =>
    have onward := continuation_append ascii (lead?_low leads) lead.followers lead.high lead.bits
      front rest
    simp [scalars, longer, leads, onward, ih]

theorem decodeLossy_append {c : UInt8} (ascii : c < 0x80) (front rest : List UInt8) :
    decodeLossy (front ++ c :: rest) =
      decodeLossy front ++ Char.ofNat c.toNat :: decodeLossy rest := by
  simp [decodeLossy, scalars_append ascii]

theorem toNat_tail (n : Nat) : (UInt8.ofNat (n % 64 + 0x80)).toNat = n % 64 + 0x80 := by
  have bound : n % 64 < 64 := Nat.mod_lt n (by decide)
  simp only [UInt8.toNat_ofNat']
  omega

theorem continuation_cons {low high : UInt8} {n : Nat}
    (fits : low ≤ UInt8.ofNat (n % 64 + 0x80) ∧ UInt8.ofNat (n % 64 + 0x80) ≤ high)
    (count bits : Nat) (rest : List UInt8) :
    continuation (count + 1) low high bits (UInt8.ofNat (n % 64 + 0x80) :: rest) =
      continuation count 0x80 0xBF (bits * 64 + n % 64) rest := by
  rw [continuation, if_pos fits, toNat_tail, Nat.add_sub_cancel]

theorem tail_fits (n : Nat) :
    0x80 ≤ UInt8.ofNat (n % 64 + 0x80) ∧ UInt8.ofNat (n % 64 + 0x80) ≤ 0xBF := by
  have bound : n % 64 < 64 := Nat.mod_lt n (by decide)
  simp only [UInt8.le_iff_toNat_le, toNat_tail]
  refine ⟨?_, ?_⟩
  · exact Nat.le_add_left ..
  · exact Nat.le_of_lt_succ (Nat.add_lt_add_right bound 0x80)

theorem scalars_of_lead {b : UInt8} {l : Lead} (longer : ¬ b < 0x80) (leads : lead? b = some l)
    {bytes rest : List UInt8} {n : Nat}
    (follows : continuation l.followers l.low l.high l.bits bytes = (some n, rest)) :
    scalars (b :: bytes) = some (Char.ofNat n) :: scalars rest := by
  simp [scalars, longer, leads, follows]

theorem lead?_two : ∀ n < 32, 2 ≤ n →
    ¬ UInt8.ofNat (n + 0xC0) < 0x80 ∧ lead? (UInt8.ofNat (n + 0xC0)) = some ⟨1, 0x80, 0xBF, n⟩ := by
  decide

theorem lead?_three : ∀ n < 16, ¬ UInt8.ofNat (n + 0xE0) < 0x80 ∧
    lead? (UInt8.ofNat (n + 0xE0)) =
      some ⟨2, if n = 0 then 0xA0 else 0x80, if n = 13 then 0x9F else 0xBF, n⟩ := by
  decide

theorem lead?_four : ∀ n < 5, ¬ UInt8.ofNat (n + 0xF0) < 0x80 ∧
    lead? (UInt8.ofNat (n + 0xF0)) =
      some ⟨3, if n = 0 then 0x90 else 0x80, if n = 4 then 0x8F else 0xBF, n⟩ := by
  decide

/-- The second of three bytes lies in the narrow range that its lead byte asks for, since shorter
forms and surrogates make no character. -/
theorem three_fits {v : Nat} (long : 0x800 ≤ v) (scalar : v < 0xD800 ∨ 0xDFFF < v) :
    (if v / 4096 = 0 then 0xA0 else 0x80) ≤ UInt8.ofNat (v / 64 % 64 + 0x80) ∧
      UInt8.ofNat (v / 64 % 64 + 0x80) ≤ if v / 4096 = 13 then 0x9F else 0xBF := by
  simp only [UInt8.le_iff_toNat_le, toNat_tail]
  refine ⟨?_, ?_⟩
  · split
    · exact (by omega : 0xA0 ≤ v / 64 % 64 + 0x80)
    · exact (by omega : 0x80 ≤ v / 64 % 64 + 0x80)
  · split
    · exact (by omega : v / 64 % 64 + 0x80 ≤ 0x9F)
    · exact (by omega : v / 64 % 64 + 0x80 ≤ 0xBF)

theorem four_fits {v : Nat} (long : 0x10000 ≤ v) (scalar : v < 0x110000) :
    (if v / 262144 = 0 then 0x90 else 0x80) ≤ UInt8.ofNat (v / 4096 % 64 + 0x80) ∧
      UInt8.ofNat (v / 4096 % 64 + 0x80) ≤ if v / 262144 = 4 then 0x8F else 0xBF := by
  simp only [UInt8.le_iff_toNat_le, toNat_tail]
  refine ⟨?_, ?_⟩
  · split
    · exact (by omega : 0x90 ≤ v / 4096 % 64 + 0x80)
    · exact (by omega : 0x80 ≤ v / 4096 % 64 + 0x80)
  · split
    · exact (by omega : v / 4096 % 64 + 0x80 ≤ 0x8F)
    · exact (by omega : v / 4096 % 64 + 0x80 ≤ 0xBF)

variable {v : Nat}

theorem scalars_one (short : v ≤ 0x7F) (rest : List UInt8) :
    scalars (UInt8.ofNat v :: rest) = some (Char.ofNat v) :: scalars rest := by
  have value : (UInt8.ofNat v).toNat = v := by
    rw [UInt8.toNat_ofNat']
    exact Nat.mod_eq_of_lt (by omega)
  have small : UInt8.ofNat v < 0x80 := by
    rw [UInt8.lt_iff_toNat_lt, value]
    exact Nat.lt_succ_of_le short
  rw [scalars, if_pos small, value]

theorem scalars_two (long : 0x7F < v) (short : v ≤ 0x7FF) (rest : List UInt8) :
    scalars (UInt8.ofNat (v / 64 % 32 + 0xC0) :: UInt8.ofNat (v % 64 + 0x80) :: rest) =
      some (Char.ofNat v) :: scalars rest := by
  have top : v / 64 % 32 = v / 64 := Nat.mod_eq_of_lt (by omega)
  have value : v / 64 * 64 + v % 64 = v := by omega
  obtain ⟨longer, leads⟩ := lead?_two (v / 64) (by omega) (by omega)
  rw [top]
  refine scalars_of_lead longer leads ?_
  rw [continuation_cons (tail_fits v), value, continuation]

theorem scalars_three (long : 0x7FF < v) (short : v ≤ 0xFFFF) (scalar : v < 0xD800 ∨ 0xDFFF < v)
    (rest : List UInt8) :
    scalars (UInt8.ofNat (v / 4096 % 16 + 0xE0) :: UInt8.ofNat (v / 64 % 64 + 0x80) ::
      UInt8.ofNat (v % 64 + 0x80) :: rest) = some (Char.ofNat v) :: scalars rest := by
  have top : v / 4096 % 16 = v / 4096 := Nat.mod_eq_of_lt (by omega)
  have value : (v / 4096 * 64 + v / 64 % 64) * 64 + v % 64 = v := by omega
  obtain ⟨longer, leads⟩ := lead?_three (v / 4096) (by omega)
  rw [top]
  refine scalars_of_lead longer leads ?_
  rw [continuation_cons (three_fits long scalar), continuation_cons (tail_fits v), value,
    continuation]

theorem scalars_four (long : 0xFFFF < v) (scalar : v < 0x110000) (rest : List UInt8) :
    scalars (UInt8.ofNat (v / 262144 % 8 + 0xF0) :: UInt8.ofNat (v / 4096 % 64 + 0x80) ::
      UInt8.ofNat (v / 64 % 64 + 0x80) :: UInt8.ofNat (v % 64 + 0x80) :: rest) =
        some (Char.ofNat v) :: scalars rest := by
  have top : v / 262144 % 8 = v / 262144 := Nat.mod_eq_of_lt (by omega)
  have value : ((v / 262144 * 64 + v / 4096 % 64) * 64 + v / 64 % 64) * 64 + v % 64 = v := by
    omega
  obtain ⟨longer, leads⟩ := lead?_four (v / 262144) (by omega)
  rw [top]
  refine scalars_of_lead longer leads ?_
  rw [continuation_cons (four_fits long scalar), continuation_cons (tail_fits (v / 64)),
    continuation_cons (tail_fits v), value, continuation]

theorem scalars_utf8EncodeChar (c : Char) (rest : List UInt8) :
    scalars (String.utf8EncodeChar c ++ rest) = some c :: scalars rest := by
  have scalar : c.toNat < 0xD800 ∨ 0xDFFF < c.toNat ∧ c.toNat < 0x110000 := c.valid
  have number : c.val.toNat = c.toNat := rfl
  refine Eq.trans ?_ (congrArg (some · :: scalars rest) (Char.ofNat_toNat c))
  unfold String.utf8EncodeChar
  simp only [number]
  split
  · next one => exact scalars_one one rest
  · split
    · next one two => exact scalars_two (Nat.lt_of_not_le one) two rest
    · split
      · next two three => exact scalars_three (Nat.lt_of_not_le two) three (by omega) rest
      · next three => exact scalars_four (Nat.lt_of_not_le three) (by omega) rest

theorem utf8EncodeChar_ofNat : ∀ value < 128,
    String.utf8EncodeChar (Char.ofNat value) = [UInt8.ofNat value] := by
  decide

theorem encode_append (front back : List Char) :
    encode (front ++ back) = encode front ++ encode back := List.flatMap_append

/-- One of the first 128 characters is one byte. -/
theorem encode_cons_of_ascii {c : Char} (ascii : c.toNat < 128) (rest : List Char) :
    encode (c :: rest) = UInt8.ofNat c.toNat :: encode rest := by
  have one := utf8EncodeChar_ofNat c.toNat ascii
  rw [Char.ofNat_toNat] at one
  rw [encode, List.flatMap_cons, one]
  rfl

/-- A character past the first 128 has no byte among them. -/
theorem le_of_mem_utf8EncodeChar {c : Char} (long : 0x7F < c.toNat) {b : UInt8}
    (inside : b ∈ String.utf8EncodeChar c) : 0x80 ≤ b.toNat := by
  have number : c.val.toNat = c.toNat := rfl
  unfold String.utf8EncodeChar at inside
  simp only [number, if_neg (Nat.not_le_of_lt long)] at inside
  split at inside
  · simp only [List.mem_cons, List.not_mem_nil, or_false] at inside
    rcases inside with rfl | rfl <;> rw [UInt8.toNat_ofNat'] <;> omega
  · split at inside
    · simp only [List.mem_cons, List.not_mem_nil, or_false] at inside
      rcases inside with rfl | rfl | rfl <;> rw [UInt8.toNat_ofNat'] <;> omega
    · simp only [List.mem_cons, List.not_mem_nil, or_false] at inside
      rcases inside with rfl | rfl | rfl | rfl <;> rw [UInt8.toNat_ofNat'] <;> omega

/-- Every text is read from its bytes as it was. -/
theorem scalars_encode_append (text : List Char) (rest : List UInt8) :
    scalars (encode text ++ rest) = text.map some ++ scalars rest := by
  induction text with
  | nil => rfl
  | cons c text ih =>
    have whole : encode (c :: text) = String.utf8EncodeChar c ++ encode text := List.flatMap_cons
    rw [whole, List.append_assoc, scalars_utf8EncodeChar, ih]
    rfl

theorem decodeLossy_encode (text : List Char) : decodeLossy (encode text) = text := by
  have read := scalars_encode_append text []
  rw [List.append_nil, scalars, List.append_nil] at read
  rw [decodeLossy, read, List.map_map]
  exact List.map_id text

theorem encode_inj {text other : List Char} (same : encode text = encode other) : text = other := by
  rw [← decodeLossy_encode text, same, decodeLossy_encode]

theorem decode?_encode (text : List Char) : decode? (encode text) = some text := by
  have read := scalars_encode_append text []
  rw [List.append_nil, scalars, List.append_nil] at read
  have each : (text.map some).mapM id = text.mapM some := List.mapM_map
  rw [decode?, read, each]
  exact (List.mapM_pure (m := Option) (f := id)).trans (congrArg some (List.map_id text))

/-- Bytes below 128, each taken as a character, are the bytes of the text they make. -/
theorem encode_ofNat {bytes : List UInt8} (ascii : ∀ byte ∈ bytes, byte.toNat < 128) :
    Utf8.encode (bytes.map fun byte => Char.ofNat byte.toNat) = bytes := by
  induction bytes with
  | nil => rfl
  | cons first rest ih =>
    have head := utf8EncodeChar_ofNat first.toNat (ascii first (List.mem_cons_self ..))
    have tail := ih fun byte member => ascii byte (List.mem_cons_of_mem first member)
    unfold Utf8.encode at tail ⊢
    rw [List.map_cons, List.flatMap_cons, tail, head, UInt8.ofNat_toNat, List.singleton_append]

end Utf8

theorem toList_loop (bytes : ByteArray) (start : Nat) (front : List UInt8) :
    ByteArray.toList.loop bytes start front = front.reverse ++ bytes.data.toList.drop start := by
  fun_induction ByteArray.toList.loop bytes start front with
  | case1 start front inside ih =>
    have bound : start < bytes.data.toList.length := by simpa using inside
    rw [ih, List.drop_eq_getElem_cons bound]
    simp [ByteArray.get!, inside]
  | case2 start front past =>
    have after : bytes.data.toList.length ≤ start := by simpa using Nat.le_of_not_lt past
    rw [List.drop_eq_nil_of_le after, List.append_nil]

theorem toList_eq (bytes : ByteArray) : bytes.toList = bytes.data.toList := by
  rw [ByteArray.toList, toList_loop]
  rfl

theorem fromUTF8?_toUTF8 (text : String) : String.fromUTF8? text.toUTF8 = some text :=
  dif_pos text.isValidUTF8

/-- Bytes below 128 are those of a text. -/
theorem exists_toUTF8 {bytes : ByteArray} (ascii : ∀ byte ∈ bytes.toList, byte.toNat < 128) :
    ∃ text : String, bytes = text.toUTF8 := by
  refine ⟨String.ofList (bytes.toList.map fun byte => Char.ofNat byte.toNat), ?_⟩
  have encoded := Utf8.encode_ofNat ascii
  rw [Utf8.encode] at encoded
  rw [String.toUTF8_eq_toByteArray, String.toByteArray_ofList, List.utf8Encode, encoded, toList_eq]
  exact ByteArray.ext (by simp)

end OfflineSite
