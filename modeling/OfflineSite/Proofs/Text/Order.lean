import OfflineSite.Proofs.Text.Utf8

namespace OfflineSite.Utf8

/-- The bytes of a character are the digits of its number to the base 64, the first of them with the
mark of how many they are. -/
theorem utf8EncodeChar_cases (c : Char) :
    (c.toNat < 128 ∧ String.utf8EncodeChar c = [UInt8.ofNat c.toNat]) ∨
    (∃ a b, a < 32 ∧ b < 64 ∧ c.toNat = a * 64 + b ∧ 0x80 ≤ c.toNat ∧
      String.utf8EncodeChar c = [UInt8.ofNat (a + 0xC0), UInt8.ofNat (b + 0x80)]) ∨
    (∃ a b d, a < 16 ∧ b < 64 ∧ d < 64 ∧ c.toNat = (a * 64 + b) * 64 + d ∧ 0x800 ≤ c.toNat ∧
      String.utf8EncodeChar c =
        [UInt8.ofNat (a + 0xE0), UInt8.ofNat (b + 0x80), UInt8.ofNat (d + 0x80)]) ∨
    (∃ a b d e, a < 8 ∧ b < 64 ∧ d < 64 ∧ e < 64 ∧ c.toNat = ((a * 64 + b) * 64 + d) * 64 + e ∧
      0x10000 ≤ c.toNat ∧ String.utf8EncodeChar c =
        [UInt8.ofNat (a + 0xF0), UInt8.ofNat (b + 0x80), UInt8.ofNat (d + 0x80),
          UInt8.ofNat (e + 0x80)]) := by
  have number : c.val.toNat = c.toNat := rfl
  have scalar : c.toNat < 0x110000 := by
    have valid : c.toNat < 0xD800 ∨ 0xDFFF < c.toNat ∧ c.toNat < 0x110000 := c.valid
    omega
  unfold String.utf8EncodeChar
  simp only [number]
  by_cases one : c.toNat ≤ 0x7F
  · exact Or.inl ⟨by omega, if_pos one⟩
  rw [if_neg one]
  by_cases two : c.toNat ≤ 0x7FF
  · rw [if_pos two]
    exact Or.inr (Or.inl
      ⟨c.toNat / 64 % 32, c.toNat % 64, by omega, by omega, by omega, by omega, rfl⟩)
  rw [if_neg two]
  by_cases three : c.toNat ≤ 0xFFFF
  · rw [if_pos three]
    exact Or.inr (Or.inr (Or.inl ⟨c.toNat / 4096 % 16, c.toNat / 64 % 64, c.toNat % 64, by omega,
      by omega, by omega, by omega, by omega, rfl⟩))
  · rw [if_neg three]
    exact Or.inr (Or.inr (Or.inr ⟨c.toNat / 262144 % 8, c.toNat / 4096 % 64, c.toNat / 64 % 64,
      c.toNat % 64, by omega, by omega, by omega, by omega, by omega, by omega, rfl⟩))

theorem utf8EncodeChar_append_lt {c d : Char} (less : c < d) (front back : List UInt8) :
    String.utf8EncodeChar c ++ front < String.utf8EncodeChar d ++ back := by
  have below : c.toNat < d.toNat := less
  rcases utf8EncodeChar_cases c with ⟨_, first⟩ | ⟨_, _, _, _, _, _, first⟩ |
    ⟨_, _, _, _, _, _, _, _, first⟩ | ⟨_, _, _, _, _, _, _, _, _, _, first⟩
  all_goals
    rcases utf8EncodeChar_cases d with ⟨_, last⟩ | ⟨_, _, _, _, _, _, last⟩ |
      ⟨_, _, _, _, _, _, _, _, last⟩ | ⟨_, _, _, _, _, _, _, _, _, _, last⟩
    all_goals
      rw [first, last]
      simp only [List.cons_append, List.nil_append, List.cons_lt_cons_iff, UInt8.lt_iff_toNat_lt,
        ← UInt8.toNat_inj, UInt8.toNat_ofNat']
      omega

theorem encode_lt_encode {text other : List Char} (less : text < other) :
    encode text < encode other := by
  induction text generalizing other with
  | nil =>
    cases other with
    | nil => exact absurd less (List.lt_irrefl [])
    | cons d back =>
      obtain ⟨b, bytes, whole⟩ := List.exists_cons_of_ne_nil (String.utf8EncodeChar_ne_nil (c := d))
      rw [encode, encode, List.flatMap_cons, whole]
      exact List.nil_lt_cons b _
  | cons c front ih =>
    cases other with
    | nil => exact absurd less (List.not_lt_nil _)
    | cons d back =>
      rw [encode, encode, List.flatMap_cons, List.flatMap_cons]
      rcases List.cons_lt_cons_iff.mp less with earlier | ⟨rfl, later⟩
      · exact utf8EncodeChar_append_lt earlier _ _
      · exact List.append_left_lt (ih later)

theorem encode_lt_encode_iff {text other : List Char} :
    encode text < encode other ↔ text < other := by
  refine ⟨fun less => Classical.byContradiction fun notBefore => ?_, encode_lt_encode⟩
  by_cases after : other < text
  · exact List.lt_asymm less (encode_lt_encode after)
  · have same : text = other := List.le_antisymm after notBefore
    exact List.lt_irrefl _ (same ▸ less)

theorem encode_le_encode_iff {text other : List Char} :
    encode text ≤ encode other ↔ ¬ other < text := by
  rw [← List.not_lt, encode_lt_encode_iff]

end OfflineSite.Utf8
