import OfflineSite.Proofs.Result
import OfflineSite.Proofs.Text.Utf8
import OfflineSite.Text.Base64

namespace OfflineSite.Base64

theorem value?_symbol : ∀ value < 64, value? (symbol value) = some value := by
  decide

theorem symbol_ne_pad : ∀ value < 64, symbol value ≠ pad := by
  decide

theorem symbol_lt : ∀ value < 64, (symbol value).toNat < 128 := by
  decide

theorem valueAt_symbol (offset : Nat) {value : Nat} (bound : value < 64) :
    valueAt offset (symbol value) = .ok value := by
  rw [valueAt, value?_symbol value bound]

/-- The value of a group of three bytes. -/
def group (a b c : UInt8) : Nat := (a.toNat * 256 + b.toNat) * 256 + c.toNat

theorem group_lt (a b c : UInt8) : group a b c / 262144 < 64 := by
  have first := a.toNat_lt
  have second := b.toNat_lt
  have third := c.toNat_lt
  unfold group
  omega

theorem encode_group (a b c : UInt8) (rest : List UInt8) :
    encode (a :: b :: c :: rest) =
      symbol (group a b c / 262144) :: symbol (group a b c / 4096 % 64) ::
        symbol (group a b c / 64 % 64) :: symbol (group a b c % 64) :: encode rest :=
  rfl

theorem mod_lt (value : Nat) : value % 64 < 64 :=
  Nat.mod_lt value (by decide)

theorem decodeFour_group (offset : Nat) (a b c : UInt8) :
    decodeFour offset (symbol (group a b c / 262144)) (symbol (group a b c / 4096 % 64))
      (symbol (group a b c / 64 % 64)) (symbol (group a b c % 64)) = .ok [a, b, c] := by
  have first := a.toNat_lt
  have second := b.toNat_lt
  have third := c.toNat_lt
  have whole : ((group a b c / 262144 * 64 + group a b c / 4096 % 64) * 64 +
      group a b c / 64 % 64) * 64 + group a b c % 64 = group a b c := by
    omega
  have front : group a b c / 65536 = a.toNat := by
    unfold group
    omega
  have middle : group a b c / 256 % 256 = b.toNat := by
    unfold group
    omega
  have back : group a b c % 256 = c.toNat := by
    unfold group
    omega
  simp only [decodeFour, valueAt_symbol _ (group_lt a b c), valueAt_symbol _ (mod_lt _), pure,
    Except.pure, bind, Except.bind, whole, front, middle, back, UInt8.ofNat_toNat]

theorem decodeLast_two (offset : Nat) (a b : UInt8) :
    decodeLast offset (encode [a, b]) = .ok [a, b] := by
  have first := a.toNat_lt
  have second := b.toNat_lt
  have x : (a.toNat * 256 + b.toNat) / 1024 < 64 := by omega
  have y : (a.toNat * 256 + b.toNat) / 16 % 64 < 64 := Nat.mod_lt _ (by decide)
  have z : (a.toNat * 256 + b.toNat) % 16 * 4 < 64 := by omega
  have even : (a.toNat * 256 + b.toNat) % 16 * 4 % 4 = 0 := by omega
  have whole : (((a.toNat * 256 + b.toNat) / 1024 * 64 + (a.toNat * 256 + b.toNat) / 16 % 64) * 64 +
      (a.toNat * 256 + b.toNat) % 16 * 4) / 4 = a.toNat * 256 + b.toNat := by
    omega
  have front : (a.toNat * 256 + b.toNat) / 256 = a.toNat := by omega
  have back : (a.toNat * 256 + b.toNat) % 256 = b.toNat := by omega
  simp only [encode, decodeLast, valueAt_symbol _ x, valueAt_symbol _ y, valueAt_symbol _ z, bind,
    Except.bind, symbol_ne_pad _ z, even, whole, front, back, UInt8.ofNat_toNat, ne_eq,
    not_true_eq_false, if_true, if_false]

theorem decodeLast_one (offset : Nat) (a : UInt8) :
    decodeLast offset (encode [a]) = .ok [a] := by
  have first := a.toNat_lt
  have x : a.toNat / 4 < 64 := by omega
  have y : a.toNat % 4 * 16 < 64 := by omega
  have even : a.toNat % 4 * 16 % 16 = 0 := by omega
  have whole : a.toNat / 4 * 4 + a.toNat % 4 * 16 / 16 = a.toNat := by omega
  simp only [encode, decodeLast, valueAt_symbol _ x, valueAt_symbol _ y, bind, Except.bind, even,
    whole, UInt8.ofNat_toNat, ne_eq, not_true_eq_false, if_true, if_false]

/-- Four symbols that are the last are read like any others. -/
theorem decodeLast_group (offset : Nat) (a b c : UInt8) :
    decodeLast offset (encode [a, b, c]) = .ok [a, b, c] := by
  rw [← decodeFour_group offset a b c, encode_group]
  simp only [decodeLast, valueAt_symbol _ (group_lt a b c), valueAt_symbol _ (mod_lt _), bind,
    Except.bind, symbol_ne_pad _ (mod_lt _), if_false]

theorem decodeFrom_encode (offset : Nat) (bytes : List UInt8) :
    decodeFrom offset (encode bytes) = .ok bytes := by
  induction bytes using encode.induct generalizing offset with
  | case1 a b c rest ih =>
    have after := ih (offset + 4)
    cases text : encode rest with
    | nil =>
      rw [text] at after
      obtain rfl : rest = [] := (Except.ok.inj after).symm
      exact decodeLast_group offset a b c
    | cons first others =>
      rw [text] at after
      rw [encode_group, text, decodeFrom, decodeFour_group, after]
      rfl
  | case2 a b => exact decodeLast_two offset a b
  | case3 a => exact decodeLast_one offset a
  | case4 => rfl

theorem length_encode (bytes : List UInt8) : (encode bytes).length % 4 = 0 := by
  induction bytes using encode.induct with
  | case1 a b c rest ih =>
    rw [encode_group]
    simp only [List.length_cons]
    omega
  | _ => simp [encode]

theorem decode_encode (bytes : List UInt8) : decode (encode bytes) = .ok bytes := by
  have whole := length_encode bytes
  have read := decodeFrom_encode 0 bytes
  unfold decode
  split
  · rw [if_neg (by omega), read]
  · next none =>
    rw [List.getLast?_eq_none_iff.mp none] at read
    exact read

theorem lt_of_mem_encode {bytes : List UInt8} {byte : UInt8} (member : byte ∈ encode bytes) :
    byte.toNat < 128 := by
  have padding : pad.toNat < 128 := by decide
  induction bytes using encode.induct with
  | case1 a b c rest ih =>
    rw [encode_group] at member
    simp only [List.mem_cons] at member
    rcases member with rfl | rfl | rfl | rfl | later
    · exact symbol_lt _ (group_lt a b c)
    · exact symbol_lt _ (mod_lt _)
    · exact symbol_lt _ (mod_lt _)
    · exact symbol_lt _ (mod_lt _)
    · exact ih later
  | case2 a b =>
    have first := a.toNat_lt
    have second := b.toNat_lt
    simp only [encode, List.mem_cons, List.not_mem_nil, or_false] at member
    rcases member with rfl | rfl | rfl | rfl
    · exact symbol_lt _ (by omega)
    · exact symbol_lt _ (mod_lt _)
    · exact symbol_lt _ (by omega)
    · exact padding
  | case3 a =>
    have first := a.toNat_lt
    simp only [encode, List.mem_cons, List.not_mem_nil, or_false] at member
    rcases member with rfl | rfl | rfl | rfl
    · exact symbol_lt _ (by omega)
    · exact symbol_lt _ (by omega)
    · exact padding
    · exact padding
  | case4 => cases member

/-- A byte that has a value is the symbol of that value. -/
theorem eq_symbol_of_value? {byte : UInt8} {value : Nat} (known : value? byte = some value) :
    value < 64 ∧ byte = symbol value := by
  unfold value? at known
  split at known
  · next upper =>
    obtain rfl := Option.some.inj known
    obtain ⟨low, high⟩ := And.imp UInt8.le_iff_toNat_le.mp UInt8.le_iff_toNat_le.mp upper
    simp only [UInt8.reduceToNat] at low high
    refine ⟨by omega, ?_⟩
    rw [symbol, if_pos (by omega), Nat.add_sub_cancel' low, UInt8.ofNat_toNat]
  · split at known
    · next lower =>
      obtain rfl := Option.some.inj known
      obtain ⟨low, high⟩ := And.imp UInt8.le_iff_toNat_le.mp UInt8.le_iff_toNat_le.mp lower
      simp only [UInt8.reduceToNat] at low high
      refine ⟨by omega, ?_⟩
      rw [symbol, if_neg (by omega), if_pos (by omega), Nat.add_sub_cancel' (by omega),
        UInt8.ofNat_toNat]
    · split at known
      · next digit =>
        obtain rfl := Option.some.inj known
        obtain ⟨low, high⟩ := And.imp UInt8.le_iff_toNat_le.mp UInt8.le_iff_toNat_le.mp digit
        simp only [UInt8.reduceToNat] at low high
        refine ⟨by omega, ?_⟩
        rw [symbol, if_neg (by omega), if_neg (by omega), if_pos (by omega), Nat.add_sub_cancel,
          UInt8.ofNat_toNat]
      · split at known
        · next plus =>
          obtain rfl := Option.some.inj known
          exact ⟨by decide, plus⟩
        · split at known
          · next slash =>
            obtain rfl := Option.some.inj known
            exact ⟨by decide, slash⟩
          · cases known

theorem exists_of_valueAt_bind {α : Type} {offset : Nat} {byte : UInt8} {result : α}
    {rest : Nat → Except Failure α} (read : (valueAt offset byte >>= rest) = .ok result) :
    ∃ value, value < 64 ∧ byte = symbol value ∧ rest value = .ok result := by
  obtain ⟨value, found, further⟩ := exists_of_bind_eq_ok read
  unfold valueAt at found
  split at found
  · next known =>
    obtain rfl := Except.ok.inj found
    obtain ⟨bound, same⟩ := eq_symbol_of_value? known
    exact ⟨_, bound, same, further⟩
  · cases found

theorem toNat_ofNat_of_lt {value : Nat} (bound : value < 256) :
    (UInt8.ofNat value).toNat = value := by
  rw [UInt8.toNat_ofNat', Nat.mod_eq_of_lt bound]

/-- Four symbols are what is written for the bytes that they are read as. -/
theorem encode_of_decodeFour {offset : Nat} {a b c d : UInt8} {bytes : List UInt8}
    (read : decodeFour offset a b c d = .ok bytes) (rest : List UInt8) :
    encode (bytes ++ rest) = a :: b :: c :: d :: encode rest := by
  obtain ⟨x, xBound, rfl, afterX⟩ := exists_of_valueAt_bind read
  obtain ⟨y, yBound, rfl, afterY⟩ := exists_of_valueAt_bind afterX
  obtain ⟨z, zBound, rfl, afterZ⟩ := exists_of_valueAt_bind afterY
  obtain ⟨w, wBound, rfl, ended⟩ := exists_of_valueAt_bind afterZ
  obtain rfl := Except.ok.inj ended
  have whole : group (UInt8.ofNat ((((x * 64 + y) * 64 + z) * 64 + w) / 65536))
      (UInt8.ofNat ((((x * 64 + y) * 64 + z) * 64 + w) / 256 % 256))
      (UInt8.ofNat ((((x * 64 + y) * 64 + z) * 64 + w) % 256)) =
        ((x * 64 + y) * 64 + z) * 64 + w := by
    rw [group, toNat_ofNat_of_lt (by omega), toNat_ofNat_of_lt (by omega),
      toNat_ofNat_of_lt (by omega)]
    omega
  have one : (((x * 64 + y) * 64 + z) * 64 + w) / 262144 = x := by omega
  have two : (((x * 64 + y) * 64 + z) * 64 + w) / 4096 % 64 = y := by omega
  have three : (((x * 64 + y) * 64 + z) * 64 + w) / 64 % 64 = z := by omega
  have four : (((x * 64 + y) * 64 + z) * 64 + w) % 64 = w := by omega
  exact (encode_group _ _ _ rest).trans (by rw [whole, one, two, three, four])

theorem encode_of_decodeLast_four {offset : Nat} {a b c d : UInt8} {bytes : List UInt8}
    (read : decodeLast offset [a, b, c, d] = .ok bytes) : encode bytes = [a, b, c, d] := by
  obtain ⟨x, xBound, rfl, afterX⟩ := exists_of_valueAt_bind read
  obtain ⟨y, yBound, rfl, afterY⟩ := exists_of_valueAt_bind afterX
  split at afterY
  · next third =>
    split at afterY
    · cases afterY
    · next fourth =>
      split at afterY
      · cases afterY
      · next even =>
        obtain rfl := Except.ok.inj afterY
        obtain rfl : d = pad := Decidable.not_not.mp fourth
        have front : (x * 4 + y / 16) / 4 = x := by omega
        have back : (x * 4 + y / 16) % 4 * 16 = y := by omega
        rw [encode, toNat_ofNat_of_lt (by omega), front, back, third]
  · obtain ⟨z, zBound, rfl, afterZ⟩ := exists_of_valueAt_bind afterY
    split at afterZ
    · next fourth =>
      split at afterZ
      · cases afterZ
      · next even =>
        obtain rfl := Except.ok.inj afterZ
        have whole : ((x * 64 + y) * 64 + z) / 4 / 256 * 256 +
            ((x * 64 + y) * 64 + z) / 4 % 256 = ((x * 64 + y) * 64 + z) / 4 := by omega
        have front : ((x * 64 + y) * 64 + z) / 4 / 1024 = x := by omega
        have middle : ((x * 64 + y) * 64 + z) / 4 / 16 % 64 = y := by omega
        have back : ((x * 64 + y) * 64 + z) / 4 % 16 * 4 = z := by omega
        rw [encode, toNat_ofNat_of_lt (by omega), toNat_ofNat_of_lt (by omega), whole, front,
          middle, back, fourth]
    · rw [← List.append_nil bytes, encode_of_decodeFour afterZ, encode]

theorem encode_of_decodeLast {offset : Nat} {text bytes : List UInt8} (short : text.length ≤ 4)
    (read : decodeLast offset text = .ok bytes) : encode bytes = text := by
  match text, short, read with
  | [], _, read =>
    obtain rfl := Except.ok.inj read
    rfl
  | [a], _, read =>
    obtain ⟨_, _, fails⟩ := exists_of_bind_eq_ok read
    cases fails
  | [a, b], _, read =>
    obtain ⟨_, _, further⟩ := exists_of_bind_eq_ok read
    obtain ⟨_, _, fails⟩ := exists_of_bind_eq_ok further
    cases fails
  | [a, b, c], _, read =>
    obtain ⟨_, _, further⟩ := exists_of_bind_eq_ok read
    obtain ⟨_, _, ends⟩ := exists_of_bind_eq_ok further
    split at ends
    · obtain ⟨_, _, fails⟩ := exists_of_bind_eq_ok ends
      cases fails
    · cases ends
  | [a, b, c, d], _, read => exact encode_of_decodeLast_four read

theorem encode_of_decodeFrom {offset : Nat} {text bytes : List UInt8}
    (read : decodeFrom offset text = .ok bytes) : encode bytes = text := by
  induction offset, text using decodeFrom.induct generalizing bytes with
  | case1 offset a b c d e rest ih =>
    obtain ⟨front, four, further⟩ := exists_of_bind_eq_ok read
    obtain ⟨back, others, ended⟩ := exists_of_bind_eq_ok further
    obtain rfl := Except.ok.inj ended
    rw [encode_of_decodeFour four, ih others]
  | case2 offset last few =>
    have short : last.length ≤ 4 := by
      match last, few with
      | [], _ | [_], _ | [_, _], _ | [_, _, _], _ | [_, _, _, _], _ => simp
      | a :: b :: c :: d :: e :: rest, few => exact absurd rfl (few a b c d e rest)
    rw [decodeFrom] at read
    · exact encode_of_decodeLast short read
    · exact few

/-- What is read is what is written for the bytes that it is read as, and nothing else is read. -/
theorem decode_eq_ok_iff {text bytes : List UInt8} :
    decode text = .ok bytes ↔ text = encode bytes := by
  constructor
  · intro read
    unfold decode at read
    split at read
    · split at read
      · cases read
      · exact (encode_of_decodeFrom read).symm
    · next none =>
      obtain rfl := Except.ok.inj read
      rw [List.getLast?_eq_none_iff.mp none, encode]
  · rintro rfl
    exact decode_encode bytes

end OfflineSite.Base64
