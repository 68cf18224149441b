import Mathlib.Data.Option.Basic
import OfflineSite.Proofs.Path
import OfflineSite.Url.Host

namespace OfflineSite

theorem ofNat_ne_slash {n : Nat} (other : n ≠ 47) : Char.ofNat n ≠ '/' := by
  intro same
  by_cases valid : n.isValidChar
  · have value : (Char.ofNat n).toNat = n := by
      rw [Char.ofNat, dif_pos valid]
      rfl
    rw [same] at value
    exact other value.symm
  · rw [Char.ofNat, dif_neg valid] at same
    cases same

theorem Hex.upper_ne_slash (n : Nat) : upper n ≠ '/' := by
  unfold upper
  split
  · exact ofNat_ne_slash (by simp; omega)
  · exact ofNat_ne_slash (by simp; omega)

namespace Percent

theorem slash_not_mem_escape (b : UInt8) : '/' ∉ escape b := by
  simp [escape, (Hex.upper_ne_slash _).symm]

theorem slash_not_mem_encode {reserved : Char → Bool} (slash : reserved '/' = true)
    (text : List Char) : '/' ∉ encode reserved text := by
  intro listed
  obtain ⟨c, _, written⟩ := List.mem_flatMap.mp listed
  split at written
  · obtain ⟨b, _, digit⟩ := List.mem_flatMap.mp written
    exact slash_not_mem_escape b digit
  · next plain =>
    obtain rfl := List.mem_singleton.mp written
    exact plain slash

end Percent

theorem Split.mem_join {α : Type} {separator c : α} {list : List (List α)}
    (listed : c ∈ join separator list) : c = separator ∨ ∃ piece ∈ list, c ∈ piece := by
  induction list with
  | nil => cases listed
  | cons piece others ih =>
    cases others with
    | nil => exact Or.inr ⟨piece, List.mem_singleton_self _, listed⟩
    | cons other others =>
      rcases List.mem_append.mp listed with here | later
      · exact Or.inr ⟨piece, List.mem_cons_self .., here⟩
      · rcases List.mem_cons.mp later with same | there
        · exact Or.inl same
        · exact (ih there).imp_right fun ⟨found, member, holds⟩ =>
            ⟨found, List.mem_cons_of_mem _ member, holds⟩

theorem mem_toDigitsCore {base fuel n : Nat} {digits : List Char} {c : Char}
    (listed : c ∈ Nat.toDigitsCore base fuel n digits) :
    c ∈ digits ∨ ∃ digit, c = Nat.digitChar digit := by
  induction fuel generalizing n digits with
  | zero => exact Or.inl listed
  | succ fuel ih =>
    have first (listed : c ∈ Nat.digitChar (n % base) :: digits) :
        c ∈ digits ∨ ∃ digit, c = Nat.digitChar digit :=
      (List.mem_cons.mp listed).symm.imp_right fun same => ⟨_, same⟩
    rw [Nat.toDigitsCore] at listed
    split at listed
    · exact first listed
    · exact (ih listed).elim first Or.inr

theorem slash_not_mem_toDigits (base n : Nat) : '/' ∉ Nat.toDigits base n := by
  intro listed
  rcases mem_toDigitsCore listed with none | ⟨digit, same⟩
  · cases none
  · exact Nat.digitChar_ne '/' (by decide) same.symm

theorem exists_of_mem_mapM {α β : Type} {f : α → Option β} {list : List α} {results : List β}
    (made : list.mapM f = some results) {result : β} (listed : result ∈ results) :
    ∃ value ∈ list, f value = some result := by
  induction list generalizing results with
  | nil =>
    obtain rfl : [] = results := by simpa using made
    cases listed
  | cons first rest ih =>
    obtain ⟨head, here, tail, later, rfl⟩ : ∃ head, f first = some head ∧
        ∃ tail, rest.mapM f = some tail ∧ head :: tail = results := by
      simpa [List.mapM_cons, Option.bind_eq_some_iff] using made
    rcases List.mem_cons.mp listed with rfl | further
    · exact ⟨first, List.mem_cons_self .., here⟩
    · obtain ⟨value, member, same⟩ := ih later further
      exact ⟨value, List.mem_cons_of_mem _ member, same⟩

namespace Url

namespace Punycode

theorem digit_ne_slash (value : Nat) : digit value ≠ '/' := by
  unfold digit
  split
  · exact ofNat_ne_slash (by omega)
  · exact ofNat_ne_slash (by omega)

theorem slash_not_mem_digits (bias k n : Nat) : '/' ∉ digits bias k n := by
  induction k, n using digits.induct bias with
  | case1 k n last =>
    rw [digits, if_pos last]
    simp [(digit_ne_slash _).symm]
  | case2 k n more ih =>
    rw [digits, if_neg more]
    simp [(digit_ne_slash _).symm, ih]

theorem slash_not_mem_pass {w : Writing} (free : '/' ∉ w.written) (n : Nat) (c : Char) :
    '/' ∉ (pass n w c).written := by
  unfold pass
  split
  · exact free
  · split
    · simp [free, slash_not_mem_digits]
    · exact free

theorem slash_not_mem_place {label : List Char} {points : List Nat} {n : Nat} {w : Writing}
    (free : '/' ∉ w.written) : '/' ∉ (place label n w points).written := by
  induction points generalizing n w with
  | nil => exact free
  | cons m rest ih =>
    refine ih ?_
    have passed (text : List Char) (w : Writing) (free : '/' ∉ w.written) :
        '/' ∉ (text.foldl (pass m) w).written := by
      induction text generalizing w with
      | nil => exact free
      | cons c rest ih => exact ih _ (slash_not_mem_pass free m c)
    exact passed label _ free

theorem slash_not_mem_encode {label : List Char} (free : '/' ∉ label) : '/' ∉ encode label := by
  have placed (points : List Nat) (placed basic : Nat) :
      '/' ∉ (place label 128 ⟨0, 72, placed, basic, []⟩ points).written :=
    slash_not_mem_place (by simp)
  have front (basic : List Char) (free : '/' ∉ basic) :
      '/' ∉ if basic.isEmpty then [] else basic ++ ['-'] := by
    split <;> simp [free]
  have kept : '/' ∉ label.filter (·.toNat < 128) := by simp [free]
  exact List.not_mem_append (front _ kept) (placed _ _ _)

end Punycode

namespace Domain

theorem slash_not_mem_written {label : List Char} {read : Label} (free : '/' ∉ label)
    (made : label? label = some read) : '/' ∉ read.written := by
  unfold label? at made
  split at made
  · next code =>
    obtain ⟨_, _, made⟩ := Option.bind_eq_some_iff.mp made
    obtain ⟨plain, _, made⟩ := Option.bind_eq_some_iff.mp made
    obtain ⟨_, _, written⟩ := Option.bind_eq_some_iff.mp made
    obtain rfl := Option.some.inj written
    simpa using free
  · split at made
    · obtain rfl := Option.some.inj made
      exact free
    · obtain ⟨_, _, written⟩ := Option.bind_eq_some_iff.mp made
      obtain rfl := Option.some.inj written
      simpa using Punycode.slash_not_mem_encode free

theorem slash_not_mem_ascii? {bytes : List UInt8} {domain : List Char}
    (made : ascii? bytes = some domain) : '/' ∉ domain := by
  unfold ascii? at made
  obtain ⟨text, _, made⟩ := Option.bind_eq_some_iff.mp made
  obtain ⟨folded, _, made⟩ := Option.bind_eq_some_iff.mp made
  obtain ⟨_, allowed, made⟩ := Option.bind_eq_some_iff.mp made
  obtain ⟨labels, read, made⟩ := Option.bind_eq_some_iff.mp made
  obtain ⟨_, _, written⟩ := Option.bind_eq_some_iff.mp made
  obtain rfl := Option.some.inj written
  have free : '/' ∉ folded := by
    intro listed
    have all : folded.all (!isForbidden ·) = true := (Option.guard_eq_some' _).mp allowed
    have forbidden : isForbidden '/' = true := by decide
    simpa [forbidden] using List.all_eq_true.mp all '/' listed
  intro listed
  rcases Split.mem_join listed with same | ⟨piece, member, inside⟩
  · cases same
  · obtain ⟨label, there, rfl⟩ := List.mem_map.mp member
    obtain ⟨text, listed, made⟩ := exists_of_mem_mapM read there
    exact slash_not_mem_written (fun slash => free (Split.of_mem_pieces listed slash).1) made
      inside

end Domain

namespace Host

theorem slash_not_mem_ipv6Text (groups : List Nat) : '/' ∉ ipv6Text groups := by
  have joined (groups : List Nat) : '/' ∉ Split.join ':' (groups.map groupText) := by
    intro listed
    rcases Split.mem_join listed with same | ⟨piece, member, inside⟩
    · cases same
    · obtain ⟨group, _, rfl⟩ := List.mem_map.mp member
      exact slash_not_mem_toDigits 16 group inside
  unfold ipv6Text
  dsimp only
  split
  · exact joined groups
  · exact List.not_mem_append (List.not_mem_append (joined _) (by simp)) (joined _)

theorem slash_not_mem_text_bracketed {text : List Char} {host : Host}
    (made : bracketed text = .ok host) : '/' ∉ host.text.toList := by
  unfold bracketed at made
  split at made
  · obtain rfl := Except.ok.inj made
    simp [Host.text, slash_not_mem_ipv6Text]
  · cases made

theorem slash_not_mem_text {text : List Char} {host : Host} (made : parse text = .ok host) :
    '/' ∉ host.text.toList := by
  unfold parse at made
  split at made
  · exact slash_not_mem_text_bracketed made
  · split at made
    · cases made
    · cases made
    · next domain read =>
      split at made
      · split at made
        · obtain rfl := Except.ok.inj made
          have dot : '/' ∉ (toString ".").toList := by decide
          simp [Host.text, Ipv4.text, slash_not_mem_toDigits, dot]
        · cases made
      · obtain rfl := Except.ok.inj made
        rw [Host.text, String.toList_ofList]
        exact Domain.slash_not_mem_ascii? read

end Host

end Url

end OfflineSite
