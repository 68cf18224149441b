import OfflineSite.Proofs.Path.Extension

namespace OfflineSite

namespace Ascii

/-- A letter from A to Z in lower case, and any other character as it is. -/
def lower (c : Char) : Char := if 'A' ≤ c ∧ c ≤ 'Z' then Char.ofNat (c.toNat + 32) else c

/-- A text with its letters from A to Z in lower case. -/
def lowered (text : List Char) : List Char := text.map lower

theorem toLower_eq (c : Char) : c.toLower = lower c := by
  by_cases capital : 'A' ≤ c ∧ c ≤ 'Z'
  · have shifted : ∀ n < 91, 65 ≤ n → (Char.ofNat n).toLower = Char.ofNat (n + 32) := by decide
    have own := shifted c.toNat (Nat.lt_succ_of_le capital.2) capital.1
    rw [Char.ofNat_toNat] at own
    rw [own, lower, if_pos capital]
  · have kept : c.toLower = c := dif_neg capital
    rw [kept, lower, if_neg capital]

theorem map_toLower (text : List Char) : text.map Char.toLower = lowered text :=
  List.map_congr_left fun c _ => toLower_eq c

/-- Letters alone change, and into letters, so any other character comes from itself alone. -/
theorem lower_eq_iff {c mark : Char} (noCapital : ¬ ('A' ≤ mark ∧ mark ≤ 'Z'))
    (noSmall : ¬ ('a' ≤ mark ∧ mark ≤ 'z')) : lower c = mark ↔ c = mark := by
  by_cases capital : 'A' ≤ c ∧ c ≤ 'Z'
  · have small : ∀ n < 91, 65 ≤ n → 'a' ≤ Char.ofNat (n + 32) ∧ Char.ofNat (n + 32) ≤ 'z' := by
      decide
    have shifted := small c.toNat (Nat.lt_succ_of_le capital.2) capital.1
    rw [lower, if_pos capital]
    constructor
    · rintro rfl
      exact absurd shifted noSmall
    · rintro rfl
      exact absurd capital noCapital
  · rw [lower, if_neg capital]

theorem lower_eq_dot_iff {c : Char} : lower c = '.' ↔ c = '.' := lower_eq_iff (by decide) (by decide)

theorem lower_eq_slash_iff {c : Char} : lower c = '/' ↔ c = '/' :=
  lower_eq_iff (by decide) (by decide)

theorem dot_mem_lowered {text : List Char} : '.' ∈ lowered text ↔ '.' ∈ text := by
  simp [lowered, lower_eq_dot_iff]

/-- Nothing but dots is lowered to dots. -/
theorem lowered_eq_dots_iff {text : List Char} {count : Nat} :
    lowered text = List.replicate count '.' ↔ text = List.replicate count '.' := by
  simp [List.eq_replicate_iff, lowered, lower_eq_dot_iff]

theorem eq_dots_iff {text other : List Char} (same : lowered text = lowered other) (count : Nat) :
    text = List.replicate count '.' ↔ other = List.replicate count '.' := by
  rw [← lowered_eq_dots_iff, same, lowered_eq_dots_iff]

end Ascii

namespace Split

variable {α β : Type}

theorem pieces_map {isSeparator : β → Bool} {change : α → β} (text : List α) :
    pieces isSeparator (text.map change) =
      (pieces (fun c => isSeparator (change c)) text).map (List.map change) := by
  induction text with
  | nil => rfl
  | cons c rest ih =>
    obtain ⟨piece, others, whole⟩ :=
      List.exists_cons_of_ne_nil (pieces_ne_nil (fun c => isSeparator (change c)) rest)
    rw [whole] at ih
    rw [List.map_cons, pieces, pieces, ih, whole]
    simp only [List.map_cons]
    split <;> rfl

theorem first?_append {isSeparator : α → Bool} {c : α} (separates : isSeparator c)
    {before : List α} (free : ∀ d ∈ before, isSeparator d = false) (after : List α) :
    first? isSeparator (before ++ c :: after) = some (before, after) := by
  induction before with
  | nil => rw [List.nil_append, first?, if_pos separates]
  | cons d before ih =>
    have later := ih fun e inside => free e (List.mem_cons_of_mem d inside)
    rw [List.cons_append, first?, free d List.mem_cons_self, later]
    rfl

theorem last?_append {isSeparator : α → Bool} {c : α} (separates : isSeparator c)
    {after : List α} (free : ∀ d ∈ after, isSeparator d = false) (before : List α) :
    last? isSeparator (before ++ c :: after) = some (before, after) := by
  have reversed : (before ++ c :: after).reverse = after.reverse ++ c :: before.reverse := by simp
  rw [last?, reversed, first?_append separates fun d inside => free d (List.mem_reverse.mp inside)]
  simp

end Split

namespace Path

open Ascii

theorem splitName_append {stem extension : List Char} (nonempty : stem ≠ [])
    (free : '.' ∉ extension) : splitName (stem ++ '.' :: extension) = (stem, some extension) := by
  have noDot (c : Char) (inside : c ∈ extension) : (c == '.') = false :=
    beq_eq_false_iff_ne.mpr fun same => free (same ▸ inside)
  have found := @Split.last?_append Char (· == '.') '.' rfl _ noDot stem
  obtain ⟨c, rest, rfl⟩ := List.exists_cons_of_ne_nil nonempty
  rw [splitName, found]

/-- A name whose only dot leads has no extension. -/
theorem splitName_leading {rest : List Char} (free : '.' ∉ rest) :
    splitName ('.' :: rest) = ('.' :: rest, none) := by
  have noDot (c : Char) (inside : c ∈ rest) : (c == '.') = false :=
    beq_eq_false_iff_ne.mpr fun same => free (same ▸ inside)
  have found := @Split.last?_append Char (· == '.') '.' rfl _ noDot []
  rw [List.nil_append] at found
  rw [splitName, found]

/-- The extension of a path: what is after the last dot of its last component, unless that dot leads.
The path ends in no name that has one otherwise. -/
def Ends (path : String) (extension : List Char) : Prop :=
  ∃ stem, stem ≠ [] ∧ fileName? path = some (stem ++ '.' :: extension) ∧ '.' ∉ extension

theorem extension?_eq_some_iff {path : String} {extension : List Char} :
    extension? path = some extension ↔ Ends path extension := by
  rw [extension?, Option.bind_eq_some_iff]
  constructor
  · rintro ⟨name, named, ends⟩
    rcases splitName_cases name with none | ⟨stem, other, split, rfl, free⟩
    · rw [none] at ends
      cases ends
    · rw [split] at ends
      obtain rfl := Option.some.inj ends
      refine ⟨stem, ?_, named, free⟩
      rintro rfl
      rw [List.nil_append, splitName_leading free] at split
      cases split
  · rintro ⟨stem, nonempty, named, free⟩
    exact ⟨_, named, congrArg Prod.snd (splitName_append nonempty free)⟩

theorem Ends.unique {path : String} {extension other : List Char} (ends : Ends path extension)
    (endsToo : Ends path other) : extension = other :=
  Option.some.inj ((extension?_eq_some_iff.mpr ends).symm.trans (extension?_eq_some_iff.mpr endsToo))

theorem extension?_eq_none_iff {path : String} :
    extension? path = none ↔ ∀ extension, ¬ Ends path extension := by
  simp only [← extension?_eq_some_iff, Option.eq_none_iff_forall_ne_some, ne_eq]

/-- The file name of a path is the last piece but for those that count for nothing. -/
theorem fileName?_eq_some_iff {path : String} {name : List Char} :
    fileName? path = some name ↔ Plain name ∧ ∃ front trailing,
      Split.pieces (· == '/') path.toList = front ++ name :: trailing ∧
        ∀ piece ∈ trailing, piece = [] ∨ piece = ['.'] := by
  refine ⟨pieces_of_fileName?, ?_⟩
  rintro ⟨plain, front, trailing, whole, skipped⟩
  rw [fileName?, components_of_pieces plain whole skipped, List.getLast?_concat]

theorem pieces_lowered (path : String) :
    Split.pieces (· == '/') (lowered path.toList) =
      (Split.pieces (· == '/') path.toList).map lowered := by
  have stays : (fun c => lower c == '/') = (· == '/') := by
    funext c
    rw [Bool.eq_iff_iff, beq_iff_eq, beq_iff_eq, lower_eq_slash_iff]
  rw [lowered, Split.pieces_map, stays]
  rfl

section

variable {path other : String} (same : lowered path.toList = lowered other.toList)

include same

/-- Paths that differ in case alone have file names that do. -/
theorem exists_fileName?_of_lowered_eq {name : List Char} (named : fileName? path = some name) :
    ∃ own, fileName? other = some own ∧ lowered own = lowered name := by
  obtain ⟨plain, front, trailing, whole, skipped⟩ := fileName?_eq_some_iff.mp named
  have pieces := pieces_lowered path
  rw [same, pieces_lowered, whole, List.map_append, List.map_cons] at pieces
  obtain ⟨frontToo, rest, wholeToo, _, onward⟩ := List.map_eq_append_iff.mp pieces
  obtain ⟨own, trailingToo, rfl, alike, tails⟩ := List.map_eq_cons_iff.mp onward
  refine ⟨own, fileName?_eq_some_iff.mpr ⟨⟨?_, ?_, ?_, ?_⟩, _, _, wholeToo, ?_⟩, alike⟩
  · exact fun empty => plain.nonempty ((eq_dots_iff alike 0).mp empty)
  · exact fun here => plain.ne_here ((eq_dots_iff alike 1).mp here)
  · exact fun up => plain.ne_up ((eq_dots_iff alike 2).mp up)
  · refine @separator_not_mem_pieces other.toList own ?_
    rw [wholeToo]
    simp
  · intro piece listed
    have mapped : lowered piece ∈ trailing.map lowered := tails ▸ List.mem_map_of_mem listed
    obtain ⟨twin, listedToo, equal⟩ := List.mem_map.mp mapped
    exact (skipped twin listedToo).imp (eq_dots_iff equal 0).mp (eq_dots_iff equal 1).mp

/-- So have they extensions that differ in case alone, if one of them has one. -/
theorem exists_extension?_of_lowered_eq {extension : List Char}
    (ends : extension? path = some extension) :
    ∃ own, extension? other = some own ∧ lowered own = lowered extension := by
  obtain ⟨stem, nonempty, named, free⟩ := extension?_eq_some_iff.mp ends
  obtain ⟨name, namedToo, alike⟩ := exists_fileName?_of_lowered_eq same named
  have parts : name.map lower = lowered stem ++ '.' :: lowered extension := by
    rw [← lowered, alike, lowered, List.map_append, List.map_cons, lower_eq_dot_iff.mpr rfl]
    rfl
  obtain ⟨stemToo, rest, rfl, stems, onward⟩ := List.map_eq_append_iff.mp parts
  obtain ⟨dot, own, rfl, isDot, owns⟩ := List.map_eq_cons_iff.mp onward
  obtain rfl := lower_eq_dot_iff.mp isDot
  refine ⟨own, extension?_eq_some_iff.mpr ⟨stemToo, ?_, namedToo, ?_⟩, owns⟩
  · exact fun empty => nonempty ((eq_dots_iff stems 0).mp empty)
  · rw [← dot_mem_lowered, lowered, owns, dot_mem_lowered]
    exact free

theorem map_extension?_congr : (extension? path).map lowered = (extension? other).map lowered := by
  cases ends : extension? path with
  | some extension =>
    obtain ⟨own, endsToo, alike⟩ := exists_extension?_of_lowered_eq same ends
    rw [endsToo, Option.map_some, Option.map_some, alike]
  | none =>
    cases endsToo : extension? other with
    | none => rfl
    | some own =>
      obtain ⟨_, ended, _⟩ := exists_extension?_of_lowered_eq same.symm endsToo
      rw [ends] at ended
      cases ended

end

end Path

end OfflineSite
