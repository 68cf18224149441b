import OfflineSite.Path

namespace OfflineSite

/-- What is in a piece is in the text and no separator. -/
theorem Split.of_mem_pieces {α : Type} {isSeparator : α → Bool} {text piece : List α}
    (member : piece ∈ pieces isSeparator text) {c : α} (inside : c ∈ piece) :
    c ∈ text ∧ isSeparator c = false := by
  induction text generalizing piece with
  | nil =>
    obtain rfl : piece = [] := by simpa [pieces] using member
    cases inside
  | cons first rest ih =>
    have onward {piece : List α} (listed : piece ∈ pieces isSeparator rest) (there : c ∈ piece) :
        c ∈ first :: rest ∧ isSeparator c = false :=
      (ih listed there).imp_left (List.mem_cons_of_mem first)
    unfold pieces at member
    split at member
    · next none => exact absurd none (pieces_ne_nil _ _)
    · next head others whole =>
      rw [whole] at onward
      split at member
      · rcases List.mem_cons.mp member with rfl | later
        · cases inside
        · exact onward later inside
      · next noSeparator =>
        rcases List.mem_cons.mp member with rfl | later
        · rcases List.mem_cons.mp inside with rfl | further
          · exact ⟨List.mem_cons_self, by simpa using noSeparator⟩
          · exact onward List.mem_cons_self further
        · exact onward (List.mem_cons_of_mem _ later) inside

theorem Split.dropWhile_eq_self {mark : Char} {text : List Char}
    (other : text.head? ≠ some mark) : text.dropWhile (· == mark) = text := by
  cases text with
  | nil => rfl
  | cons c rest => exact List.dropWhile_cons_of_neg (by simpa using other)

theorem Split.head?_dropWhile_ne {mark : Char} (text : List Char) :
    (text.dropWhile (· == mark)).head? ≠ some mark := by
  intro leads
  have stopped := List.head?_dropWhile_not (· == mark) text
  rw [leads] at stopped
  simp at stopped

namespace Path

/-- A name that a directory may hold. -/
structure Plain (part : List Char) : Prop where
  nonempty : part ≠ []
  ne_here : part ≠ ['.']
  ne_up : part ≠ ['.', '.']
  noSeparator : '/' ∉ part

theorem plain_of_ofPiece? {piece part : List Char} (noSeparator : '/' ∉ piece)
    (read : Component.ofPiece? piece = some (.name part)) : Plain part := by
  unfold Component.ofPiece? at read
  split at read
  · cases read
  · next notSkipped =>
    split at read
    · cases read
    · next notUp =>
      obtain rfl := Component.name.inj (Option.some.inj read)
      exact ⟨fun empty => notSkipped (Or.inl empty), fun here => notSkipped (Or.inr here), notUp,
        noSeparator⟩

theorem name_not_mem_lead (part text : List Char) : Component.name part ∉ lead text := by
  unfold lead
  split <;> simp

theorem plain_of_mem_components {path : String} {part : List Char}
    (member : .name part ∈ components path) : Plain part := by
  rcases List.mem_append.mp member with leading | later
  · exact absurd leading (name_not_mem_lead part path.toList)
  · obtain ⟨piece, listed, read⟩ := List.mem_filterMap.mp later
    refine plain_of_ofPiece? (fun inside => ?_) read
    simpa using (Split.of_mem_pieces listed inside).2

theorem Plain.isAbsolute {part : List Char} (plain : Plain part) :
    isAbsolute (String.ofList part) = false := by
  cases part with
  | nil => exact absurd rfl plain.nonempty
  | cons c rest =>
    have different : c ≠ '/' := fun same => plain.noSeparator (same ▸ List.mem_cons_self ..)
    simp [Path.isAbsolute, different]

/-- The paths that are reached from a directory by plain names alone. -/
inductive Below (root : String) : String → Prop
  | root : Below root root
  | push {path : String} {part : List Char} (below : Below root path) (plain : Plain part) :
      Below root (push path (String.ofList part))

theorem isPrefix_push {part : List Char} (plain : Plain part) (path : String) :
    path.toList <+: (push path (String.ofList part)).toList := by
  simp only [push, plain.isAbsolute, Bool.false_eq_true, if_false]
  split
  · simp
  · simp [String.append_assoc]

/-- A path below another goes on where that one ends. -/
theorem Below.isPrefix {root path : String} (below : Below root path) :
    root.toList <+: path.toList := by
  induction below with
  | root => exact List.prefix_refl _
  | push below plain ih => exact ih.trans (isPrefix_push plain _)

end Path

end OfflineSite
