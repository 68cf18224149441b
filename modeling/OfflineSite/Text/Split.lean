namespace OfflineSite.Split

variable {α : Type}

/-- The pieces between separators, empty ones included; there is always at least one. -/
def pieces (isSeparator : α → Bool) : List α → List (List α)
  | [] => [[]]
  | c :: rest =>
    match pieces isSeparator rest with
    | [] => [[c]]
    | piece :: others =>
      if isSeparator c then [] :: piece :: others else (c :: piece) :: others

/-- Puts a separator between pieces. -/
def join (separator : α) : List (List α) → List α
  | [] => []
  | [piece] => piece
  | piece :: others => piece ++ separator :: join separator others

theorem pieces_ne_nil (isSeparator : α → Bool) (text : List α) :
    pieces isSeparator text ≠ [] := by
  cases text with
  | nil => simp [pieces]
  | cons c rest =>
    unfold pieces
    split
    · simp
    · split <;> simp

theorem join_pieces [BEq α] [LawfulBEq α] (separator : α) (text : List α) :
    join separator (pieces (· == separator) text) = text := by
  induction text with
  | nil => rfl
  | cons c rest ih =>
    unfold pieces
    split
    · next none => exact absurd none (pieces_ne_nil _ _)
    · next piece others whole =>
      rw [whole] at ih
      split
      · next same =>
        have : c = separator := by simpa using same
        simp [join, ih, this]
      · cases others with
        | nil => simp_all [join]
        | cons other others => simp_all [join]

/-- The text before and after the first element that satisfies a test, if there is one. -/
def first? (isSeparator : α → Bool) : List α → Option (List α × List α)
  | [] => none
  | c :: rest =>
    if isSeparator c then some ([], rest)
    else (first? isSeparator rest).map fun (before, after) => (c :: before, after)

/-- The text before and after the last element that satisfies a test, if there is one. -/
def last? (isSeparator : α → Bool) (text : List α) : Option (List α × List α) :=
  (first? isSeparator text.reverse).map fun (after, before) => (before.reverse, after.reverse)

end OfflineSite.Split
