import OfflineSite.Proofs.Path

namespace OfflineSite

namespace Split

variable {α : Type}

theorem pieces_append {isSeparator : α → Bool} {c : α} (separates : isSeparator c)
    (front rest : List α) :
    pieces isSeparator (front ++ c :: rest) =
      pieces isSeparator front ++ pieces isSeparator rest := by
  induction front with
  | nil =>
    obtain ⟨piece, others, whole⟩ := List.exists_cons_of_ne_nil (pieces_ne_nil isSeparator rest)
    simp [pieces, whole, separates]
  | cons d front ih =>
    obtain ⟨piece, others, whole⟩ := List.exists_cons_of_ne_nil (pieces_ne_nil isSeparator front)
    rw [List.cons_append, pieces, ih, pieces, whole]
    simp only [List.cons_append]
    split <;> rfl

theorem pieces_eq_singleton {isSeparator : α → Bool} {piece : List α}
    (free : ∀ c ∈ piece, isSeparator c = false) : pieces isSeparator piece = [piece] := by
  induction piece with
  | nil => rfl
  | cons c rest ih =>
    have later := ih fun d inside => free d (List.mem_cons_of_mem c inside)
    simp [pieces, later, free c List.mem_cons_self]

/-- Pieces that hold no separator are found again after they were put together. -/
theorem pieces_join [BEq α] [LawfulBEq α] {separator : α} {list : List (List α)}
    (nonempty : list ≠ []) (free : ∀ piece ∈ list, separator ∉ piece) :
    pieces (· == separator) (join separator list) = list := by
  have single {piece : List α} (listed : piece ∈ list) :
      pieces (· == separator) piece = [piece] :=
    pieces_eq_singleton fun c inside => beq_eq_false_iff_ne.mpr fun same =>
      free piece listed (same ▸ inside)
  induction list with
  | nil => exact absurd rfl nonempty
  | cons piece others ih =>
    cases others with
    | nil => exact single List.mem_cons_self
    | cons next rest =>
      have later := ih (by simp) (fun piece listed => free piece (List.mem_cons_of_mem _ listed))
        fun listed => single (List.mem_cons_of_mem _ listed)
      rw [join, @pieces_append α (· == separator) separator BEq.rfl,
        single List.mem_cons_self, later]
      · rfl
      · simp

/-- Every piece but the first comes after a separator. -/
theorem join_cons (separator : α) (piece : List α) (rest : List (List α)) :
    join separator (piece :: rest) = piece ++ rest.flatMap (separator :: ·) := by
  induction rest generalizing piece with
  | nil => simp [join]
  | cons next rest ih => simp [join, ih next]

theorem join_append (separator : α) (front : List (List α)) (piece : List α)
    (rest : List (List α)) :
    join separator (front ++ piece :: rest) =
      front.flatMap (· ++ [separator]) ++ (piece ++ rest.flatMap (separator :: ·)) := by
  induction front with
  | nil => exact join_cons separator piece rest
  | cons first front ih =>
    have onward : join separator (first :: (front ++ piece :: rest)) =
        first ++ separator :: join separator (front ++ piece :: rest) := by
      cases front <;> rfl
    rw [List.cons_append, onward, ih]
    simp

theorem first?_eq_some {isSeparator : α → Bool} {text before after : List α}
    (found : first? isSeparator text = some (before, after)) :
    ∃ c, isSeparator c ∧ text = before ++ c :: after ∧ ∀ d ∈ before, isSeparator d = false := by
  induction text generalizing before with
  | nil => cases found
  | cons c rest ih =>
    unfold first? at found
    split at found
    · next separates =>
      cases found
      exact ⟨c, separates, rfl, by simp⟩
    · next passes =>
      obtain ⟨⟨later, tail⟩, foundLater, same⟩ := Option.map_eq_some_iff.mp found
      cases same
      obtain ⟨d, separates, rfl, free⟩ := ih foundLater
      refine ⟨d, separates, rfl, fun e inside => ?_⟩
      rcases List.mem_cons.mp inside with rfl | further
      · simpa using passes
      · exact free e further

theorem last?_eq_some {isSeparator : α → Bool} {text before after : List α}
    (found : last? isSeparator text = some (before, after)) :
    ∃ c, isSeparator c ∧ text = before ++ c :: after ∧ ∀ d ∈ after, isSeparator d = false := by
  obtain ⟨⟨one, two⟩, foundFirst, same⟩ := Option.map_eq_some_iff.mp found
  cases same
  obtain ⟨c, separates, reversed, free⟩ := first?_eq_some foundFirst
  refine ⟨c, separates, ?_, fun d inside => free d (List.mem_reverse.mp inside)⟩
  rw [← List.reverse_reverse text, reversed]
  simp

end Split

namespace Path

/-- The leading component, read off the pieces of a path. -/
def leadOf : List (List Char) → List Component
  | [] :: _ :: _ => [.root]
  | ['.'] :: _ => [.here]
  | _ => []

theorem lead_join {list : List (List Char)} (free : ∀ piece ∈ list, '/' ∉ piece) :
    lead (Split.join '/' list) = leadOf list := by
  cases list with
  | nil => rfl
  | cons piece others =>
    have apart {c : Char} (inside : c ∈ piece) : c ≠ '/' := fun same =>
      free piece List.mem_cons_self (same ▸ inside)
    match piece, others with
    | [], [] => rfl
    | [], _ :: _ => rfl
    | [c], [] =>
      by_cases dot : c = '.'
      · subst dot
        rfl
      · simp [Split.join, lead, leadOf, apart List.mem_cons_self, dot]
    | [c], _ :: _ =>
      by_cases dot : c = '.'
      · subst dot
        rfl
      · simp [Split.join, lead, leadOf, apart List.mem_cons_self, dot]
    | c :: d :: rest, others =>
      have first := apart List.mem_cons_self
      have second := apart (List.mem_cons_of_mem c List.mem_cons_self)
      cases others <;> simp [Split.join, lead, leadOf, first, second]

theorem separator_not_mem_pieces {text piece : List Char}
    (listed : piece ∈ Split.pieces (· == '/') text) : '/' ∉ piece := by
  intro inside
  simpa using (Split.of_mem_pieces listed inside).2

theorem components_eq (path : String) :
    components path = leadOf (Split.pieces (· == '/') path.toList) ++
      (Split.pieces (· == '/') path.toList).filterMap Component.ofPiece? := by
  have leading := lead_join fun _ listed => @separator_not_mem_pieces path.toList _ listed
  rw [Split.join_pieces] at leading
  rw [components, leading]

theorem ofPiece?_eq_none {piece : List Char} :
    Component.ofPiece? piece = none ↔ piece = [] ∨ piece = ['.'] := by
  unfold Component.ofPiece?
  split
  · simpa
  · next here => split <;> simpa using here

theorem Plain.ofPiece? {part : List Char} (plain : Plain part) :
    Component.ofPiece? part = some (.name part) := by
  simp [Component.ofPiece?, plain.nonempty, plain.ne_here, plain.ne_up]

/-- The text of a path with a file name: the directory, the name, and what adds nothing. -/
theorem pieces_of_fileName? {path : String} {name : List Char}
    (named : fileName? path = some name) :
    Plain name ∧ ∃ front trailing,
      Split.pieces (· == '/') path.toList = front ++ name :: trailing ∧
        ∀ piece ∈ trailing, piece = [] ∨ piece = ['.'] := by
  have last : (components path).getLast? = some (.name name) := by
    unfold fileName? at named
    split at named
    · next part ends =>
      obtain rfl := Option.some.inj named
      exact ends
    · cases named
  refine ⟨plain_of_mem_components (List.mem_of_getLast? last), ?_⟩
  have leading : (lead path.toList).getLast? ≠ some (.name name) := fun ends =>
    name_not_mem_lead name path.toList (List.mem_of_getLast? ends)
  rw [components, List.getLast?_append, List.getLast?_filterMap, Option.or_eq_some_iff] at last
  have found := last.resolve_right fun ends => leading ends.2
  obtain ⟨skipped, piece, others, reversed, read, nothing⟩ := List.findSome?_eq_some_iff.mp found
  have whole : Split.pieces (· == '/') path.toList =
      others.reverse ++ piece :: skipped.reverse := by
    rw [← List.reverse_reverse (Split.pieces _ _), reversed]
    simp
  obtain rfl : piece = name := by
    unfold Component.ofPiece? at read
    split at read
    · cases read
    · split at read
      · cases read
      · exact Component.name.inj (Option.some.inj read)
  exact ⟨others.reverse, skipped.reverse, whole, fun other listed =>
    ofPiece?_eq_none.mp (nothing other (List.mem_reverse.mp listed))⟩

theorem dropTrailing_append {trailing : List (List Char)}
    (skipped : ∀ piece ∈ trailing, piece = [] ∨ piece = ['.']) (kept : List Char) :
    dropTrailing (kept ++ trailing.flatMap ('/' :: ·)).reverse = dropTrailing kept.reverse := by
  induction trailing generalizing kept with
  | nil => simp
  | cons piece rest ih =>
    have step : kept ++ (piece :: rest).flatMap ('/' :: ·) =
        (kept ++ '/' :: piece) ++ rest.flatMap ('/' :: ·) := by simp
    rw [step, ih fun other listed => skipped other (List.mem_cons_of_mem _ listed)]
    rcases skipped piece List.mem_cons_self with rfl | rfl
    · simp [dropTrailing]
    · simp [dropTrailing]

theorem dropTrailing_of_plain {name : List Char} (plain : Plain name) (front : List Char) :
    dropTrailing (front ++ name).reverse = (front ++ name).reverse := by
  obtain ⟨c, rest, reversed⟩ : ∃ c rest, name.reverse = c :: rest :=
    List.exists_cons_of_ne_nil (by simpa using plain.nonempty)
  have apart {d : Char} (inside : d ∈ c :: rest) : d ≠ '/' := by
    rintro rfl
    exact plain.noSeparator (List.mem_reverse.mp (reversed ▸ inside))
  rw [List.reverse_append, reversed, dropTrailing]
  · intro later same
    exact apart List.mem_cons_self (List.cons.inj same).1
  · intro later same
    obtain ⟨rfl, onward⟩ := List.cons.inj same
    cases rest with
    | nil => exact plain.ne_here (List.reverse_eq_iff.mp reversed)
    | cons d rest =>
      exact apart (List.mem_cons_of_mem _ List.mem_cons_self) (List.cons.inj onward).1

theorem splitName_cases (name : List Char) :
    (splitName name = (name, none)) ∨
      ∃ stem extension, splitName name = (stem, some extension) ∧
        name = stem ++ '.' :: extension ∧ '.' ∉ extension := by
  unfold splitName
  split
  · exact Or.inl rfl
  · next stem extension _ found =>
    obtain ⟨c, dot, whole, free⟩ := Split.last?_eq_some found
    obtain rfl : c = '.' := by simpa using dot
    exact Or.inr ⟨stem, extension, rfl, whole, fun inside => by simpa using free _ inside⟩
  · exact Or.inl rfl

/-- A name never gets back the extension that it had if the new one has a dot in it. -/
theorem splitName_append_ne {extension : List Char} (dotted : '.' ∈ extension)
    (name : List Char) : (splitName name).1 ++ '.' :: extension ≠ name := by
  intro same
  rcases splitName_cases name with none | ⟨stem, old, split, whole, free⟩
  · rw [none] at same
    have longer := congrArg List.length same
    simp at longer
  · rw [split, whole] at same
    exact free ((List.cons.inj (List.append_cancel_left same)).2 ▸ dotted)

/-- Two paths that lead to different names in one directory. -/
def Siblings (path other : String) : Prop :=
  ∃ directory one two, components path = directory ++ [.name one] ∧
    components other = directory ++ [.name two] ∧ one ≠ two

theorem Siblings.symm {path other : String} (siblings : Siblings path other) :
    Siblings other path := by
  obtain ⟨directory, one, two, first, second, different⟩ := siblings
  exact ⟨directory, two, one, second, first, Ne.symm different⟩

theorem Siblings.ne {path other : String} (siblings : Siblings path other) : path ≠ other := by
  rintro rfl
  obtain ⟨directory, one, two, first, second, different⟩ := siblings
  have same := List.append_cancel_left (first.symm.trans second)
  exact different (Component.name.inj (List.cons.inj same).1)

theorem leadOf_cons {piece : List Char} (nonempty : piece ≠ []) (ne_here : piece ≠ ['.'])
    (others : List (List Char)) : leadOf (piece :: others) = [] := by
  unfold leadOf
  split
  · next same => exact absurd (List.cons.inj same).1 nonempty
  · next same => exact absurd (List.cons.inj same).1 ne_here
  · rfl

theorem leadOf_append {name other : List Char} (plain : Plain name) (plainToo : Plain other)
    (front trailing : List (List Char)) :
    leadOf (front ++ name :: trailing) = leadOf (front ++ [other]) := by
  cases front with
  | nil =>
    rw [List.nil_append, List.nil_append, leadOf_cons plain.nonempty plain.ne_here,
      leadOf_cons plainToo.nonempty plainToo.ne_here]
  | cons first rest =>
    by_cases empty : first = []
    · subst empty
      cases rest <;> rfl
    · by_cases here : first = ['.']
      · subst here
        rfl
      · rw [List.cons_append, List.cons_append, leadOf_cons empty here, leadOf_cons empty here]

theorem components_of_pieces {path : String} {front trailing : List (List Char)}
    {name : List Char} (plain : Plain name)
    (whole : Split.pieces (· == '/') path.toList = front ++ name :: trailing)
    (skipped : ∀ piece ∈ trailing, piece = [] ∨ piece = ['.']) :
    components path = leadOf (front ++ name :: trailing) ++
      front.filterMap Component.ofPiece? ++ [.name name] := by
  have nothing : trailing.filterMap Component.ofPiece? = [] :=
    List.filterMap_eq_nil_iff.mpr fun piece listed => ofPiece?_eq_none.mpr (skipped piece listed)
  rw [components_eq, whole, List.filterMap_append, List.filterMap_cons_some plain.ofPiece?,
    nothing, List.append_assoc]

theorem plain_append_dot {stem extension : List Char} (noSeparator : '/' ∉ stem)
    (noSeparatorToo : '/' ∉ extension) (long : 2 ≤ extension.length) :
    Plain (stem ++ '.' :: extension) := by
  have length : 2 < (stem ++ '.' :: extension).length := by
    simp only [List.length_append, List.length_cons]
    omega
  refine ⟨?_, ?_, ?_, by simp [noSeparator, noSeparatorToo]⟩
  all_goals
    intro same
    rw [same] at length
    simp at length

/-- The text of a path with its extension changed. -/
theorem toList_withExtension {path : String} {name : List Char} {front trailing : List (List Char)}
    (named : fileName? path = some name)
    (whole : Split.pieces (· == '/') path.toList = front ++ name :: trailing)
    (plain : Plain name) (skipped : ∀ piece ∈ trailing, piece = [] ∨ piece = ['.'])
    (extension : String) :
    (withExtension path extension).toList =
      Split.join '/' (front ++ [(splitName name).1 ++ '.' :: extension.toList]) := by
  have text : path.toList = (front.flatMap (· ++ ['/']) ++ name) ++ trailing.flatMap ('/' :: ·) := by
    rw [← Split.join_pieces '/' path.toList, whole, Split.join_append, List.append_assoc]
  have kept : (dropTrailing path.toList.reverse).reverse = front.flatMap (· ++ ['/']) ++ name := by
    rw [text, dropTrailing_append skipped, dropTrailing_of_plain plain, List.reverse_reverse]
  have directory : (front.flatMap (· ++ ['/']) ++ name).take
      ((front.flatMap (· ++ ['/']) ++ name).length - name.length) =
        front.flatMap (· ++ ['/']) := by
    rw [List.length_append, Nat.add_sub_cancel, List.take_left]
  rw [withExtension, named]
  simp only [kept, directory]
  rw [Split.join_append]
  simp [String.toList_append]

/-- A path and the one with its extension changed lead to different names in one directory. -/
theorem siblings_withExtension {path : String} {name : List Char}
    (named : fileName? path = some name) {extension : String}
    (noSeparator : '/' ∉ extension.toList) (dotted : '.' ∈ extension.toList)
    (long : 2 ≤ extension.toList.length) : Siblings path (withExtension path extension) := by
  obtain ⟨plain, front, trailing, whole, skipped⟩ := pieces_of_fileName? named
  have stem : '/' ∉ (splitName name).1 := by
    rcases splitName_cases name with none | ⟨stem, old, split, same, _⟩
    · rw [none]
      exact plain.noSeparator
    · rw [split]
      intro inside
      exact plain.noSeparator (same ▸ List.mem_append_left _ inside)
  have plainToo := plain_append_dot stem noSeparator long
  have wholeToo : Split.pieces (· == '/') (withExtension path extension).toList =
      front ++ [(splitName name).1 ++ '.' :: extension.toList] := by
    rw [toList_withExtension named whole plain skipped, Split.pieces_join (by simp)]
    intro piece listed
    rcases List.mem_append.mp listed with early | last
    · exact @separator_not_mem_pieces path.toList _ (whole ▸ List.mem_append_left _ early)
    · exact List.mem_singleton.mp last ▸ plainToo.noSeparator
  refine ⟨leadOf (front ++ name :: trailing) ++ front.filterMap Component.ofPiece?, name,
    (splitName name).1 ++ '.' :: extension.toList, components_of_pieces plain whole skipped, ?_,
    Ne.symm (splitName_append_ne dotted name)⟩
  rw [components_of_pieces plainToo wholeToo (by simp), leadOf_append plain plainToo]

end Path

end OfflineSite
