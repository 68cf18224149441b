import OfflineSite.Proofs.Files

namespace OfflineSite.FileTree

variable {tree after : FileTree} {names goal : List String} {path : String} {data : ByteArray}

/-- Where steps lead from some names, both given last first. -/
def reached : List String → List Step → List String
  | names, [] => names
  | names, .here :: rest => reached names rest
  | names, .up :: rest => reached names.tail rest
  | names, .name name :: rest => reached (name :: names) rest

theorem reached_append (names : List String) (front rest : List Step) :
    reached names (front ++ rest) = reached (reached names front) rest := by
  induction front generalizing names with
  | nil => rfl
  | cons step front ih => cases step <;> exact ih _

theorem Leads.eq_reached {node? : List String → Option Node} {steps : List Step}
    (leads : Leads node? names steps goal) : goal = (reached names steps).reverse := by
  induction steps generalizing names with
  | nil => exact leads
  | cons step rest ih =>
    cases step with
    | here => exact ih leads.2
    | up => exact ih leads.2
    | name name => exact ih leads.2.2

/-- The step that a component of a path stands for, where it leads anywhere. -/
def Step.ofComponent? : Path.Component → Option Step
  | .up => some .up
  | .name part => some (.name (String.ofList part))
  | _ => none

theorem reached_pieces (names : List String) (pieces : List (List Char)) :
    reached names (pieces.filterMap Step.ofPiece?) =
      reached names ((pieces.filterMap Path.Component.ofPiece?).filterMap Step.ofComponent?) := by
  induction pieces generalizing names with
  | nil => rfl
  | cons piece rest ih =>
    by_cases empty : piece = []
    · simpa [Step.ofPiece?, Path.Component.ofPiece?, empty] using ih names
    · by_cases here : piece = ['.']
      · simpa [Step.ofPiece?, Path.Component.ofPiece?, here, reached] using ih names
      · by_cases up : piece = ['.', '.']
        · simpa [Step.ofPiece?, Path.Component.ofPiece?, up, reached, Step.ofComponent?]
            using ih names.tail
        · simpa [Step.ofPiece?, Path.Component.ofPiece?, empty, here, up, reached,
            Step.ofComponent?] using ih (String.ofList piece :: names)

theorem steps_eq {list : List Step} (walked : steps path = .ok list) :
    list = (Split.pieces (· == '/') path.toList).filterMap Step.ofPiece? := by
  unfold steps at walked
  repeat' split at walked
  all_goals cases walked
  rfl

theorem reached_steps {list : List Step} (walked : steps path = .ok list) :
    reached [] list = reached [] ((Path.components path).filterMap Step.ofComponent?) := by
  have leading : (Path.leadOf (Split.pieces (· == '/') path.toList)).filterMap Step.ofComponent? =
      [] := by
    unfold Path.leadOf
    split <;> rfl
  rw [steps_eq walked, reached_pieces, Path.components_eq, List.filterMap_append, leading, List.nil_append]

/-- Where the names of a directory lead: to the same place but for the last name. -/
theorem exists_reached_of_siblings {other : String} (siblings : Path.Siblings path other) :
    ∃ directory one two, one ≠ two ∧
      (∀ list, steps path = .ok list → reached [] list = one :: directory) ∧
      ∀ list, steps other = .ok list → reached [] list = two :: directory := by
  obtain ⟨directory, one, two, first, second, different⟩ := siblings
  refine ⟨reached [] (directory.filterMap Step.ofComponent?), String.ofList one, String.ofList two,
    fun same => different (String.ofList_injective same), fun list walked => ?_, fun list walked => ?_⟩
  · rw [reached_steps walked, first, List.filterMap_append, reached_append]
    rfl
  · rw [reached_steps walked, second, List.filterMap_append, reached_append]
    rfl

theorem exists_steps_of_locate (located : tree.locate path = .ok (some names)) :
    ∃ list, steps path = .ok list ∧ names = (reached [] list).reverse ∧
      tree.node? names.dropLast = some .directory ∧ names ≠ [] := by
  obtain ⟨front, directory, name, walked, leads, opened, rfl⟩ := of_locate_eq_ok located
  refine ⟨_, walked, ?_, by simpa using opened, by simp⟩
  rw [reached_append, leads.eq_reached]
  simp [reached]

theorem ne_of_siblings {other : String} (siblings : Path.Siblings path other)
    (located : tree.locate path = .ok (some names)) {list : List Step}
    (walked : steps other = .ok list) : (reached [] list).reverse ≠ names := by
  obtain ⟨directory, one, two, different, first, second⟩ := exists_reached_of_siblings siblings
  obtain ⟨steps, walkedToo, rfl, _⟩ := exists_steps_of_locate located
  rw [first _ walkedToo, second _ walked]
  intro same
  exact different (List.cons.inj (List.reverse_injective same)).1.symm

/-- What changes at one place only, which is no directory, is nothing to the paths that lead
elsewhere. -/
theorem read_of_agree (agree : ∀ others, others ≠ names → after.node? others = tree.node? others)
    (noDirectory : tree.node? names ≠ some .directory)
    (elsewhere : ∀ list, steps path = .ok list → (reached [] list).reverse ≠ names)
    (read : tree.read path = .ok data) : after.read path = .ok data := by
  obtain ⟨list, goal, walked, leads, there, file⟩ := read_eq_ok.mp read
  have apart : goal ≠ names := leads.eq_reached ▸ elsewhere list walked
  have still : after.node? goal = some (.file data) := (agree goal apart).trans there
  refine read_eq_ok.mpr ⟨list, goal, walked, leads.mono ?_ (by rw [still]; rfl), still, file⟩
  intro others opened
  have different : others ≠ names := by
    rintro rfl
    exact noDirectory opened
  exact (agree others different).trans opened

theorem content?_congr (same : ∀ data, after.read path = .ok data ↔ tree.read path = .ok data) :
    files.content? after path = files.content? tree path := by
  refine Option.ext fun data => ?_
  rw [Files.content?_eq_some, Files.content?_eq_some]
  exact same data

theorem kept_write {other : String} (written : tree.write path data = .ok after)
    (siblings : Path.Siblings path other) :
    files.content? after other = files.content? tree other := by
  unfold write at written
  obtain ⟨place, located, written⟩ := exists_of_bind_eq_ok written
  split at written
  · next names _ =>
    have changed := node?_put written
    have agree (others : List String) (apart : others ≠ names) :
        after.node? others = tree.node? others := by rw [changed, if_neg apart]
    have elsewhere (list : List Step) (walked : steps other = .ok list) :=
      ne_of_siblings siblings located walked
    refine content?_congr fun found => ⟨read_of_agree (fun others apart => (agree others apart).symm)
      ?_ elsewhere, read_of_agree agree (node?_ne_directory_of_put written) elsewhere⟩
    simp [changed]
  · cases written

theorem exists_of_isPresent (present : tree.isPresent path = true) :
    ∃ list, steps path = .ok list ∧ (tree.node? (reached [] list).reverse).isSome := by
  unfold isPresent lookup at present
  cases walked : steps path with
  | error cause => simp [walked, bind, Except.bind, Except.isOk, Except.toBool] at present
  | ok list =>
    cases followed : tree.follow [] list with
    | error cause => simp [walked, followed, bind, Except.bind, Except.isOk, Except.toBool] at present
    | ok goal =>
      refine ⟨list, rfl, ?_⟩
      rw [← (follow_eq_ok.mp followed).eq_reached]
      cases found : tree.find goal with
      | error cause =>
        simp [walked, followed, found, bind, Except.bind, Except.isOk, Except.toBool] at present
      | ok sub => simp [node?, found, Except.toOption]

/-- A file that was moved to another name is gone from the one it had. -/
theorem moved_rename {source target : String} (renamed : tree.rename source target = .ok after)
    (siblings : Path.Siblings source target) :
    files.content? after source = none ∧ after.isPresent source = false := by
  obtain ⟨old, new, content, moved, sourceLocated, located, read, file, put, rfl⟩ :=
    rename_cases renamed
  obtain ⟨list, walked, same, _, nonempty⟩ := exists_steps_of_locate sourceLocated
  have different : old ≠ new := same ▸ ne_of_siblings siblings.symm located walked
  have there : moved.node? old = some (.file content) := by
    rw [node?_put put, if_neg different, node?_of_read sourceLocated read]
  have gone := node?_remove nonempty there old
  rw [if_pos rfl] at gone
  rw [if_neg different]
  constructor
  · rw [Option.eq_none_iff_forall_ne_some]
    intro bytes held
    obtain ⟨other, goal, walkedToo, leads, found, _⟩ :=
      read_eq_ok.mp (Files.content?_eq_some.mp held)
    obtain rfl := Except.ok.inj (walked.symm.trans walkedToo)
    obtain rfl : goal = old := leads.eq_reached.trans same.symm
    rw [gone] at found
    cases found
  · rw [Bool.eq_false_iff]
    intro present
    obtain ⟨other, walkedToo, found⟩ := exists_of_isPresent present
    obtain rfl := Except.ok.inj (walked.symm.trans walkedToo)
    rw [← same, gone] at found
    cases found

/-- Trees that differ by directories where nothing was. -/
def Grown (tree after : FileTree) : Prop :=
  ∀ names, after.node? names = tree.node? names ∨
    tree.node? names = none ∧ after.node? names = some .directory

theorem Grown.refl (tree : FileTree) : Grown tree tree := fun _ => Or.inl rfl

theorem Grown.trans {between : FileTree} (first : Grown tree between)
    (second : Grown between after) : Grown tree after := by
  intro names
  rcases second names with same | ⟨nothing, directory⟩
  · rw [same]
    exact first names
  · rcases first names with kept | ⟨_, made⟩
    · exact Or.inr ⟨kept ▸ nothing, directory⟩
    · rw [made] at nothing
      cases nothing

theorem Grown.kept (grown : Grown tree after) {node : Node} (there : tree.node? names = some node) :
    after.node? names = some node := by
  rcases grown names with same | ⟨nothing, _⟩
  · rw [same, there]
  · rw [there] at nothing
    cases nothing

theorem grown_makeDirectory (made : tree.makeDirectory path = .ok after) : Grown tree after := by
  unfold makeDirectory at made
  obtain ⟨place, _, made⟩ := exists_of_bind_eq_ok made
  split at made
  · next names _ =>
    split at made
    · cases made
    · next missing =>
      have nothing : tree.node? names = none := by
        rw [node?, missing]
        rfl
      have leaf (name : String) (rest : List String) : empty.node? (name :: rest) = none := by
        simp [empty, node?_directory, entryUnder?]
      have changed := node?_put_leaf leaf made
      intro others
      rw [changed]
      by_cases same : others = names
      · rw [if_pos same, same]
        exact Or.inr ⟨nothing, rfl⟩
      · rw [if_neg same]
        exact Or.inl rfl
    · cases made
  · cases made

theorem grown_makeFirst {missing left paths : List String}
    (made : makeFirst missing paths tree = .ok (left, after)) : Grown tree after := by
  induction paths generalizing missing with
  | nil =>
    cases made
    exact .refl tree
  | cons path above ih =>
    unfold makeFirst at made
    split at made
    · next one =>
      cases made
      exact grown_makeDirectory one
    · exact ih made
    · split at made
      · cases made
        exact .refl tree
      · cases made

theorem grown_makeAll (paths : List String) (tree : FileTree) :
    Grown tree (makeAll paths tree).2 := by
  induction paths generalizing tree with
  | nil => exact .refl tree
  | cons path rest ih =>
    unfold makeAll
    split
    · next one => exact (grown_makeDirectory one).trans (ih _)
    · split
      · exact ih tree
      · exact .refl tree

theorem grown_makeDirectories (tree : FileTree) (path : String) :
    Grown tree (tree.makeDirectories path).2 := by
  unfold makeDirectories
  split
  · next made => exact (grown_makeFirst made).trans (grown_makeAll _ _)
  · exact .refl tree

theorem Grown.read (grown : Grown tree after) (read : tree.read path = .ok data) :
    after.read path = .ok data := by
  obtain ⟨list, goal, walked, leads, there, file⟩ := read_eq_ok.mp read
  have still := grown.kept there
  exact read_eq_ok.mpr ⟨list, goal, walked, leads.mono (fun _ => grown.kept) (by rw [still]; rfl),
    still, file⟩

theorem node?_of_isSome_append {name : String} (there : (tree.node? (names ++ [name])).isSome) :
    tree.node? names = some .directory := by
  induction names generalizing tree with
  | nil =>
    cases tree with
    | file data => simp [node?_file] at there
    | directory entries => exact node?_nil _
  | cons first rest ih =>
    cases tree with
    | file data => simp [node?_file] at there
    | directory entries =>
      rw [List.cons_append, node?_directory] at there
      obtain ⟨node, found⟩ := Option.isSome_iff_exists.mp there
      obtain ⟨child, under, below⟩ := Option.bind_eq_some_iff.mp found
      rw [node?_directory, under]
      exact ih (by rw [below]; rfl)

/-- What a path leads to after directories were made it led to before, if its end was there and all
that it goes back from. Going backwards along the path, each step finds that what it starts from
was there: it holds what the next one starts from, or the path goes back from it. -/
theorem Grown.leads (grown : Grown tree after) {list : List Step}
    (leads : Leads after.node? names list goal) (there : (tree.node? goal).isSome)
    (returns : ∀ front rest, list = front ++ .up :: rest →
      (tree.node? (reached names front).reverse).isSome) :
    (tree.node? names.reverse).isSome ∧ Leads tree.node? names list goal := by
  have directory {names : List String} (opened : after.node? names = some .directory)
      (there : (tree.node? names).isSome) : tree.node? names = some .directory := by
    obtain ⟨node, found⟩ := Option.isSome_iff_exists.mp there
    rw [found, ← opened, grown.kept found]
  induction list generalizing names with
  | nil =>
    have here : goal = names.reverse := leads
    exact ⟨here ▸ there, leads⟩
  | cons step rest ih =>
    cases step with
    | here =>
      obtain ⟨opened, onward⟩ := leads
      obtain ⟨present, later⟩ := ih onward fun front rest same =>
        returns (.here :: front) rest (by rw [same]; rfl)
      exact ⟨present, directory opened present, later⟩
    | up =>
      obtain ⟨opened, onward⟩ := leads
      have present := returns [] rest rfl
      obtain ⟨_, later⟩ := ih onward fun front rest same =>
        returns (.up :: front) rest (by rw [same]; rfl)
      exact ⟨present, directory opened present, later⟩
    | name name =>
      obtain ⟨opened, _, onward⟩ := leads
      obtain ⟨present, later⟩ := ih onward fun front rest same =>
        returns (.name name :: front) rest (by rw [same]; rfl)
      have holds := node?_of_isSome_append (List.reverse_cons ▸ present)
      exact ⟨by rw [holds]; rfl, holds, present, later⟩

theorem join_eq_nil {list : List (List Char)} (empty : Split.join '/' list = []) :
    list = [] ∨ list = [[]] := by
  match list with
  | [] => exact Or.inl rfl
  | [piece] => exact Or.inr (by rw [show piece = [] from empty])
  | piece :: next :: rest => simp [Split.join] at empty

theorem Step.eq_of_ofPiece?_eq_up {piece : List Char} (read : Step.ofPiece? piece = some .up) :
    piece = ['.', '.'] := by
  unfold Step.ofPiece? at read
  split at read
  · cases read
  · split at read
    · cases read
    · split at read
      · assumption
      · cases read

/-- What a path goes back from is there, if the path that ends before each `..` leads to
something. -/
theorem isSome_of_returns (returns : files.Returns tree path) {list front rest : List Step}
    (walked : steps path = .ok list) (whole : list = front ++ .up :: rest) :
    (tree.node? (reached [] front).reverse).isSome := by
  rw [steps_eq walked] at whole
  obtain ⟨early, late, pieces, rfl, onward⟩ := List.filterMap_eq_append_iff.mp whole
  obtain ⟨skipped, piece, further, rfl, nothing, read, _⟩ := List.filterMap_eq_cons_iff.mp onward
  obtain rfl := Step.eq_of_ofPiece?_eq_up read
  have before : (early ++ skipped).filterMap Step.ofPiece? = early.filterMap Step.ofPiece? := by
    rw [List.filterMap_append, List.filterMap_eq_nil_iff.mpr nothing, List.append_nil]
  rw [← before]
  by_cases empty : Split.join '/' (early ++ skipped) = []
  · have start : (early ++ skipped).filterMap Step.ofPiece? = [] := by
      rcases join_eq_nil empty with none | one
      · rw [none]
        rfl
      · rw [one]
        rfl
    rw [start]
    simp [reached, node?_nil]
  · have present := returns (early ++ skipped) further (by rw [pieces, List.append_assoc]) empty
    obtain ⟨found, walkedToo, there⟩ := exists_of_isPresent present
    have listed : early ++ skipped ≠ [] := by
      intro none
      exact empty (by rw [none]; rfl)
    have free (piece : List Char) (member : piece ∈ early ++ skipped) : '/' ∉ piece := by
      refine @Path.separator_not_mem_pieces path.toList _ ?_
      rw [pieces, ← List.append_assoc]
      exact List.mem_append_left _ member
    rw [steps_eq walkedToo, String.toList_ofList, Split.pieces_join listed free] at there
    exact there

theorem Grown.absent (grown : Grown tree after) (returns : files.Returns tree path)
    (absent : files.content? tree path = none) : files.content? after path = none := by
  rw [Option.eq_none_iff_forall_ne_some] at absent ⊢
  intro bytes held
  obtain ⟨list, goal, walked, leads, found, file⟩ := read_eq_ok.mp (Files.content?_eq_some.mp held)
  have there : tree.node? goal = some (.file bytes) := by
    rcases grown goal with same | ⟨_, directory⟩
    · rw [← same, found]
    · rw [directory] at found
      cases found
  have before := (grown.leads leads (by rw [there]; rfl) fun front rest whole =>
    isSome_of_returns returns walked whole).2
  exact absent bytes (Files.content?_eq_some.mpr
    (read_eq_ok.mpr ⟨list, goal, walked, before, there, file⟩))

theorem eq_of_change_eq_error {act : FileTree → Except IoFailure FileTree} {cause : IoFailure}
    (failed : (change act).run tree = (.error cause, after)) : after = tree := by
  cases result : act tree with
  | error other =>
    simp only [change, StateT.run, result] at failed
    exact (Prod.mk.inj failed).2.symm
  | ok later =>
    simp only [change, StateT.run, result] at failed
    cases failed

theorem orderly : files.Orderly where
  toFaithful := faithful
  kept_makeDirectories {directory path result before after} made bytes held := by
    have grown := grown_makeDirectories before directory
    rw [show (before.makeDirectories directory).2 = after from congrArg Prod.snd made] at grown
    exact Files.content?_eq_some.mpr (grown.read (Files.content?_eq_some.mp held))
  absent_makeDirectories {directory path result before after} made returns absent := by
    have grown := grown_makeDirectories before directory
    rw [show (before.makeDirectories directory).2 = after from congrArg Prod.snd made] at grown
    exact grown.absent returns absent
  kept_write {path other bytes result before after} written siblings := by
    cases result with
    | ok => exact kept_write (of_change_eq_ok written) siblings
    | error cause => rw [eq_of_change_eq_error written]
  kept_rename failed path := by rw [eq_of_change_eq_error failed]
  moved_rename renamed siblings := moved_rename (of_change_eq_ok renamed) siblings

end OfflineSite.FileTree
