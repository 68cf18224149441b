import Mathlib.Data.List.Basic
import OfflineSite.FileTree
import OfflineSite.Proofs.Result

namespace OfflineSite

/-- A place where what was written into a file is read from it, also after the file was renamed. -/
structure Files.Faithful {σ : Type} (files : Files (StateM σ)) : Prop where
  read_write {path : String} {bytes : ByteArray} {before after : σ}
    (written : (files.write path bytes).run before = (.ok (), after)) :
    ((files.read path).run after).1 = .ok bytes
  read_rename {source target : String} {bytes : ByteArray} {before after : σ}
    (held : ((files.read source).run before).1 = .ok bytes)
    (renamed : (files.rename source target).run before = (.ok (), after)) :
    ((files.read target).run after).1 = .ok bytes

namespace FileTree

/-- What names lead to. -/
inductive Node where
  | directory
  | file (data : ByteArray)

def node : FileTree → Node
  | .directory _ => .directory
  | .file data => .file data

/-- What is found under names, if anything is. -/
def node? (tree : FileTree) (names : List String) : Option Node :=
  (tree.find names).toOption.map node

variable {tree after : FileTree} {entries : List (String × FileTree)} {name : String}
  {names : List String} {data : ByteArray}

/-- The entry of a directory that is found under a name. -/
def entryUnder? (entries : List (String × FileTree)) (name : String) : Option FileTree :=
  if name.utf8ByteSize > 255 then none else entries.lookup name

theorem child?_eq_some {child : FileTree} :
    child? entries name = .ok (some child) ↔ entryUnder? entries name = some child := by
  unfold child? entryUnder?
  split <;> simp

theorem node?_nil (tree : FileTree) : tree.node? [] = some tree.node := by
  simp [node?, find, Except.toOption]

theorem node?_file (data : ByteArray) (name : String) (rest : List String) :
    (FileTree.file data).node? (name :: rest) = none := by
  simp [node?, find, Except.toOption]

theorem node?_directory (entries : List (String × FileTree)) (name : String)
    (rest : List String) :
    (FileTree.directory entries).node? (name :: rest) =
      (entryUnder? entries name).bind fun child => child.node? rest := by
  unfold node? entryUnder?
  rw [find, child?]
  split
  · rfl
  · cases entries.lookup name <;> rfl

theorem entryUnder?_filter (entries : List (String × FileTree)) (name other : String) :
    entryUnder? (entries.filter (·.1 != name)) other =
      if other = name then none else entryUnder? entries other := by
  have found : (entries.filter (·.1 != name)).lookup other =
      if other = name then none else entries.lookup other := by
    induction entries with
    | nil => simp
    | cons first rest ih =>
      obtain ⟨key, child⟩ := first
      by_cases there : other = key
      · subst there
        by_cases same : other = name
        · rw [List.filter_cons_of_neg (by simpa using same), ih, if_pos same, if_pos same]
        · rw [List.filter_cons_of_pos (by simpa using same), List.lookup_cons_self, if_neg same,
            List.lookup_cons_self]
      · have absent : (other == key) = false := by simpa using there
        by_cases same : key = name
        · rw [List.filter_cons_of_neg (by simpa using same), ih, List.lookup_cons, absent]
        · rw [List.filter_cons_of_pos (by simpa using same), List.lookup_cons, List.lookup_cons, ih,
            absent]
  unfold entryUnder?
  rw [found]
  split
  · simp
  · rfl

theorem entryUnder?_set (fits : name.utf8ByteSize ≤ 255) (entries : List (String × FileTree))
    (child : FileTree) (other : String) :
    entryUnder? ((name, child) :: entries.filter (·.1 != name)) other =
      if other = name then some child else entryUnder? entries other := by
  by_cases same : other = name
  · rw [if_pos same, same, entryUnder?, if_neg (Nat.not_lt.mpr fits), List.lookup_cons_self]
  · have absent : (other == name) = false := by simpa using same
    have kept := entryUnder?_filter entries name other
    rw [if_neg same] at kept ⊢
    rw [← kept, entryUnder?, List.lookup_cons, absent, entryUnder?]

theorem node?_setChild (fits : name.utf8ByteSize ≤ 255) (entries : List (String × FileTree))
    (child : FileTree) (others : List String) :
    (setChild entries name child).node? others =
      match others with
      | [] => some .directory
      | other :: rest =>
        if other = name then child.node? rest
        else (FileTree.directory entries).node? (other :: rest) := by
  cases others with
  | nil => rw [node?_nil]; rfl
  | cons other rest =>
    rw [setChild, node?_directory, entryUnder?_set fits]
    by_cases same : other = name
    · simp only [same, if_true, Option.bind_some]
    · simp only [same, if_false, node?_directory]

/-- What it takes to put an entry: a directory, and in it either a place for it or a way on. -/
theorem put_cases {entry : FileTree} (done : put entry names tree = .ok after) :
    ∃ name rest entries, names = name :: rest ∧ tree = .directory entries ∧
      name.utf8ByteSize ≤ 255 ∧
      (rest = [] ∧ (∀ inner, entryUnder? entries name ≠ some (.directory inner)) ∧
          after = setChild entries name entry ∨
        ∃ child changed, rest ≠ [] ∧ entryUnder? entries name = some child ∧
          put entry rest child = .ok changed ∧ after = setChild entries name changed) := by
  obtain ⟨name, rest, rfl⟩ : ∃ name rest, names = name :: rest := by
    cases names with
    | nil => cases done
    | cons name rest => exact ⟨name, rest, rfl⟩
  obtain ⟨entries, rfl⟩ : ∃ entries, tree = .directory entries := by
    cases tree with
    | file data => cases rest <;> cases done
    | directory entries => exact ⟨entries, rfl⟩
  by_cases long : name.utf8ByteSize > 255
  · cases rest <;> simp only [put, child?, long, if_true] at done <;> cases done
  · refine ⟨name, rest, entries, rfl, rfl, Nat.not_lt.mp long, ?_⟩
    have under : entryUnder? entries name = entries.lookup name := if_neg long
    rw [under]
    cases rest with
    | nil =>
      simp only [put, child?, long, if_false, bind, Except.bind] at done
      split at done
      · cases done
      · next other => exact Or.inl ⟨rfl, other, (Except.ok.inj done).symm⟩
    | cons next rest =>
      simp only [put, child?, long, if_false, bind, Except.bind] at done
      split at done
      · next child found =>
        split at done
        · cases done
        · next changed inner =>
          exact Or.inr ⟨child, changed, by simp, found, inner, (Except.ok.inj done).symm⟩
      · cases done

/-- Putting an entry with nothing below it changes what is at its own place and nothing else. -/
theorem node?_put_leaf {entry : FileTree}
    (leaf : ∀ name rest, entry.node? (name :: rest) = none)
    (done : put entry names tree = .ok after) (others : List String) :
    after.node? others = if others = names then some entry.node else tree.node? others := by
  induction names generalizing tree after others with
  | nil => cases done
  | cons first more ih =>
    obtain ⟨name, rest, entries, same, rfl, fits, placed⟩ := put_cases done
    obtain ⟨rfl, rfl⟩ := List.cons.inj same
    rcases placed with ⟨rfl, notDirectory, rfl⟩ | ⟨child, changed, _, found, inner, rfl⟩
    · rw [node?_setChild fits]
      cases others with
      | nil => simp [node?_nil, node]
      | cons other later =>
        by_cases here : other = first
        · subst here
          cases later with
          | nil => simp [node?_nil]
          | cons next rest =>
            -- Nothing was below a place where an entry may be put.
            have nothing : (FileTree.directory entries).node? (other :: next :: rest) = none := by
              rw [node?_directory]
              cases there : entryUnder? entries other with
              | none => rfl
              | some child =>
                cases child with
                | file old => exact node?_file old next rest
                | directory inner => exact absurd there (notDirectory inner)
            simp [leaf, nothing]
        · simp [here]
    · rw [node?_setChild fits]
      cases others with
      | nil => simp [node?_nil, node]
      | cons other later =>
        by_cases here : other = first
        · subst here
          rw [node?_directory, found]
          simp only [if_true, Option.bind_some, ih inner later, List.cons.injEq, true_and]
        · simp [here]

theorem node?_put (done : put (.file data) names tree = .ok after) (others : List String) :
    after.node? others = if others = names then some (.file data) else tree.node? others :=
  node?_put_leaf (node?_file data) done others

theorem node?_ne_directory_of_put (done : put (.file data) names tree = .ok after) :
    tree.node? names ≠ some .directory := by
  induction names generalizing tree after with
  | nil => cases done
  | cons first more ih =>
    obtain ⟨name, rest, entries, same, rfl, _, placed⟩ := put_cases done
    obtain ⟨rfl, rfl⟩ := List.cons.inj same
    rw [node?_directory]
    rcases placed with ⟨rfl, notDirectory, _⟩ | ⟨child, changed, _, found, inner, _⟩
    · cases there : entryUnder? entries first with
      | none => simp
      | some child =>
        cases child with
        | file old => simp [node?_nil, node]
        | directory inner => exact absurd there (notDirectory inner)
    · rw [found]
      exact ih inner

theorem entryUnder?_map (entries : List (String × FileTree)) (name other : String)
    (change : FileTree → FileTree) :
    entryUnder? (entries.map fun (n, tree) => if n == name then (n, change tree) else (n, tree))
        other =
      if other = name then (entryUnder? entries other).map change
      else entryUnder? entries other := by
  have found : (entries.map fun (n, tree) => if n == name then (n, change tree) else
      (n, tree)).lookup other =
      if other = name then (entries.lookup other).map change else entries.lookup other := by
    induction entries with
    | nil => simp
    | cons first rest ih =>
      obtain ⟨key, child⟩ := first
      by_cases there : other = key
      · subst there
        by_cases same : other = name
        · simp [same]
        · simp [same]
      · have absent : (other == key) = false := by simpa using there
        have front : (if key == name then (key, change child) else (key, child)).1 = key := by
          split <;> rfl
        rw [List.map_cons, List.lookup_cons, front, absent, ih, List.lookup_cons, absent]
  unfold entryUnder?
  rw [found]
  split
  · simp
  · rfl

theorem node?_remove (nonempty : names ≠ []) (there : tree.node? names = some (.file data))
    (others : List String) :
    (remove names tree).node? others = if others = names then none else tree.node? others := by
  induction names generalizing tree others with
  | nil => exact absurd rfl nonempty
  | cons name rest ih =>
    obtain ⟨entries, rfl⟩ : ∃ entries, tree = .directory entries := by
      cases tree with
      | file old => rw [node?_file] at there; cases there
      | directory entries => exact ⟨entries, rfl⟩
    rw [node?_directory] at there
    obtain ⟨child, found, below⟩ := Option.bind_eq_some_iff.mp there
    cases rest with
    | nil =>
      rw [remove]
      cases others with
      | nil => simp [node?_nil, node]
      | cons other later =>
        rw [node?_directory, node?_directory, entryUnder?_filter]
        by_cases here : other = name
        · subst here
          rw [found]
          cases later with
          | nil => simp
          | cons next rest =>
            -- A file is removed, so nothing was below it.
            cases child with
            | file old => simp [node?_file]
            | directory inner => simp [node?_nil, node] at below
        · simp [here]
    | cons next rest =>
      have removed : remove (name :: next :: rest) (.directory entries) = .directory
          (entries.map fun (n, tree) => if n == name then (n, remove (next :: rest) tree)
            else (n, tree)) := rfl
      rw [removed]
      cases others with
      | nil => simp [node?_nil, node]
      | cons other later =>
        rw [node?_directory, node?_directory, entryUnder?_map]
        by_cases here : other = name
        · subst here
          simp only [if_true, found, Option.map_some, Option.bind_some, List.cons.injEq, true_and]
          exact ih (by simp) below later
        · simp [here]

/-- Whether steps from some names lead to others. -/
def Leads (node? : List String → Option Node) : List String → List Step → List String → Prop
  | names, [], goal => goal = names.reverse
  | names, .here :: rest, goal =>
    node? names.reverse = some .directory ∧ Leads node? names rest goal
  | names, .up :: rest, goal =>
    node? names.reverse = some .directory ∧ Leads node? names.tail rest goal
  | names, .name name :: rest, goal =>
    node? names.reverse = some .directory ∧ (node? (name :: names).reverse).isSome ∧
      Leads node? (name :: names) rest goal

theorem entries_eq_ok :
    tree.entries names = .ok entries ↔ tree.find names = .ok (.directory entries) := by
  unfold FileTree.entries
  cases found : tree.find names with
  | error cause => simp [bind, Except.bind]
  | ok sub => cases sub <;> simp [bind, Except.bind, pure, Except.pure]

theorem node?_eq_directory :
    tree.node? names = some .directory ↔ ∃ entries, tree.entries names = .ok entries := by
  simp only [entries_eq_ok]
  unfold node?
  cases found : tree.find names with
  | error cause => simp [Except.toOption]
  | ok sub => cases sub <;> simp [Except.toOption, node]

theorem node?_append {sub : FileTree} (found : tree.find names = .ok sub) (rest : List String) :
    tree.node? (names ++ rest) = sub.node? rest := by
  induction names generalizing tree with
  | nil =>
    obtain rfl := Except.ok.inj found
    rfl
  | cons name names ih =>
    cases tree with
    | file data => cases found
    | directory entries =>
      rw [List.cons_append, node?_directory]
      rw [find] at found
      cases under : child? entries name with
      | error cause =>
        rw [under] at found
        cases found
      | ok child =>
        rw [under] at found
        cases child with
        | none => cases found
        | some child =>
          rw [child?_eq_some.mp under]
          exact ih found

theorem follow_eq_ok {steps : List Step} {goal : List String} :
    tree.follow names steps = .ok goal ↔ Leads tree.node? names steps goal := by
  induction steps generalizing names with
  | nil =>
    rw [follow, Leads]
    constructor
    · exact fun same => (Except.ok.inj same).symm
    · exact fun same => congrArg Except.ok same.symm
  | cons step rest ih =>
    rw [follow]
    cases opened : tree.entries names.reverse with
    | error cause =>
      have closed : tree.node? names.reverse ≠ some .directory := by
        intro directory
        obtain ⟨entries, other⟩ := node?_eq_directory.mp directory
        rw [opened] at other
        cases other
      cases step <;> simp [bind, Except.bind, Leads, closed]
    | ok entries =>
      have directory := node?_eq_directory.mpr ⟨entries, opened⟩
      cases step with
      | here => simpa [bind, Except.bind, Leads, directory] using ih
      | up => simpa [bind, Except.bind, Leads, directory] using ih
      | name name =>
        have under : tree.node? (name :: names).reverse = (entryUnder? entries name).map node := by
          rw [List.reverse_cons, node?_append (entries_eq_ok.mp opened), node?_directory]
          cases entryUnder? entries name with
          | none => rfl
          | some child => exact node?_nil child
        rw [Leads, under]
        cases there : entryUnder? entries name with
        | some child => simp [bind, Except.bind, child?_eq_some.mpr there, directory, ih]
        | none =>
          have missing (child : FileTree) : child? entries name ≠ .ok (some child) := by
            intro found
            rw [child?_eq_some.mp found] at there
            cases there
          cases found : child? entries name with
          | error cause => simp [bind, Except.bind, found]
          | ok child =>
            cases child with
            | none => simp [bind, Except.bind, found]
            | some child => exact absurd found (missing child)

namespace Leads

variable {node? other? : List String → Option Node} {steps : List Step} {goal : List String}

/-- Every directory on the way is there elsewhere too, so only what is at the end matters. -/
theorem mono (leads : Leads node? names steps goal)
    (directories : ∀ names, node? names = some .directory → other? names = some .directory)
    (there : (other? goal).isSome) : Leads other? names steps goal := by
  induction steps generalizing names with
  | nil => exact leads
  | cons step rest ih =>
    cases step with
    | here => exact ⟨directories _ leads.1, ih leads.2⟩
    | up => exact ⟨directories _ leads.1, ih leads.2⟩
    | name name =>
      obtain ⟨directory, _, onward⟩ := leads
      refine ⟨directories _ directory, ?_, ih onward⟩
      cases rest with
      | nil => exact onward ▸ there
      | cons next rest =>
        have on : node? (name :: names).reverse = some .directory := by
          cases next <;> exact onward.1
        rw [directories _ on]
        rfl

theorem snoc {name : String} :
    Leads node? names (steps ++ [.name name]) goal ↔
      ∃ directory, Leads node? names steps directory ∧ node? directory = some .directory ∧
        (node? goal).isSome ∧ goal = directory ++ [name] := by
  induction steps generalizing names with
  | nil =>
    simp only [List.nil_append, Leads, List.reverse_cons]
    constructor
    · rintro ⟨directory, there, rfl⟩
      exact ⟨_, rfl, directory, there, rfl⟩
    · rintro ⟨_, rfl, directory, there, rfl⟩
      exact ⟨directory, there, rfl⟩
  | cons step rest ih =>
    cases step <;> simp only [List.cons_append, Leads, ih, exists_and_left, and_assoc]

end Leads

theorem node?_eq_file :
    tree.node? names = some (.file data) ↔ tree.find names = .ok (.file data) := by
  unfold node?
  cases found : tree.find names with
  | error cause => simp [Except.toOption]
  | ok sub => cases sub <;> simp [Except.toOption, node]

theorem read_eq_ok {path : String} :
    tree.read path = .ok data ↔ ∃ list goal, steps path = .ok list ∧
      Leads tree.node? [] list goal ∧ tree.node? goal = some (.file data) ∧
      demandsDirectory path = false := by
  simp only [← follow_eq_ok, node?_eq_file]
  unfold read lookup
  cases walked : steps path with
  | error cause => simp [bind, Except.bind]
  | ok list =>
    cases followed : tree.follow [] list with
    | error cause => simp [bind, Except.bind, followed]
    | ok goal =>
      cases found : tree.find goal with
      | error cause => simp [bind, Except.bind, followed, found]
      | ok sub =>
        cases sub with
        | directory entries => simp [bind, Except.bind, followed, found, pure, Except.pure]
        | file old =>
          cases demandsDirectory path <;>
            simp [bind, Except.bind, followed, found, pure, Except.pure]

theorem of_locate_eq_ok {path : String} (located : tree.locate path = .ok (some names)) :
    ∃ front directory name, steps path = .ok (front ++ [.name name]) ∧
      Leads tree.node? [] front directory ∧ tree.node? directory = some .directory ∧
      names = directory ++ [name] := by
  unfold locate at located
  obtain ⟨list, walked, located⟩ := exists_of_bind_eq_ok located
  obtain ⟨directory, followed, located⟩ := exists_of_bind_eq_ok located
  obtain ⟨entries, opened, located⟩ := exists_of_bind_eq_ok located
  split at located
  · next name last =>
    have whole : list = list.dropLast ++ [.name name] :=
      (List.dropLast_append_getLast? _ last).symm
    exact ⟨list.dropLast, directory, name, whole ▸ walked, follow_eq_ok.mp followed,
      node?_eq_directory.mpr ⟨entries, opened⟩, (Option.some.inj (Except.ok.inj located)).symm⟩
  · cases located

/-- A file that is where a path led before is read under it, as long as the directories are
there. -/
theorem read_of_located {path : String} (located : tree.locate path = .ok (some names))
    (file : demandsDirectory path = false)
    (directories : ∀ names, tree.node? names = some .directory →
      after.node? names = some .directory)
    (there : after.node? names = some (.file data)) : after.read path = .ok data := by
  obtain ⟨front, directory, name, walked, leads, opened, rfl⟩ := of_locate_eq_ok located
  have still := directories directory opened
  have onward : Leads after.node? [] front directory := leads.mono directories (by rw [still]; rfl)
  have reached : Leads after.node? [] (front ++ [.name name]) (directory ++ [name]) :=
    Leads.snoc.mpr ⟨directory, onward, still, by rw [there]; rfl, rfl⟩
  exact read_eq_ok.mpr ⟨_, _, walked, reached, there, file⟩

theorem read_write {path : String} (written : tree.write path data = .ok after) :
    after.read path = .ok data := by
  unfold write at written
  obtain ⟨place, located, written⟩ := exists_of_bind_eq_ok written
  split at written
  · next names file =>
    have changed := node?_put written
    refine read_of_located located file (fun others opened => ?_) (by rw [changed, if_pos rfl])
    rw [changed, if_neg, opened]
    rintro rfl
    exact node?_ne_directory_of_put written opened
  · cases written

/-- A file that is moved is put in its new place, and taken from its old one if that is another. -/
theorem rename_cases {source target : String} (renamed : tree.rename source target = .ok after) :
    ∃ old new data moved,
      tree.locate source = .ok (some old) ∧ tree.locate target = .ok (some new) ∧
      tree.read source = .ok data ∧ demandsDirectory target = false ∧
      put (.file data) new tree = .ok moved ∧
      after = if old = new then moved else remove old moved := by
  unfold rename at renamed
  obtain ⟨sourcePlace, sourceLocated, renamed⟩ := exists_of_bind_eq_ok renamed
  obtain ⟨place, located, renamed⟩ := exists_of_bind_eq_ok renamed
  split at renamed
  · next old new _ =>
    obtain ⟨data, read, renamed⟩ := exists_of_bind_eq_ok renamed
    have rest : (do
        if demandsDirectory target then throw .notADirectory
        let moved ← put (.file data) new tree
        return if old = new then moved else moved.remove old : Except IoFailure FileTree) =
          .ok after := by
      cases found : tree.find new with
      | ok entry =>
        rw [found] at renamed
        exact renamed
      | error cause =>
        rw [found] at renamed
        cases cause with
        | nameTooLong => cases renamed
        | _ => exact renamed
    cases file : demandsDirectory target with
    | true =>
      rw [file] at rest
      cases rest
    | false =>
      rw [file] at rest
      obtain ⟨moved, placed, rest⟩ := exists_of_bind_eq_ok rest
      exact ⟨old, new, data, moved, sourceLocated, located, read, rfl, placed,
        (Except.ok.inj rest).symm⟩
  · cases renamed

theorem node?_of_read {path : String} (located : tree.locate path = .ok (some names))
    (read : tree.read path = .ok data) : tree.node? names = some (.file data) := by
  obtain ⟨list, goal, walked, leads, there, _⟩ := read_eq_ok.mp read
  obtain ⟨front, directory, name, walkedToo, onward, _, rfl⟩ := of_locate_eq_ok located
  obtain rfl := Except.ok.inj (walked.symm.trans walkedToo)
  obtain ⟨found, leadsToo, _, _, rfl⟩ := Leads.snoc.mp leads
  have same := (follow_eq_ok.mpr leadsToo).symm.trans (follow_eq_ok.mpr onward)
  rwa [Except.ok.inj same] at there

theorem read_rename {source target : String} (held : tree.read source = .ok data)
    (renamed : tree.rename source target = .ok after) : after.read target = .ok data := by
  obtain ⟨old, new, content, moved, sourceLocated, located, read, file, put, rfl⟩ :=
    rename_cases renamed
  obtain rfl := Except.ok.inj (held.symm.trans read)
  have sourceThere := node?_of_read sourceLocated held
  have changed := node?_put put
  have other (names : List String) (opened : tree.node? names = some .directory) : names ≠ new := by
    rintro rfl
    exact node?_ne_directory_of_put put opened
  by_cases same : old = new
  · rw [if_pos same]
    refine read_of_located located file (fun names opened => ?_) (by rw [changed, if_pos rfl])
    rw [changed, if_neg (other names opened), opened]
  · rw [if_neg same]
    have nonempty : old ≠ [] := by
      obtain ⟨_, directory, name, _, _, _, rfl⟩ := of_locate_eq_ok sourceLocated
      simp
    have there : moved.node? old = some (.file data) := by rw [changed, if_neg same, sourceThere]
    have removed := node?_remove nonempty there
    refine read_of_located located file (fun names opened => ?_) ?_
    · rw [removed, if_neg, changed, if_neg (other names opened), opened]
      rintro rfl
      rw [sourceThere] at opened
      cases opened
    · rw [removed, if_neg (Ne.symm same), changed, if_pos rfl]

theorem of_change_eq_ok {act : FileTree → Except IoFailure FileTree}
    (done : (change act).run tree = (.ok (), after)) : act tree = .ok after := by
  cases result : act tree with
  | error cause =>
    simp only [change, StateT.run, result] at done
    cases done
  | ok later =>
    simp only [change, StateT.run, result] at done
    exact congrArg Except.ok (Prod.mk.inj done).2

/-- Trees of files keep what is written into them. -/
theorem faithful : files.Faithful where
  read_write written := read_write (of_change_eq_ok written)
  read_rename held renamed := read_rename held (of_change_eq_ok renamed)

end FileTree

end OfflineSite
