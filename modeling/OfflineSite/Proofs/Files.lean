import OfflineSite.Proofs.FileTree
import OfflineSite.Proofs.Path.Extension

namespace OfflineSite.Files

variable {σ : Type} {files : Files (StateM σ)}

/-- The content of the file under a path, if there is one that can be read. -/
def content? (files : Files (StateM σ)) (disk : σ) (path : String) : Option ByteArray :=
  ((files.read path).run disk).1.toOption

theorem content?_eq_some {disk : σ} {path : String} {bytes : ByteArray} :
    files.content? disk path = some bytes ↔ ((files.read path).run disk).1 = .ok bytes := by
  unfold content?
  cases ((files.read path).run disk).1 <;> simp [Except.toOption]

/-- Whether everything that a path goes back from with `..` is there. -/
def Returns (files : Files (StateM σ)) (disk : σ) (path : String) : Prop :=
  ∀ front rest, Split.pieces (· == '/') path.toList = front ++ ['.', '.'] :: rest →
    Split.join '/' front ≠ [] →
    ((files.isPresent (String.ofList (Split.join '/' front))).run disk).1 = true

/-- A place where files are kept apart: the names of a directory are those of different files, as they
are where no file has a second name and no name is a link to another. So what is written under one of
them is nothing to the others (`kept_write`), and a file that is renamed is gone from where it was
(`moved_rename`). Writing may end anywhere, and making directories too; a rename is done as a whole or
not at all. -/
structure Orderly (files : Files (StateM σ)) : Prop extends files.Faithful where
  kept_makeDirectories {directory path : String} {result : Except IoFailure Unit}
    {before after : σ} (made : (files.makeDirectories directory).run before = (result, after))
    {bytes : ByteArray} (held : files.content? before path = some bytes) :
    files.content? after path = some bytes
  absent_makeDirectories {directory path : String} {result : Except IoFailure Unit}
    {before after : σ} (made : (files.makeDirectories directory).run before = (result, after))
    (returns : files.Returns before path) (absent : files.content? before path = none) :
    files.content? after path = none
  kept_write {path other : String} {bytes : ByteArray} {result : Except IoFailure Unit}
    {before after : σ} (written : (files.write path bytes).run before = (result, after))
    (siblings : Path.Siblings path other) : files.content? after other = files.content? before other
  kept_rename {source target : String} {cause : IoFailure} {before after : σ}
    (failed : (files.rename source target).run before = (.error cause, after)) (path : String) :
    files.content? after path = files.content? before path
  moved_rename {source target : String} {before after : σ}
    (renamed : (files.rename source target).run before = (.ok (), after))
    (siblings : Path.Siblings source target) :
    files.content? after source = none ∧ ((files.isPresent source).run after).1 = false

def full : IoFailure := .described "No space left on device"

def aside {α : Type} (act : StateM σ α) : StateM (List (Option Nat) × σ) α := fun place =>
  ((act.run place.2).1, place.1, (act.run place.2).2)

def planned (act : Option Nat → StateM σ (Except IoFailure Unit)) :
    StateM (List (Option Nat) × σ) (Except IoFailure Unit) := fun place =>
  (((act place.1.head?.join).run place.2).1, place.1.tail,
    ((act place.1.head?.join).run place.2).2)

/-- A place where operations go wrong by plan: each that changes files takes the next item of the
plan, and where that is a number it fails. Writing then leaves as many bytes as the number says, and
making directories may have made them. -/
def faulty (files : Files (StateM σ)) : Files (StateM (List (Option Nat) × σ)) where
  isPresent path := aside (files.isPresent path)
  read path := aside (files.read path)
  makeDirectories path := planned fun
    | none => files.makeDirectories path
    | some _ => fun disk => (.error full, ((files.makeDirectories path).run disk).2)
  write path bytes := planned fun
    | none => files.write path bytes
    | some size => fun disk => (.error full, ((files.write path (bytes.extract 0 size)).run disk).2)
  rename source target := planned fun
    | none => files.rename source target
    | some _ => fun disk => (.error full, disk)

variable {before after : List (Option Nat) × σ} {result : Except IoFailure Unit}

theorem makeDirectories_cases {path : String}
    (made : (files.faulty.makeDirectories path).run before = (result, after)) :
    ∃ inner, (files.makeDirectories path).run before.2 = (inner, after.2) := by
  cases made
  refine ⟨((files.makeDirectories path).run before.2).1, ?_⟩
  cases next : before.1.head?.join <;> rfl

theorem write_cases {path : String} {bytes : ByteArray}
    (written : (files.faulty.write path bytes).run before = (result, after)) :
    (files.write path bytes).run before.2 = (result, after.2) ∨
      result = .error full ∧ ∃ size inner,
        (files.write path (bytes.extract 0 size)).run before.2 = (inner, after.2) := by
  cases written
  cases next : before.1.head?.join with
  | none =>
    left
    rfl
  | some size =>
    exact Or.inr ⟨rfl, size, ((files.write path (bytes.extract 0 size)).run before.2).1, rfl⟩

theorem rename_cases {source target : String}
    (renamed : (files.faulty.rename source target).run before = (result, after)) :
    (files.rename source target).run before.2 = (result, after.2) ∨
      result = .error full ∧ after.2 = before.2 := by
  cases renamed
  cases next : before.1.head?.join with
  | none =>
    left
    rfl
  | some size =>
    right
    exact ⟨rfl, rfl⟩

/-- Files are as well kept apart where operations go wrong by plan. -/
theorem Orderly.faulty (orderly : files.Orderly) : files.faulty.Orderly where
  read_write written := by
    rcases write_cases written with done | ⟨broken, _⟩
    · exact orderly.read_write done
    · cases broken
  read_rename held renamed := by
    rcases rename_cases renamed with done | ⟨broken, _⟩
    · exact orderly.read_rename held done
    · cases broken
  kept_makeDirectories made bytes held := by
    obtain ⟨inner, done⟩ := makeDirectories_cases made
    exact orderly.kept_makeDirectories done held
  absent_makeDirectories made returns absent := by
    obtain ⟨inner, done⟩ := makeDirectories_cases made
    exact orderly.absent_makeDirectories done returns absent
  kept_write written siblings := by
    rcases write_cases written with done | ⟨_, size, inner, done⟩
    · exact orderly.kept_write done siblings
    · exact orderly.kept_write done siblings
  kept_rename {_ _ _ before after} failed path := by
    rcases rename_cases failed with done | ⟨_, unchanged⟩
    · exact orderly.kept_rename done path
    · exact congrArg (files.content? · path) unchanged
  moved_rename renamed siblings := by
    rcases rename_cases renamed with done | ⟨broken, _⟩
    · exact orderly.moved_rename done siblings
    · cases broken

end OfflineSite.Files
