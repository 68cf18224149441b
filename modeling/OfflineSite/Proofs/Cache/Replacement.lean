import OfflineSite.Proofs.Cache.Persistence
import OfflineSite.Proofs.FileTree.Orderly

namespace OfflineSite

namespace Cache.Storage

variable {σ : Type} {files : Files (StateM σ)}

theorem siblings_temporaryPath {path : String} {name : List Char}
    (named : Path.fileName? path = some name) : Path.Siblings path (temporaryPath path) :=
  Path.siblings_withExtension named (by decide) (by decide) (by decide)

/-- Whatever comes of a save, the file under the path stays as it was until the new snapshot is
there as a whole. A save that fails changes nothing about it; where there was none there is none,
unless the path goes back with `..` from what only the save made. After one that succeeds it is the
snapshot, and the temporary file, which is never the same, is gone. -/
theorem saved_whole_or_kept (orderly : files.Orderly) (storage : Storage) {path : String}
    {name : List Char} (named : Path.fileName? path = some name) (now : Timestamp) :
    temporaryPath path ≠ path ∧
      ∀ before result after, (storage.save files path now).run.run before = (result, after) →
        (∀ cause, result = .error cause →
          (∀ bytes, files.content? before path = some bytes →
            files.content? after path = some bytes) ∧
          (files.content? before path = none → files.Returns before path →
            files.content? after path = none)) ∧
        ∀ left, result = .ok left → left = storage ∧
          files.content? after path = some (Snapshot.ofStorage storage now).toml.toUTF8 ∧
          files.content? after (temporaryPath path) = none ∧
          ((files.isPresent (temporaryPath path)).run after).1 = false := by
  have siblings := (siblings_temporaryPath named).symm
  refine ⟨siblings.ne, fun before result after saved => ?_⟩
  rcases save_cases saved with ⟨directory, reason, rfl, failed⟩ |
    ⟨made, making, outcome, replaced, rfl⟩
  · refine ⟨fun _ _ => ⟨fun bytes held => orderly.kept_makeDirectories failed held,
      fun absent returns => orderly.absent_makeDirectories failed returns absent⟩, ?_⟩
    intro left same
    cases same
  have kept {bytes : ByteArray} (held : files.content? before path = some bytes) :
      files.content? made path = some bytes := by
    rcases making with rfl | ⟨directory, making⟩
    · exact held
    · exact orderly.kept_makeDirectories making held
  have absent (absent : files.content? before path = none) (returns : files.Returns before path) :
      files.content? made path = none := by
    rcases making with rfl | ⟨directory, making⟩
    · exact absent
    · exact orderly.absent_makeDirectories making returns absent
  -- Up to the rename, only the temporary file differs.
  have fails (same : files.content? after path = files.content? made path) :
      (∀ bytes, files.content? before path = some bytes →
        files.content? after path = some bytes) ∧
      (files.content? before path = none → files.Returns before path →
        files.content? after path = none) :=
    ⟨fun bytes held => same.trans (kept held), fun none returns => same.trans (absent none returns)⟩
  rcases replace_cases replaced with ⟨reason, rfl, failed⟩ |
    ⟨written, wrote, ⟨reason, rfl, failed⟩ | ⟨rfl, renamed⟩⟩
  · refine ⟨fun _ _ => fails (orderly.kept_write failed siblings), ?_⟩
    intro left same
    cases same
  · refine ⟨fun _ _ => fails ?_, ?_⟩
    · rw [orderly.kept_rename failed, orderly.kept_write wrote siblings]
    · intro left same
      cases same
  · refine ⟨?_, ?_⟩
    · intro cause same
      cases same
    · intro left same
      obtain rfl := Except.ok.inj same
      have whole := orderly.read_rename (orderly.read_write wrote) renamed
      exact ⟨rfl, Files.content?_eq_some.mpr whole, orderly.moved_rename renamed siblings⟩

namespace Kept

def folderPath : String := "kept/cache.toml"

/-- The first save succeeds, and of the second file five bytes are written. -/
def plan : List (Option Nat) := [none, none, none, none, some 5]

def first : Except Failure Storage × List (Option Nat) × FileTree :=
  (twoStores.save FileTree.files.faulty folderPath noon).run.run (plan, FileTree.empty)

def second : Except Failure Storage × List (Option Nat) × FileTree :=
  (Storage.empty.save FileTree.files.faulty folderPath noon).run.run first.2

end Kept

open Kept in
/-- A disk that runs full while the temporary file of a second save is written. -/
theorem full_disk_keeps_snapshot :
    (∃ left, first.1 = .ok left) ∧ (∃ cause, second.1 = .error cause) ∧
      FileTree.files.faulty.content? first.2 folderPath =
        some (Snapshot.ofStorage twoStores noon).toml.toUTF8 ∧
      FileTree.files.faulty.content? first.2 (temporaryPath folderPath) = none ∧
      (FileTree.files.faulty.content? second.2 (temporaryPath folderPath)).isSome ∧
      FileTree.files.faulty.content? second.2 folderPath =
        some (Snapshot.ofStorage twoStores noon).toml.toUTF8 := by
  have orderly := FileTree.orderly.faulty
  have named : Path.fileName? folderPath = some "cache.toml".toList := by decide +kernel
  have succeeds : first.1.isOk = true := by decide +kernel
  have fails : second.1.isOk = false := by decide +kernel
  obtain ⟨left, saved⟩ : ∃ left, first.1 = .ok left := by
    cases outcome : first.1 with
    | error cause =>
      rw [outcome] at succeeds
      cases succeeds
    | ok left => exact ⟨left, rfl⟩
  obtain ⟨cause, failed⟩ : ∃ cause, second.1 = .error cause := by
    cases outcome : second.1 with
    | error cause => exact ⟨cause, rfl⟩
    | ok left =>
      rw [outcome] at fails
      cases fails
  have firstRun : (twoStores.save FileTree.files.faulty folderPath noon).run.run
      (plan, FileTree.empty) = (first.1, first.2) := rfl
  have secondRun : (Storage.empty.save FileTree.files.faulty folderPath noon).run.run first.2 =
      (second.1, second.2) := rfl
  obtain ⟨_, whole, gone, _⟩ :=
    ((saved_whole_or_kept orderly twoStores named noon).2 _ _ _ firstRun).2 left saved
  have kept := ((saved_whole_or_kept orderly .empty named noon).2 _ _ _ secondRun).1 cause failed
  exact ⟨⟨left, saved⟩, ⟨cause, failed⟩, whole, gone, by decide +kernel, kept.1 _ whole⟩

namespace Detour

def path : String := "cache.toml.tmp/../cache.toml"

def disk : FileTree := .directory [("cache.toml", .file "kept".toUTF8)]

def saved : Except Failure Storage × FileTree :=
  (Storage.empty.save FileTree.files path Kept.noon).run.run disk

end Detour

open Detour in
/-- A save that fails may leave the directory that a path goes back from, and so give the path a
file that it did not have. -/
theorem detour_opened :
    Path.fileName? path = some "cache.toml".toList ∧
      FileTree.files.content? disk path = none ∧
      saved.1.isOk = false ∧
      FileTree.files.content? saved.2 path = some "kept".toUTF8 := by
  refine ⟨by decide +kernel, by decide +kernel, by decide +kernel, by decide +kernel⟩

end Cache.Storage

end OfflineSite
