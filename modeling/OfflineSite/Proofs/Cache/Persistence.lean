import OfflineSite.Cache.Persistence
import OfflineSite.Proofs.Cache.Snapshot
import OfflineSite.Proofs.FileTree

namespace OfflineSite

theorem textOf_toUTF8 (text : String) : textOf text.toUTF8 = .ok text := by
  simp only [textOf, fromUTF8?_toUTF8]

theorem run_bind_cases {σ α β : Type} {first : ExceptT Failure (StateM σ) α}
    {rest : α → ExceptT Failure (StateM σ) β} {result : Except Failure β} {before after : σ}
    (ended : (first >>= rest).run.run before = (result, after)) :
    (∃ cause, first.run.run before = (.error cause, after) ∧ result = .error cause) ∨
      ∃ value between, first.run.run before = (.ok value, between) ∧
        (rest value).run.run between = (result, after) := by
  rw [ExceptT.run_bind, StateT.run_bind] at ended
  generalize first.run.run before = outcome at ended
  obtain ⟨cause | value, between⟩ := outcome
  · obtain ⟨rfl, rfl⟩ := Prod.mk.inj ended
    exact Or.inl ⟨cause, rfl, rfl⟩
  · exact Or.inr ⟨value, between, rfl, ended⟩

theorem run_bind_of_ok {σ α β : Type} {first : ExceptT Failure (StateM σ) α}
    {rest : α → ExceptT Failure (StateM σ) β} {value : α} {before between : σ}
    (ended : first.run.run before = (.ok value, between)) :
    (first >>= rest).run.run before = (rest value).run.run between := by
  rw [ExceptT.run_bind, StateT.run_bind, ended]
  rfl

theorem run_attempt {σ α : Type} (act : StateM σ (Except IoFailure α)) (before : σ) :
    (attempt act).run.run before = ((act.run before).1.mapError .io, (act.run before).2) :=
  rfl

theorem of_attempt_ok {σ α : Type} {act : StateM σ (Except IoFailure α)} {value : α}
    {before after : σ} (ended : (attempt act).run.run before = (.ok value, after)) :
    act.run before = (.ok value, after) := by
  rw [run_attempt] at ended
  generalize act.run before = outcome at ended
  obtain ⟨cause | result, between⟩ := outcome
  · cases ended
  · cases ended
    rfl

theorem of_attempt_error {σ α : Type} {act : StateM σ (Except IoFailure α)} {cause : Failure}
    {before after : σ} (ended : (attempt act).run.run before = (.error cause, after)) :
    ∃ reason, cause = .io reason ∧ act.run before = (.error reason, after) := by
  rw [run_attempt] at ended
  generalize act.run before = outcome at ended
  obtain ⟨reason | result, between⟩ := outcome
  · cases ended
    exact ⟨reason, rfl, rfl⟩
  · cases ended

namespace Cache.Storage

variable {σ : Type} {files : Files (StateM σ)} {path : String} {before after : σ}

/-- Replacing a file stops at the temporary one, at the rename, or not at all. -/
theorem replace_cases {bytes : ByteArray} {result : Except Failure Unit}
    (replaced : (replace files path bytes).run.run before = (result, after)) :
    (∃ reason, result = .error (.io reason) ∧
      (files.write (temporaryPath path) bytes).run before = (.error reason, after)) ∨
    ∃ written, (files.write (temporaryPath path) bytes).run before = (.ok (), written) ∧
      ((∃ reason, result = .error (.io reason) ∧
          (files.rename (temporaryPath path) path).run written = (.error reason, after)) ∨
        result = .ok () ∧
          (files.rename (temporaryPath path) path).run written = (.ok (), after)) := by
  rcases run_bind_cases replaced with ⟨cause, failed, rfl⟩ | ⟨_, written, wrote, renamed⟩
  · obtain ⟨reason, rfl, stopped⟩ := of_attempt_error failed
    exact Or.inl ⟨reason, rfl, stopped⟩
  · refine Or.inr ⟨written, of_attempt_ok wrote, ?_⟩
    cases result with
    | error cause =>
      obtain ⟨reason, rfl, failed⟩ := of_attempt_error renamed
      exact Or.inl ⟨reason, rfl, failed⟩
    | ok => exact Or.inr ⟨rfl, of_attempt_ok renamed⟩

/-- Saving stops at making directories, or ends as replacing the file ends. -/
theorem save_cases {storage : Storage} {now : Timestamp} {result : Except Failure Storage}
    (saved : (storage.save files path now).run.run before = (result, after)) :
    (∃ directory reason, result = .error (.io reason) ∧
      (files.makeDirectories directory).run before = (.error reason, after)) ∨
    ∃ made, (made = before ∨ ∃ directory,
        (files.makeDirectories directory).run before = (.ok (), made)) ∧
      ∃ outcome, (replace files path (Snapshot.ofStorage storage now).toml.toUTF8).run.run made =
          (outcome, after) ∧ result = outcome.map fun _ => storage := by
  unfold save at saved
  rw [run_take] at saved
  have ends {made : σ} (stored : (do
      replace files path (Snapshot.ofStorage storage now).toml.toUTF8
      return storage : ExceptT Failure (StateM σ) Storage).run.run made = (result, after)) :
      ∃ outcome, (replace files path (Snapshot.ofStorage storage now).toml.toUTF8).run.run made =
          (outcome, after) ∧ result = outcome.map fun _ => storage := by
    rcases run_bind_cases stored with ⟨cause, failed, rfl⟩ | ⟨value, between, replaced, stored⟩
    · exact ⟨_, failed, rfl⟩
    · cases stored
      exact ⟨_, replaced, rfl⟩
  dsimp only at saved
  split at saved
  · next directory _ =>
    rcases run_bind_cases saved with ⟨cause, failed, rfl⟩ | ⟨_, made, making, stored⟩
    · obtain ⟨reason, rfl, stopped⟩ := of_attempt_error failed
      exact Or.inl ⟨directory, reason, rfl, stopped⟩
    · exact Or.inr ⟨made, Or.inr ⟨directory, of_attempt_ok making⟩, ends stored⟩
  · exact Or.inr ⟨before, Or.inl rfl, ends saved⟩

theorem exists_of_replace_ok {bytes : ByteArray}
    (replaced : (replace files path bytes).run.run before = (.ok (), after)) :
    ∃ written, (files.write (temporaryPath path) bytes).run before = (.ok (), written) ∧
      (files.rename (temporaryPath path) path).run written = (.ok (), after) := by
  rcases replace_cases replaced with ⟨_, failed, _⟩ |
    ⟨written, wrote, ⟨_, failed, _⟩ | ⟨_, renamed⟩⟩
  · cases failed
  · cases failed
  · exact ⟨written, wrote, renamed⟩

/-- Saving ends with replacing the file, by what the storage holds. -/
theorem exists_of_save_ok {storage left : Storage} {now : Timestamp}
    (saved : (storage.save files path now).run.run before = (.ok left, after)) :
    left = storage ∧ ∃ made,
      (replace files path (Snapshot.ofStorage storage now).toml.toUTF8).run.run made =
        (.ok (), after) := by
  rcases save_cases saved with ⟨_, _, failed, _⟩ | ⟨made, _, outcome, replaced, same⟩
  · cases failed
  · cases outcome with
    | error cause => cases same
    | ok => exact ⟨Except.ok.inj same, made, replaced⟩

/-- A file that was replaced reads as what it was replaced by. -/
theorem read_replace (faithful : files.Faithful) {bytes : ByteArray}
    (replaced : (replace files path bytes).run.run before = (.ok (), after)) :
    ((files.read path).run after).1 = .ok bytes := by
  obtain ⟨written, wrote, renamed⟩ := exists_of_replace_ok replaced
  exact faithful.read_rename (faithful.read_write wrote) renamed

/-- What is loaded is what the content of the file is read as. -/
theorem run_load {bytes : ByteArray} {disk : σ}
    (held : ((files.read path).run disk).1 = .ok bytes) :
    ((load files path).run.run disk).1 = ofBytes bytes := by
  have taken :
      (attempt (files.read path)).run.run disk = (.ok bytes, ((files.read path).run disk).2) := by
    rw [run_attempt, held]
    rfl
  rw [load, run_bind_of_ok taken]
  cases ofBytes bytes <;> rfl

theorem load_of_read {bytes : ByteArray} {storage : Storage} {disk : σ}
    (held : ((files.read path).run disk).1 = .ok bytes) (read : ofBytes bytes = .ok storage) :
    ((load files path).run.run disk).1 = .ok storage :=
  (run_load held).trans read

/-- What saving writes is read as a storage that holds the same, if the text of a snapshot is read
as that snapshot. -/
theorem exists_ofBytes {storage : Storage} {now : Timestamp}
    (readable : Snapshot.ofText? (Snapshot.ofStorage storage now).toml =
      some (Snapshot.ofStorage storage now)) :
    ∃ loaded, ofBytes (Snapshot.ofStorage storage now).toml.toUTF8 = .ok loaded ∧
      Alike loaded storage := by
  obtain ⟨loaded, described, alike⟩ := exists_toStorage storage now
  refine ⟨loaded, ?_, alike⟩
  unfold ofBytes
  rw [textOf_toUTF8]
  simp only [Except.mapError, bind, Except.bind, readable, described]

/-- A snapshot loses nothing. Taking it leaves the storage as it is, and where the files keep what
is written, what is loaded after a storage was saved has the same stores and in each store the same
entries under the same keys. -/
theorem saved_storage_loaded (faithful : files.Faithful) (storage : Storage) (path : String)
    (now : Timestamp)
    (readable : Snapshot.ofText? (Snapshot.ofStorage storage now).toml =
      some (Snapshot.ofStorage storage now)) :
    ((Snapshot.take now).run storage).2 = storage ∧
      ∀ before after left, (storage.save files path now).run.run before = (.ok left, after) →
        left = storage ∧
          ∃ loaded, ((load files path).run.run after).1 = .ok loaded ∧ Alike loaded storage := by
  refine ⟨congrArg Prod.snd (run_take storage now), fun before after left saved => ?_⟩
  obtain ⟨same, made, replaced⟩ := exists_of_save_ok saved
  obtain ⟨loaded, read, alike⟩ := exists_ofBytes readable
  exact ⟨same, loaded, load_of_read (read_replace faithful replaced) read, alike⟩

namespace Kept

def noon : Timestamp := ⟨⟨2026, 1, 2⟩, 12, 0, 0, 0⟩

def twoStores : Storage :=
  ((empty.create "v0").2.create "v1").2.insert 1 ⟨"GET", "u"⟩
    ⟨⟨200, [("via", "a"), ("via", "b")], "x".toUTF8⟩, noon⟩

theorem readable :
    Snapshot.ofText? (Snapshot.ofStorage twoStores noon).toml =
      some (Snapshot.ofStorage twoStores noon) := by
  decide +kernel

theorem isOk_save :
    ((twoStores.save FileTree.files "cache.toml" noon).run.run FileTree.empty).1.isOk := by
  decide +kernel

end Kept

open Kept in
/-- Two stores, one of them empty, and an entry with a header that comes twice. -/
theorem two_stores_loaded :
    ∃ disk loaded, (twoStores.save FileTree.files "cache.toml" noon).run.run FileTree.empty =
        (.ok twoStores, disk) ∧
      ((load FileTree.files "cache.toml").run.run disk).1 = .ok loaded ∧
        Alike loaded twoStores := by
  have succeeds := isOk_save
  generalize outcome :
    (twoStores.save FileTree.files "cache.toml" noon).run.run FileTree.empty = result
    at succeeds
  obtain ⟨cause | left, disk⟩ := result
  · cases succeeds
  · obtain ⟨rfl, loaded, read, alike⟩ :=
      (saved_storage_loaded FileTree.faithful twoStores "cache.toml" noon readable).2 _ _ _ outcome
    exact ⟨disk, loaded, rfl, read, alike⟩

end Cache.Storage

end OfflineSite
