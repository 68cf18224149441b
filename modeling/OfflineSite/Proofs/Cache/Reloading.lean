import OfflineSite.Proofs.Cache.Persistence

namespace OfflineSite

/-- A place where a file that can be read is seen to be there, and looking for it changes nothing. -/
structure Files.Observable {σ : Type} (files : Files (StateM σ)) : Prop extends files.Faithful where
  present_of_read {path : String} {bytes : ByteArray} {disk : σ}
    (held : ((files.read path).run disk).1 = .ok bytes) :
    (files.isPresent path).run disk = (true, disk)

theorem FileTree.observable : FileTree.files.Observable where
  toFaithful := FileTree.faithful
  present_of_read {path bytes disk} held := by
    have read : disk.read path = .ok bytes := held
    have found : (disk.lookup path).isOk = true := by
      unfold FileTree.read at read
      obtain ⟨entry, found, _⟩ := exists_of_bind_eq_ok read
      rw [found]
      rfl
    exact congrArg (·, disk) found

namespace Cache.Storage

variable {σ : Type} {files : Files (StateM σ)}

/-- A stored file is loaded where one is asked for, if there is any. -/
theorem run_loadOrEmpty {path : String} {disk : σ}
    (present : (files.isPresent path).run disk = (true, disk)) :
    (loadOrEmpty files path).run.run disk = (load files path).run.run disk := by
  have lifted : (liftM (files.isPresent path) : ExceptT Failure (StateM σ) Bool).run.run disk =
      (.ok true, disk) := by
    rw [ExceptT.run_liftM, StateT.run_map, present]
    rfl
  rw [loadOrEmpty, run_bind_of_ok lifted]
  rfl

theorem loadOrEmpty_of_saved (observable : files.Observable) {storage left : Storage}
    {path : String} {now : Timestamp} {before after : σ}
    (readable : Snapshot.ofText? (Snapshot.ofStorage storage now).toml =
      some (Snapshot.ofStorage storage now))
    (saved : (storage.save files path now).run.run before = (.ok left, after)) :
    ∃ loaded, ((loadOrEmpty files path).run.run after).1 = .ok loaded ∧ Alike loaded storage := by
  obtain ⟨_, made, replaced⟩ := exists_of_save_ok saved
  obtain ⟨loaded, described, alike⟩ := exists_ofBytes readable
  have held := read_replace observable.toFaithful replaced
  refine ⟨loaded, ?_, alike⟩
  rw [run_loadOrEmpty (observable.present_of_read held)]
  exact load_of_read held described

/-- The store of a name, empty if there is none. -/
def storeOf (storage : Storage) (name : String) : Store :=
  ((storage.find? name).map storage.store).getD default

theorem lookup?_storeOf (storage : Storage) (name : String) (key : Key) :
    (storage.storeOf name).lookup? key = storage.held? name key := by
  unfold storeOf held?
  cases storage.find? name with
  | none => exact Store.lookup?_default key
  | some handle => rfl

theorem stores_ofStorage (storage : Storage) (now : Timestamp) :
    (Snapshot.ofStorage storage now).stores =
      storage.keys.map fun name => .ofStore name (storage.storeOf name) := by
  rw [Snapshot.ofStorage, Storage.toList, Storage.keys, ← Std.TreeMap.map_fst_toList_eq_keys,
    List.map_map, List.map_map]
  refine List.map_congr_left fun pair member => ?_
  have leads : storage.find? pair.1 = some pair.2 :=
    Std.TreeMap.mem_toList_iff_getElem?_eq_some.mp member
  simp [storeOf, leads]

/-- A document tells nothing of a storage but which stores there are and what they hold. -/
theorem Alike.ofStorage_eq {storage other : Storage} (alike : Alike storage other)
    (now : Timestamp) : Snapshot.ofStorage storage now = Snapshot.ofStorage other now := by
  have entries (name : String) : (storage.storeOf name).toList = (other.storeOf name).toList := by
    refine (Std.TreeMap.Equiv.of_forall_constGet?_eq fun key => ?_).toList_eq
    have same := alike.held name key
    rw [← lookup?_storeOf, ← lookup?_storeOf] at same
    exact same
  have stores : (Snapshot.ofStorage storage now).stores = (Snapshot.ofStorage other now).stores := by
    rw [stores_ofStorage, stores_ofStorage, alike.keys]
    refine List.map_congr_left fun name _ => ?_
    simp only [StoreRecord.ofStore, entries name]
  exact congrArg (Snapshot.mk now) stores

theorem run_bind_pure {α β : Type} (first : ExceptT Failure (StateM σ) α) (value : β) (disk : σ) :
    (do let _ ← first; return value : ExceptT Failure (StateM σ) β).run.run disk =
      ((first.run.run disk).1.map fun _ => value, (first.run.run disk).2) := by
  generalize ended :
    (do let _ ← first; return value : ExceptT Failure (StateM σ) β).run.run disk = all
  obtain ⟨result, after⟩ := all
  rcases run_bind_cases ended with ⟨cause, failed, rfl⟩ | ⟨_, between, done, returned⟩
  · rw [failed]
    rfl
  · cases returned
    rw [done]
    rfl

/-- Storages that are described alike are saved alike. -/
theorem run_save_congr {storage other : Storage} {now : Timestamp}
    (same : Snapshot.ofStorage storage now = Snapshot.ofStorage other now) (path : String)
    (disk : σ) :
    (storage.save files path now).run.run disk =
      (((other.save files path now).run.run disk).1.map fun _ => storage,
        ((other.save files path now).run.run disk).2) := by
  have twice {α : Type} (result : Except Failure α) :
      result.map (fun _ => storage) = (result.map fun _ => other).map fun _ => storage := by
    cases result <;> rfl
  unfold save
  rw [run_take, run_take, same]
  dsimp only
  split
  · rw [← bind_assoc, ← bind_assoc, run_bind_pure, run_bind_pure, ← twice]
  · rw [run_bind_pure, run_bind_pure, ← twice]

end Cache.Storage

end OfflineSite
