import OfflineSite.Cache.Snapshot
import OfflineSite.Proofs.Cache.Storage
import OfflineSite.Proofs.Text.Base64

namespace OfflineSite.Cache

theorem lookup_reverse_eq_some_iff {α β : Type} [DecidableEq α] {list : List (α × β)}
    (distinct : list.Pairwise fun first second => first.1 ≠ second.1) {key : α} {value : β} :
    list.reverse.lookup key = some value ↔ (key, value) ∈ list := by
  constructor
  · intro found
    obtain ⟨before, after, whole, _⟩ := List.lookup_eq_some_iff.mp found
    exact List.mem_reverse.mp (by simp [whole])
  · intro member
    obtain ⟨before, after, rfl⟩ := List.append_of_mem member
    have later := (List.pairwise_append.mp distinct).2.1
    refine List.lookup_eq_some_iff.mpr
      ⟨after.reverse, before.reverse, by simp, fun other listed => ?_⟩
    have different := (List.pairwise_cons.mp later).1 other (List.mem_reverse.mp listed)
    simpa using different

theorem filter_eq_singleton {α β : Type} [DecidableEq α] {list : List (α × β)}
    (distinct : list.Pairwise fun first second => first.1 ≠ second.1) {key : α} {value : β}
    (member : (key, value) ∈ list) :
    list.filter (fun pair => pair.1 = key) = [(key, value)] := by
  induction list with
  | nil => cases member
  | cons first rest ih =>
    obtain ⟨front, back⟩ := List.pairwise_cons.mp distinct
    rcases List.mem_cons.mp member with rfl | later
    · have none : rest.filter (fun pair => pair.1 = key) = [] :=
        List.filter_eq_nil_iff.mpr fun other listed => by simpa [eq_comm] using front other listed
      rw [List.filter_cons_of_pos (by simp), none]
    · have different := front _ later
      rw [List.filter_cons_of_neg (by simpa using different), ih back later]

namespace Storage

/-- Adds entries one after the other to the store behind a handle. -/
def fill (storage : Storage) (handle : Handle) (entries : List (Key × Entry)) : Storage :=
  entries.foldl (fun storage (key, entry) => storage.insert handle key entry) storage

theorem find?_fill (storage : Storage) (handle : Handle) (entries : List (Key × Entry))
    (name : String) : (storage.fill handle entries).find? name = storage.find? name := by
  induction entries generalizing storage with
  | nil => rfl
  | cons first rest ih => exact ih (storage.insert handle first.1 first.2)

theorem lookup?_fill (storage : Storage) {handle : Handle} (present : handle < storage.stores.size)
    (entries : List (Key × Entry)) (other : Handle) (key : Key) :
    ((storage.fill handle entries).store other).lookup? key =
      if handle = other then
        (entries.reverse.lookup key).or ((storage.store other).lookup? key)
      else (storage.store other).lookup? key := by
  induction entries generalizing storage with
  | nil => simp [fill]
  | cons first rest ih =>
    obtain ⟨written, entry⟩ := first
    have size : handle < (storage.insert handle written entry).stores.size := by
      simpa [insert, modify] using present
    refine (ih (storage.insert handle written entry) size).trans ?_
    rw [lookup?_insert, List.reverse_cons, List.lookup_append, Option.or_assoc]
    by_cases same : handle = other
    · rw [if_pos same, if_pos same]
      by_cases found : written = key
      · rw [if_pos ⟨same, present, found⟩, found]
        simp only [List.lookup_cons_self, Option.some_or]
      · have absent : (key == written) = false := by simpa using Ne.symm found
        rw [if_neg fun all => found all.2.2]
        simp only [List.lookup_cons, absent, List.lookup_nil, Option.none_or]
    · rw [if_neg same, if_neg same, if_neg fun all => same all.1]

/-- Opens the store of a name and adds entries to it. -/
def extend (storage : Storage) (name : String) (entries : List (Key × Entry)) : Storage :=
  (storage.openStore name).2.fill (storage.openStore name).1 entries

theorem contains_extend (storage : Storage) (name : String) (entries : List (Key × Entry))
    (other : String) :
    (storage.extend name entries).contains other ↔ other = name ∨ storage.contains other := by
  rw [← contains_openStore storage name other, contains_eq_isSome, contains_eq_isSome, extend,
    find?_fill]

theorem held?_extend (storage : Storage) (name : String) (entries : List (Key × Entry))
    (other : String) (key : Key) :
    (storage.extend name entries).held? other key =
      if name = other then (entries.reverse.lookup key).or (storage.held? other key)
      else storage.held? other key := by
  have opened := find?_openStore storage name
  have present := lt_size_of_find? opened
  rw [← held?_openStore storage name other key]
  unfold held? extend
  simp only [find?_fill, lookup?_fill _ present]
  by_cases same : name = other
  · subst same
    simp only [opened, Option.bind_some, if_true]
  · rw [if_neg same]
    cases found : (storage.openStore name).2.find? other with
    | none => rfl
    | some handle =>
      rw [Option.bind_some, Option.bind_some, if_neg]
      rintro rfl
      exact same (find?_inj opened found)

/-- What sections of entries list for a store. -/
def listed (sections : List (String × List (Key × Entry))) (name : String) :
    List (Key × Entry) :=
  (sections.filter fun listing => listing.1 = name).flatMap (·.2)

/-- Adds the sections of a document one after the other. -/
def extendAll (storage : Storage) (sections : List (String × List (Key × Entry))) : Storage :=
  sections.foldl (fun storage (name, entries) => storage.extend name entries) storage

theorem contains_extendAll (storage : Storage) (sections : List (String × List (Key × Entry)))
    (name : String) :
    (storage.extendAll sections).contains name ↔
      name ∈ sections.map Prod.fst ∨ storage.contains name := by
  induction sections generalizing storage with
  | nil => simp [extendAll]
  | cons first rest ih =>
    refine (ih (storage.extend first.1 first.2)).trans ?_
    rw [contains_extend, List.map_cons, List.mem_cons, or_left_comm, or_assoc]

/-- A store holds under a key the last entry that is listed for it, or else what it held before. -/
theorem held?_extendAll (storage : Storage) (sections : List (String × List (Key × Entry)))
    (name : String) (key : Key) :
    (storage.extendAll sections).held? name key =
      ((listed sections name).reverse.lookup key).or (storage.held? name key) := by
  induction sections generalizing storage with
  | nil => rfl
  | cons first rest ih =>
    refine (ih (storage.extend first.1 first.2)).trans ?_
    rw [held?_extend]
    by_cases same : first.1 = name
    · have front : listed (first :: rest) name = first.2 ++ listed rest name := by
        simp [listed, same]
      rw [if_pos same, front, List.reverse_append, List.lookup_append, Option.or_assoc]
    · have front : listed (first :: rest) name = listed rest name := by
        simp [listed, same]
      rw [if_neg same, front]

end Storage

theorem encode_bodyText (body : ByteArray) :
    Utf8.encode (bodyText body).toList = Base64.encode body.data.toList := by
  rw [bodyText, String.toList_ofList]
  exact Utf8.encode_ofNat fun _ member => Base64.lt_of_mem_encode member

theorem bodyOf_bodyText (body : ByteArray) : bodyOf (bodyText body) = .ok body := by
  rw [bodyOf, encode_bodyText, Base64.decode_encode]
  rfl

theorem EntryRecord.entry_ofEntry (key : Key) (entry : Entry) :
    (ofEntry key entry).entry = .ok entry := by
  simp only [EntryRecord.entry, ofEntry, bodyOf_bodyText]

namespace Snapshot

theorem fillStore_ofEntry (handle : Handle) (storage : Storage) (key : Key) (entry : Entry) :
    fillStore handle storage (.ofEntry key entry) = .ok (storage.insert handle key entry) := by
  rw [fillStore, EntryRecord.entry_ofEntry]
  rfl

theorem addStore_ofStore (storage : Storage) (name : String) (store : Store) :
    addStore storage (.ofStore name store) = .ok (storage.extend name store.toList) := by
  suffices filled : ∀ (handle : Handle) (storage : Storage) (entries : List (Key × Entry)),
      (entries.map fun (key, entry) => EntryRecord.ofEntry key entry).foldlM (fillStore handle)
        storage = .ok (storage.fill handle entries) from
    filled (storage.openStore name).1 (storage.openStore name).2 store.toList
  intro handle storage entries
  induction entries generalizing storage with
  | nil => rfl
  | cons first rest ih =>
    rw [List.map_cons, List.foldlM_cons, fillStore_ofEntry]
    exact ih (storage.insert handle first.1 first.2)

/-- The document that lists what a storage holds. -/
def ofStorage (storage : Storage) (now : Timestamp) : Snapshot :=
  ⟨now, storage.toList.map fun (name, store) => .ofStore name store⟩

/-- The stores of a storage with what they hold, as sections of a document. -/
def sections (storage : Storage) : List (String × List (Key × Entry)) :=
  storage.toList.map fun (name, store) => (name, store.toList)

theorem toStorage_ofStorage (storage : Storage) (now : Timestamp) :
    (ofStorage storage now).toStorage = .ok (Storage.empty.extendAll (sections storage)) := by
  suffices added : ∀ (stores : List (String × Store)) (before : Storage),
      (stores.map fun (name, store) => StoreRecord.ofStore name store).foldlM addStore before =
        .ok (before.extendAll (stores.map fun (name, store) => (name, store.toList))) from
    added storage.toList .empty
  intro stores before
  induction stores generalizing before with
  | nil => rfl
  | cons first rest ih =>
    rw [List.map_cons, List.foldlM_cons, addStore_ofStore]
    exact ih (before.extend first.1 first.2.toList)

end Snapshot

theorem Store.lookup_reverse_toList (store : Store) (key : Key) :
    store.toList.reverse.lookup key = store.lookup? key := by
  have distinct : store.toList.Pairwise fun first second => first.1 ≠ second.1 :=
    Std.TreeMap.distinct_keys_toList.imp fun different same =>
      different (by rw [same, Std.ReflOrd.compare_self])
  ext entry
  rw [lookup_reverse_eq_some_iff distinct, mem_toList]

namespace Storage

theorem distinct_names (storage : Storage) :
    storage.names.toList.Pairwise fun first second => first.1 ≠ second.1 :=
  Std.TreeMap.distinct_keys_toList.imp fun different same =>
    different (by rw [same, Std.ReflOrd.compare_self])

theorem listed_sections (storage : Storage) (name : String) :
    listed (Snapshot.sections storage) name =
      ((storage.find? name).map fun handle => (storage.store handle).toList).getD [] := by
  have whole : Snapshot.sections storage =
      storage.names.toList.map fun pair => (pair.1, (storage.store pair.2).toList) := by
    simp only [Snapshot.sections, toList, List.map_map, Function.comp_def]
  have front (list : List (String × Handle)) :
      listed (list.map fun pair => (pair.1, (storage.store pair.2).toList)) name =
        (list.filter fun pair => pair.1 = name).flatMap
          fun pair => (storage.store pair.2).toList := by
    simp only [listed, List.filter_map, Function.comp_def, List.flatMap_map]
  rw [whole, front]
  cases found : storage.find? name with
  | some handle =>
    have member : (name, handle) ∈ storage.names.toList :=
      Std.TreeMap.mem_toList_iff_getElem?_eq_some.mpr found
    rw [filter_eq_singleton storage.distinct_names member]
    simp
  | none =>
    have absent : storage.names.toList.filter (fun pair => pair.1 = name) = [] := by
      refine List.filter_eq_nil_iff.mpr fun pair member same => ?_
      have there := Std.TreeMap.mem_toList_iff_getElem?_eq_some.mp member
      rw [of_decide_eq_true same] at there
      exact absurd (found.symm.trans there) (by simp)
    rw [absent]
    rfl

/-- Storages that have the same stores and hold the same entries in them. -/
structure Alike (storage other : Storage) : Prop where
  keys : storage.keys = other.keys
  held (name : String) (key : Key) : storage.held? name key = other.held? name key

theorem alike_extendAll (storage : Storage) :
    Alike (empty.extendAll (Snapshot.sections storage)) storage := by
  refine ⟨keys_congr fun name => ?_, fun name key => ?_⟩
  · have names : (Snapshot.sections storage).map Prod.fst = storage.keys := by
      simp only [Snapshot.sections, toList, List.map_map, Function.comp_def, keys]
      exact Std.TreeMap.map_fst_toList_eq_keys
    rw [contains_extendAll, names, mem_keys, contains_eq_isSome empty]
    simp [contains_eq_isSome, find?, empty]
  · rw [held?_extendAll, held?_empty, Option.or_none, listed_sections, held?]
    cases storage.find? name with
    | none => rfl
    | some handle => exact (storage.store handle).lookup_reverse_toList key

/-- A storage is read from its document as it was. -/
theorem exists_toStorage (storage : Storage) (now : Timestamp) :
    ∃ loaded, (Snapshot.ofStorage storage now).toStorage = .ok loaded ∧ Alike loaded storage :=
  ⟨_, Snapshot.toStorage_ofStorage storage now, alike_extendAll storage⟩

/-- Opening the stores that there are, one after the other, changes nothing. -/
theorem run_mapM_take (storage : Storage) {pairs : List (String × Handle)}
    (leads : ∀ pair ∈ pairs, storage.find? pair.1 = some pair.2) :
    ((pairs.map Prod.fst).mapM StoreRecord.take).run storage =
      (pairs.map fun (name, handle) => .ofStore name (storage.store handle), storage) := by
  induction pairs with
  | nil => rfl
  | cons first rest ih =>
    obtain ⟨name, handle⟩ := first
    have opened : storage.openStore name = (handle, storage) := by
      rw [openStore, leads _ (List.mem_cons_self ..)]
    have taken : (StoreRecord.take name).run storage =
        (.ofStore name ((storage.openStore name).2.store (storage.openStore name).1),
          (storage.openStore name).2) := rfl
    rw [opened] at taken
    have others := ih fun pair listed => leads pair (List.mem_cons_of_mem _ listed)
    rw [List.map_cons, List.mapM_cons, StateT.run_bind, taken]
    refine (StateT.run_bind ..).trans ?_
    rw [others]
    rfl

/-- Taking a snapshot leaves the storage as it is. -/
theorem run_take (storage : Storage) (now : Timestamp) :
    (Snapshot.take now).run storage = (Snapshot.ofStorage storage now, storage) := by
  have leads : ∀ pair ∈ storage.names.toList, storage.find? pair.1 = some pair.2 :=
    fun pair listed => Std.TreeMap.mem_toList_iff_getElem?_eq_some.mp listed
  have stores := storage.run_mapM_take leads
  rw [Std.TreeMap.map_fst_toList_eq_keys] at stores
  have taken : (Snapshot.take now).run storage =
      (⟨now, ((storage.keys.mapM StoreRecord.take).run storage).1⟩,
        ((storage.keys.mapM StoreRecord.take).run storage).2) := rfl
  rw [taken, keys, stores, Snapshot.ofStorage, toList, List.map_map]
  rfl

end Storage

end OfflineSite.Cache
