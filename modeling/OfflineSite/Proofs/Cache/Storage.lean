import OfflineSite.Cache.Storage

namespace OfflineSite.Cache

instance : Std.TransOrd Key :=
  inferInstanceAs (Std.TransCmp (compareLex (compareOn Key.method) (compareOn Key.url)))

instance : Std.LawfulEqOrd Key where
  eq_of_compare {a b} same := by
    obtain ⟨methods, urls⟩ := compareLex_eq_eq.mp same
    have methods : a.method = b.method := Std.LawfulEqCmp.eq_of_compare methods
    have urls : a.url = b.url := Std.LawfulEqCmp.eq_of_compare urls
    cases a
    cases b
    simp_all

namespace Store

theorem lookup?_default (key : Key) : (default : Store).lookup? key = none :=
  Std.TreeMap.getElem?_emptyc

theorem lookup?_empty (name : String) (key : Key) : (empty name).lookup? key = none :=
  Std.TreeMap.getElem?_emptyc

theorem mem_toList {store : Store} {key : Key} {entry : Entry} :
    (key, entry) ∈ store.toList ↔ store.lookup? key = some entry :=
  Std.TreeMap.mem_toList_iff_getElem?_eq_some

end Store

namespace Storage

/-- The entry that is held under a name and a key. -/
def held? (storage : Storage) (name : String) (key : Key) : Option Entry :=
  (storage.find? name).bind fun handle => (storage.store handle).lookup? key

@[simp] theorem held?_empty (name : String) (key : Key) : empty.held? name key = none := by
  simp [held?, find?, empty]

theorem lt_size_of_find? {storage : Storage} {name : String} {handle : Handle}
    (found : storage.find? name = some handle) : handle < storage.stores.size := by
  obtain ⟨store, present, _⟩ := Option.map_eq_some_iff.mp (storage.named found)
  exact (Array.getElem?_eq_some_iff.mp present).1

theorem find?_inj {storage : Storage} {name other : String} {handle : Handle}
    (found : storage.find? name = some handle) (foundToo : storage.find? other = some handle) :
    name = other :=
  Option.some.inj ((storage.named found).symm.trans (storage.named foundToo))

theorem contains_eq_isSome (storage : Storage) (name : String) :
    storage.contains name = (storage.find? name).isSome :=
  Std.TreeMap.contains_eq_isSome_getElem?

theorem mem_keys {storage : Storage} {name : String} :
    name ∈ storage.keys ↔ (storage.find? name).isSome := by
  simp [keys, find?]

theorem nodup_keys (storage : Storage) : storage.keys.Nodup :=
  storage.names.distinct_keys.imp fun {name other} different (same : name = other) =>
    different (by rw [same, Std.ReflOrd.compare_self])

/-- Names come in order, so the keys tell only which stores there are. -/
theorem keys_congr {storage other : Storage}
    (same : ∀ name, storage.contains name ↔ other.contains name) : storage.keys = other.keys := by
  refine List.Perm.eq_of_pairwise (fun first second _ _ before after => ?_)
    storage.names.ordered_keys other.names.ordered_keys ?_
  · exact absurd (Std.OrientedCmp.gt_of_lt before) (by simp [after])
  · refine (List.perm_ext_iff_of_nodup storage.nodup_keys other.nodup_keys).mpr fun name => ?_
    have there := same name
    rw [contains_eq_isSome, contains_eq_isSome] at there
    exact mem_keys.trans (there.trans mem_keys.symm)

theorem mem_toList {storage : Storage} {name : String} {store : Store} :
    (name, store) ∈ storage.toList ↔
      ∃ handle, storage.find? name = some handle ∧ storage.store handle = store := by
  constructor
  · intro listed
    obtain ⟨⟨_, handle⟩, member, same⟩ := List.mem_map.mp listed
    cases same
    exact ⟨handle, Std.TreeMap.mem_toList_iff_getElem?_eq_some.mp member, rfl⟩
  · rintro ⟨handle, found, rfl⟩
    exact List.mem_map.mpr
      ⟨(name, handle), Std.TreeMap.mem_toList_iff_getElem?_eq_some.mpr found, rfl⟩

/-- What is listed under a name holds what is held under it. -/
theorem lookup?_of_mem_toList {storage : Storage} {name : String} {store : Store}
    (listed : (name, store) ∈ storage.toList) (key : Key) :
    store.lookup? key = storage.held? name key := by
  obtain ⟨handle, found, rfl⟩ := mem_toList.mp listed
  rw [held?, found, Option.bind_some]

/-- Names that lead to the same stores list the same. -/
theorem toList_congr {storage other : Storage} (names : storage.names = other.names)
    (stores : ∀ {name : String} {handle : Handle}, storage.find? name = some handle →
      storage.store handle = other.store handle) : storage.toList = other.toList := by
  rw [toList, toList, ← names]
  refine List.map_congr_left fun ⟨name, handle⟩ listed => ?_
  have found : storage.find? name = some handle :=
    Std.TreeMap.mem_toList_iff_getElem?_eq_some.mp listed
  simp only [stores found]

theorem find?_create (storage : Storage) (name other : String) :
    (storage.create name).2.find? other =
      if name = other then some storage.stores.size else storage.find? other := by
  simp only [find?, create, Std.TreeMap.getElem?_insert, Std.LawfulEqCmp.compare_eq_iff_eq]

theorem find?_delete (storage : Storage) (name other : String) :
    (storage.delete name).find? other = if name = other then none else storage.find? other := by
  simp only [find?, delete, Std.TreeMap.getElem?_erase, Std.LawfulEqCmp.compare_eq_iff_eq]

theorem find?_foldl_delete (names : List String) (storage : Storage) (name : String) :
    (names.foldl delete storage).find? name =
      if name ∈ names then none else storage.find? name := by
  induction names generalizing storage with
  | nil => simp
  | cons first rest ih =>
    rw [List.foldl_cons, ih, find?_delete]
    by_cases later : name ∈ rest
    · simp [later]
    · simp [later, eq_comm]

theorem stores_foldl_delete (names : List String) (storage : Storage) :
    (names.foldl delete storage).stores = storage.stores := by
  induction names generalizing storage with
  | nil => rfl
  | cons first rest ih => exact ih (storage.delete first)

theorem find?_openStore (storage : Storage) (name : String) :
    (storage.openStore name).2.find? name = some (storage.openStore name).1 := by
  unfold openStore
  split
  · assumption
  · rw [find?_create, if_pos rfl]
    rfl

theorem find?_openStore_of_ne (storage : Storage) {name other : String} (different : name ≠ other) :
    (storage.openStore name).2.find? other = storage.find? other := by
  unfold openStore
  split
  · rfl
  · rw [find?_create, if_neg different]

/-- Opening takes no name away from the store that it leads to. -/
theorem find?_openStore_of_found {storage : Storage} {name : String} {handle : Handle}
    (found : storage.find? name = some handle) (opened : String) :
    (storage.openStore opened).2.find? name = some handle := by
  by_cases same : opened = name
  · subst same
    simp only [openStore, found]
  · rw [find?_openStore_of_ne storage same, found]

theorem contains_openStore (storage : Storage) (name other : String) :
    (storage.openStore name).2.contains other ↔ other = name ∨ storage.contains other := by
  rw [contains_eq_isSome, contains_eq_isSome]
  by_cases same : name = other
  · subst same
    simp [find?_openStore]
  · simp [find?_openStore_of_ne storage same, Ne.symm same]

theorem store_eq_getElem? (storage : Storage) (handle : Handle) :
    storage.store handle = (storage.stores[handle]?).getD default :=
  Array.getD_eq_getD_getElem? ..

/-- A new store is as empty as the place behind its handle was before. -/
theorem lookup?_create (storage : Storage) (name : String) (handle : Handle) (key : Key) :
    ((storage.create name).2.store handle).lookup? key = (storage.store handle).lookup? key := by
  simp only [store_eq_getElem?, create, Array.getElem?_push]
  split
  · next same =>
    rw [same, Array.getElem?_eq_none (Nat.le_refl _)]
    exact (Store.lookup?_empty name key).trans (Store.lookup?_default key).symm
  · rfl

theorem lookup?_openStore (storage : Storage) (name : String) (handle : Handle) (key : Key) :
    ((storage.openStore name).2.store handle).lookup? key =
      (storage.store handle).lookup? key := by
  unfold openStore
  split
  · rfl
  · exact lookup?_create storage name handle key

theorem lt_size_of_lookup? {storage : Storage} {handle : Handle} {key : Key} {entry : Entry}
    (held : (storage.store handle).lookup? key = some entry) : handle < storage.stores.size := by
  cases Nat.lt_or_ge handle storage.stores.size with
  | inl bound => exact bound
  | inr past =>
    rw [store_eq_getElem?, Array.getElem?_eq_none past] at held
    simp [Store.lookup?_default] at held

/-- A store that is opened holds what it held, and nothing if it is new. -/
theorem held?_openStore (storage : Storage) (name other : String) (key : Key) :
    (storage.openStore name).2.held? other key = storage.held? other key := by
  by_cases same : name = other
  · subst same
    rw [held?, find?_openStore, Option.bind_some, lookup?_openStore, held?]
    unfold openStore
    split
    · next handle found => rw [found, Option.bind_some]
    · next absent =>
      rw [absent, Option.bind_none]
      cases held : (storage.store storage.stores.size).lookup? key with
      | none => exact held
      | some entry => exact absurd (lt_size_of_lookup? held) (Nat.lt_irrefl _)
  · rw [held?, find?_openStore_of_ne storage same, held?]
    simp only [lookup?_openStore]

theorem store_put_of_ne (storage : Storage) {handle other : Handle} (key : Key)
    (response : FetchResponse) (now : Timestamp) (different : handle ≠ other) :
    (storage.put handle key response now).store other = storage.store other := by
  simp only [store_eq_getElem?, put, insert, modify, Array.getElem?_modify, if_neg different]

theorem lookup?_insert (storage : Storage) (handle other : Handle) (key sought : Key)
    (entry : Entry) :
    ((storage.insert handle key entry).store other).lookup? sought =
      if handle = other ∧ handle < storage.stores.size ∧ key = sought then some entry
      else (storage.store other).lookup? sought := by
  simp only [store_eq_getElem?, insert, modify, Array.getElem?_modify]
  by_cases same : handle = other
  · subst same
    rw [if_pos rfl]
    by_cases present : handle < storage.stores.size
    · simp only [Array.getElem?_eq_getElem present, Option.map_some, Option.getD_some,
        Store.lookup?, Store.insert, Std.TreeMap.getElem?_insert,
        Std.LawfulEqCmp.compare_eq_iff_eq, present, true_and]
    · rw [Array.getElem?_eq_none (Nat.le_of_not_lt present)]
      simp [present]
  · rw [if_neg same, if_neg fun both => same both.1]

/-- What is put into the store of a name is held there. -/
theorem held?_put {storage : Storage} {name : String} {handle : Handle}
    (found : storage.find? name = some handle) (key : Key) (response : FetchResponse)
    (now : Timestamp) (other : String) (sought : Key) :
    (storage.put handle key response now).held? other sought =
      if other = name ∧ sought = key then some ⟨response, now⟩
      else storage.held? other sought := by
  have size := lt_size_of_find? found
  have names : (storage.put handle key response now).find? other = storage.find? other := rfl
  rw [held?, names, held?]
  cases leads : storage.find? other with
  | none =>
    rw [if_neg]
    · rfl
    · rintro ⟨rfl, _⟩
      rw [found] at leads
      cases leads
  | some there =>
    rw [Option.bind_some, Option.bind_some, put, lookup?_insert]
    have same : handle = there ↔ other = name :=
      ⟨fun equal => find?_inj leads (equal ▸ found), fun equal =>
        Option.some.inj (found.symm.trans (equal ▸ leads))⟩
    simp only [same, size, true_and, eq_comm]

theorem held?_put_of_ne (storage : Storage) (handle : Handle) {key sought : Key}
    (response : FetchResponse) (now : Timestamp) (name : String) (different : key ≠ sought) :
    (storage.put handle key response now).held? name sought = storage.held? name sought := by
  have names : (storage.put handle key response now).find? name = storage.find? name := rfl
  rw [held?, names, held?]
  refine congrArg _ (funext fun there => ?_)
  rw [put, lookup?_insert, if_neg fun all => different all.2.2]

theorem lookup?_put {storage : Storage} {handle other : Handle} {key sought : Key}
    {response : FetchResponse} {now : Timestamp} {entry : Entry}
    (held : ((storage.put handle key response now).store other).lookup? sought = some entry) :
    (storage.store other).lookup? sought = some entry ∨
      handle = other ∧ sought = key ∧ entry = ⟨response, now⟩ := by
  rw [put, lookup?_insert] at held
  split at held
  · next there => exact Or.inr ⟨there.1, there.2.2.symm, (Option.some.inj held).symm⟩
  · exact Or.inl held

theorem held?_eq_none {storage : Storage} {key : Key} (missing : storage.matchRequest key = none)
    (name : String) : storage.held? name key = none := by
  refine Option.bind_eq_none_iff.mpr fun handle found => ?_
  exact Option.map_eq_none_iff.mp
    (List.findSome?_eq_none_iff.mp missing _ (mem_toList.mpr ⟨handle, found, rfl⟩))

/-- A response that is found is held by a store that a name leads to. -/
theorem exists_held_of_matchRequest {storage : Storage} {key : Key} {response : FetchResponse}
    (found : storage.matchRequest key = some response) :
    ∃ name entry, storage.held? name key = some entry ∧ entry.response = response := by
  obtain ⟨⟨name, store⟩, listed, held⟩ := List.exists_of_findSome?_eq_some found
  obtain ⟨entry, present, value⟩ := Option.map_eq_some_iff.mp held
  exact ⟨name, entry, (lookup?_of_mem_toList listed key).symm.trans present, value⟩

/-- A storage that comes of another by opening and deleting stores and by putting there only what
is allowed. -/
structure Evolves (allowed : Key → FetchResponse → Prop) (before after : Storage) : Prop where
  size_le : before.stores.size ≤ after.stores.size
  /-- No name comes to lead to another store that there was already. -/
  names {name : String} {handle : Handle} (found : after.find? name = some handle) :
    before.find? name = some handle ∨ before.stores.size ≤ handle
  entries {handle : Handle} {key : Key} {entry : Entry}
    (held : (after.store handle).lookup? key = some entry) :
    (before.store handle).lookup? key = some entry ∨ allowed key entry.response

namespace Evolves

variable {allowed : Key → FetchResponse → Prop} {before middle after : Storage}

theorem refl (storage : Storage) : Evolves allowed storage storage :=
  ⟨Nat.le_refl _, Or.inl, Or.inl⟩

theorem trans (first : Evolves allowed before middle) (second : Evolves allowed middle after) :
    Evolves allowed before after where
  size_le := Nat.le_trans first.size_le second.size_le
  names found := by
    rcases second.names found with kept | fresh
    · exact first.names kept
    · exact Or.inr (Nat.le_trans first.size_le fresh)
  entries held := by
    rcases second.entries held with kept | put
    · exact first.entries kept
    · exact Or.inr put

theorem mono {more : Key → FetchResponse → Prop} (evolves : Evolves allowed before after)
    (weaker : ∀ key response, allowed key response → more key response) :
    Evolves more before after :=
  ⟨evolves.size_le, evolves.names, fun held => (evolves.entries held).imp_right (weaker _ _)⟩

theorem openStore (storage : Storage) (name : String) :
    Evolves allowed storage (storage.openStore name).2 where
  size_le := by
    unfold Storage.openStore
    split
    · exact Nat.le_refl _
    · simp [create]
  names := by
    intro other handle found
    unfold Storage.openStore at found
    split at found
    · exact Or.inl found
    · rw [find?_create] at found
      split at found
      · exact Or.inr (Nat.le_of_eq (Option.some.inj found))
      · exact Or.inl found
  entries held := Or.inl (by rwa [lookup?_openStore] at held)

theorem delete (storage : Storage) (name : String) :
    Evolves allowed storage (storage.delete name) where
  size_le := Nat.le_refl _
  names found := by
    rw [find?_delete] at found
    split at found
    · simp at found
    · exact Or.inl found
  entries := Or.inl

theorem put (storage : Storage) (handle : Handle) {key : Key} {response : FetchResponse}
    (now : Timestamp) (admitted : allowed key response) :
    Evolves allowed storage (storage.put handle key response now) where
  size_le := by simp [Storage.put, insert, modify]
  names := Or.inl
  entries held := by
    rcases lookup?_put held with kept | ⟨_, rfl, rfl⟩
    · exact Or.inl kept
    · exact Or.inr admitted

/-- An entry that is held under a name was held there before, or was put there: a store that was
deleted does not come back with what it held. -/
theorem held_or_allowed (evolves : Evolves allowed before after)
    {name : String} {key : Key} {entry : Entry}
    (held : after.held? name key = some entry) :
    before.held? name key = some entry ∨ allowed key entry.response := by
  obtain ⟨handle, found, present⟩ := Option.bind_eq_some_iff.mp held
  rcases evolves.entries present with kept | put
  · -- What held the entry before is an old store, to which no name can have come to lead since.
    have old := lt_size_of_lookup? kept
    rcases evolves.names found with same | fresh
    · exact Or.inl (by simpa [Storage.held?, same] using kept)
    · exact absurd old (Nat.not_lt.mpr fresh)
  · exact Or.inr put

end Evolves

/-- What opening the store of one name, deleting stores and putting responses makes of a storage. -/
inductive Changes (current : String) (deletes : String → Prop)
    (puts : Key → FetchResponse → Prop) : Storage → Storage → Prop
  | refl (storage : Storage) : Changes current deletes puts storage storage
  | trans {before middle after : Storage} : Changes current deletes puts before middle →
      Changes current deletes puts middle after → Changes current deletes puts before after
  | openStore (storage : Storage) :
      Changes current deletes puts storage (storage.openStore current).2
  | delete (storage : Storage) {name : String} (may : deletes name) :
      Changes current deletes puts storage (storage.delete name)
  | put (storage : Storage) (handle : Handle) {key : Key} {response : FetchResponse}
      (now : Timestamp) (may : puts key response) :
      Changes current deletes puts storage (storage.put handle key response now)

namespace Changes

variable {current : String} {deletes : String → Prop} {puts : Key → FetchResponse → Prop}
  {before after : Storage}

theorem evolves (changes : Changes current deletes puts before after) :
    Evolves puts before after := by
  induction changes with
  | refl storage => exact .refl storage
  | trans _ _ first second => exact first.trans second
  | openStore storage => exact .openStore storage current
  | delete storage _ => exact .delete storage _
  | put storage handle now may => exact .put storage handle now may

theorem mono {moreDeletes : String → Prop} {morePuts : Key → FetchResponse → Prop}
    (changes : Changes current deletes puts before after)
    (deleted : ∀ name, deletes name → moreDeletes name)
    (put : ∀ key response, puts key response → morePuts key response) :
    Changes current moreDeletes morePuts before after := by
  induction changes with
  | refl storage => exact .refl storage
  | trans _ _ first second => exact first.trans second
  | openStore storage => exact .openStore storage
  | delete storage may => exact .delete storage (deleted _ may)
  | put storage handle now may => exact .put storage handle now (put _ _ may)

/-- No store comes to be there but the current one. -/
theorem eq_or_contains (changes : Changes current deletes puts before after) {name : String}
    (present : after.contains name) : name = current ∨ before.contains name := by
  induction changes with
  | refl storage => exact Or.inr present
  | trans _ _ first second => exact (second present).elim Or.inl first
  | openStore storage => exact (contains_openStore storage current name).mp present
  | delete storage may =>
    rw [contains_eq_isSome] at present ⊢
    rw [find?_delete] at present
    split at present
    · simp at present
    · exact Or.inr present
  | put storage handle now may => exact Or.inr present

/-- A store that may not be deleted keeps its name. -/
theorem find?_kept (changes : Changes current deletes puts before after) {name : String}
    (spared : ¬ deletes name) {handle : Handle} (found : before.find? name = some handle) :
    after.find? name = some handle := by
  induction changes with
  | refl storage => exact found
  | trans _ _ first second => exact second (first found)
  | openStore storage => exact find?_openStore_of_found found current
  | delete storage may =>
    rw [find?_delete, if_neg, found]
    intro same
    exact spared (same ▸ may)
  | put storage handle now may => exact found

/-- A key that nothing is put under keeps its entry in every store. -/
theorem lookup?_kept (changes : Changes current deletes puts before after) {key : Key}
    (unwritten : ∀ response, ¬ puts key response) (handle : Handle) :
    (after.store handle).lookup? key = (before.store handle).lookup? key := by
  induction changes with
  | refl storage => rfl
  | trans _ _ first second => exact second.trans first
  | openStore storage => exact lookup?_openStore storage current handle key
  | delete storage may => rfl
  | @put storage other written response now may =>
    rw [Storage.put, lookup?_insert, if_neg]
    rintro ⟨_, _, rfl⟩
    exact unwritten response may

/-- What a store that may not be deleted holds under a key that nothing is put under is what it
held there. -/
theorem held?_eq (changes : Changes current deletes puts before after) {name : String} {key : Key}
    (spared : ¬ deletes name) (unwritten : ∀ response, ¬ puts key response) :
    after.held? name key = before.held? name key := by
  induction changes with
  | refl storage => rfl
  | trans _ _ first second => exact second.trans first
  | openStore storage => exact held?_openStore storage current name key
  | @delete storage other may =>
    have different : other ≠ name := by
      rintro rfl
      exact spared may
    rw [held?, find?_delete, if_neg different]
    rfl
  | @put storage handle written response now may =>
    have different : written ≠ key := by
      rintro rfl
      exact unwritten response may
    exact held?_put_of_ne storage handle response now name different

end Changes

/-- A store that was deleted: there is one, but no name leads to it. -/
def Detached (storage : Storage) (handle : Handle) : Prop :=
  handle < storage.stores.size ∧ ∀ name, storage.find? name ≠ some handle

theorem Evolves.detached {allowed : Key → FetchResponse → Prop} {before after : Storage}
    (evolves : Evolves allowed before after) {handle : Handle} (gone : before.Detached handle) :
    after.Detached handle := by
  refine ⟨Nat.lt_of_lt_of_le gone.1 evolves.size_le, ?_⟩
  intro name found
  rcases evolves.names found with old | fresh
  · exact gone.2 name old
  · exact absurd gone.1 (Nat.not_lt.mpr fresh)

/-- What can be seen of a storage: which stores there are, and what they hold. -/
structure SameView (storage other : Storage) : Prop where
  contains : ∀ name, storage.contains name = other.contains name
  keys : storage.keys = other.keys
  matchRequest : ∀ key, storage.matchRequest key = other.matchRequest key
  toList : storage.toList = other.toList

theorem SameView.refl (storage : Storage) : SameView storage storage :=
  ⟨fun _ => rfl, rfl, fun _ => rfl, rfl⟩

/-- What is put into a store that no name leads to is seen nowhere. -/
theorem Detached.sameView_put {storage : Storage} {handle : Handle}
    (gone : storage.Detached handle) (key : Key) (response : FetchResponse) (now : Timestamp) :
    SameView (storage.put handle key response now) storage := by
  have stores : (storage.put handle key response now).toList = storage.toList :=
    toList_congr rfl fun {name other} found => store_put_of_ne storage key response now
      fun same => gone.2 name (same ▸ found)
  exact ⟨fun _ => rfl, rfl, fun _ => by simp only [Storage.matchRequest, stores], stores⟩

end Storage

end OfflineSite.Cache
