import OfflineSite.Proofs.Cache.Storage

namespace OfflineSite.Cache

/-- What is asked of a store. -/
inductive StoreCall
  | put (key : Key) (response : FetchResponse) (now : Timestamp)
  | get (key : Key)
  | lookup (key : Key)
  | erase (key : Key)
  | keys
  | entries
  | size
  | isEmpty

/-- What is asked of a storage, or through a handle of one of its stores. -/
inductive Call
  | openStore (name : String)
  | delete (name : String)
  | contains (name : String)
  | names
  | matchRequest (key : Key)
  | through (handle : Handle) (call : StoreCall)

inductive Answer
  | done
  | handle (handle : Handle)
  | flag (flag : Bool)
  | names (names : List String)
  | response (response : Option FetchResponse)
  | entry (entry : Option Entry)
  | keys (keys : List Key)
  | entries (entries : List (Key × Entry))
  | number (number : Nat)

namespace StoreCall

def answer (store : Store) : StoreCall → Answer
  | put .. => .done
  | get key => .response (store.get? key)
  | lookup key => .entry (store.lookup? key)
  | erase key => .flag (store.contains key)
  | keys => .keys store.keys
  | entries => .entries store.toList
  | size => .number store.size
  | isEmpty => .flag store.isEmpty

/-- What becomes of the store that is asked. -/
def change (store : Store) : StoreCall → Store
  | put key response now => store.insert key ⟨response, now⟩
  | erase key => store.erase key
  | get _ | lookup _ | keys | entries | size | isEmpty => store

def perform (storage : Storage) (handle : Handle) : StoreCall → Storage
  | put key response now => storage.put handle key response now
  | erase key => storage.erase handle key
  | get _ | lookup _ | keys | entries | size | isEmpty => storage

end StoreCall

namespace Call

/-- What a storage answers and what becomes of it. Deleting answers whether there was something to
delete. -/
def perform (storage : Storage) : Call → Answer × Storage
  | openStore name => (.handle (storage.openStore name).1, (storage.openStore name).2)
  | delete name => (.flag (storage.contains name), storage.delete name)
  | contains name => (.flag (storage.contains name), storage)
  | names => (.names storage.keys, storage)
  | matchRequest key => (.response (storage.matchRequest key), storage)
  | through handle call => (call.answer (storage.store handle), call.perform storage handle)

/-- The handle that a call goes through. -/
def handle? : Call → Option Handle
  | through handle _ => some handle
  | openStore _ | delete _ | contains _ | names | matchRequest _ => none

end Call

namespace Storage

theorem store_create (storage : Storage) (name : String) (handle : Handle) :
    (storage.create name).2.store handle =
      if handle = storage.stores.size then .empty name else storage.store handle := by
  simp only [store_eq_getElem?, create, Array.getElem?_push]
  split <;> rfl

theorem store_modify (storage : Storage) (handle other : Handle) (change : Store → Store)
    (keeps : ∀ store, (change store).name = store.name) :
    (storage.modify handle change keeps).store other =
      if handle = other ∧ handle < storage.stores.size then change (storage.store handle)
      else storage.store other := by
  simp only [store_eq_getElem?, modify, Array.getElem?_modify]
  by_cases same : handle = other
  · subst same
    by_cases present : handle < storage.stores.size
    · simp [present]
    · simp [present]
  · simp [same]

theorem store_erase (storage : Storage) (handle other : Handle) (key : Key) :
    (storage.erase handle key).store other =
      if handle = other ∧ handle < storage.stores.size then (storage.store handle).erase key
      else storage.store other :=
  store_modify storage handle other (·.erase key) fun _ => rfl

theorem lookup?_erase (storage : Storage) (handle other : Handle) (key sought : Key) :
    ((storage.erase handle key).store other).lookup? sought =
      if handle = other ∧ key = sought then none else (storage.store other).lookup? sought := by
  rw [store_erase]
  by_cases there : handle = other ∧ handle < storage.stores.size
  · obtain ⟨rfl, present⟩ := there
    simp only [present, and_self, if_true, true_and, Store.erase, Store.lookup?,
      Std.TreeMap.getElem?_erase, Std.LawfulEqCmp.compare_eq_iff_eq]
  · rw [if_neg there]
    split
    · next same =>
      obtain ⟨rfl, -⟩ := same
      cases held : (storage.store handle).lookup? sought with
      | none => rfl
      | some entry => exact absurd ⟨rfl, lt_size_of_lookup? held⟩ there
    · rfl

theorem size_perform (storage : Storage) (handle : Handle) (call : StoreCall) :
    (call.perform storage handle).stores.size = storage.stores.size := by
  cases call <;> simp [StoreCall.perform, put, insert, erase, modify]

theorem names_perform (storage : Storage) (handle : Handle) (call : StoreCall) :
    (call.perform storage handle).names = storage.names := by
  cases call <;> rfl

theorem store_perform (storage : Storage) (handle other : Handle) (call : StoreCall) :
    (call.perform storage handle).store other =
      if handle = other ∧ handle < storage.stores.size then call.change (storage.store handle)
      else storage.store other := by
  cases call with
  | put key response now =>
    exact store_modify storage handle other (·.insert key ⟨response, now⟩) fun _ => rfl
  | erase key => exact store_erase storage handle other key
  | _ =>
    simp only [StoreCall.perform, StoreCall.change]
    split
    · next same => rw [same.1]
    · rfl

theorem find?_perform (storage : Storage) (handle : Handle) (call : StoreCall) (name : String) :
    (call.perform storage handle).find? name = storage.find? name := by
  rw [find?, find?, names_perform]

theorem Detached.perform {storage : Storage} {handle : Handle} (gone : storage.Detached handle)
    (other : Handle) (call : StoreCall) : (call.perform storage other).Detached handle :=
  ⟨by rw [size_perform]; exact gone.1, fun name => by rw [find?_perform]; exact gone.2 name⟩

theorem Detached.openStore {storage : Storage} {handle : Handle} (gone : storage.Detached handle)
    (name : String) : (storage.openStore name).2.Detached handle :=
  (@Evolves.openStore (fun _ _ => True) storage name).detached gone

theorem Detached.delete {storage : Storage} {handle : Handle} (gone : storage.Detached handle)
    (name : String) : (storage.delete name).Detached handle :=
  (@Evolves.delete (fun _ _ => True) storage name).detached gone

/-- No call makes a name lead to a store again. -/
theorem Detached.call {storage : Storage} {handle : Handle} (gone : storage.Detached handle)
    (call : Call) : (call.perform storage).2.Detached handle := by
  cases call with
  | openStore name => exact gone.openStore name
  | delete name => exact gone.delete name
  | through other asked => exact gone.perform other asked
  | contains | names | matchRequest => exact gone

/-- Storages that differ in one store at most, which no name leads to. -/
structure SameBut (handle : Handle) (storage other : Storage) : Prop where
  detached : storage.Detached handle
  names : storage.names = other.names
  size : storage.stores.size = other.stores.size
  store {elsewhere : Handle} (different : elsewhere ≠ handle) :
    storage.store elsewhere = other.store elsewhere

namespace SameBut

variable {handle : Handle} {storage other : Storage}

theorem refl (gone : storage.Detached handle) : SameBut handle storage storage :=
  ⟨gone, rfl, rfl, fun _ => rfl⟩

theorem find?_eq (same : SameBut handle storage other) (name : String) :
    storage.find? name = other.find? name := by
  rw [find?, find?, same.names]

theorem toList_eq (same : SameBut handle storage other) : storage.toList = other.toList :=
  toList_congr same.names fun {name _} found =>
    same.store fun there => same.detached.2 name (there ▸ found)

/-- What goes through the one handle makes no other difference. -/
theorem through (same : SameBut handle storage other) (call : StoreCall) :
    SameBut handle (call.perform storage handle) other where
  detached := same.detached.perform handle call
  names := (names_perform storage handle call).trans same.names
  size := (size_perform storage handle call).trans same.size
  store different := by
    rw [store_perform, if_neg fun there => different there.1.symm, same.store different]

/-- What goes through another handle makes the same difference to both. -/
theorem perform (same : SameBut handle storage other) {through : Handle}
    (different : through ≠ handle) (call : StoreCall) :
    SameBut handle (call.perform storage through) (call.perform other through) where
  detached := same.detached.perform through call
  names := by rw [names_perform, names_perform, same.names]
  size := by rw [size_perform, size_perform, same.size]
  store elsewhere := by
    rw [store_perform, store_perform, same.size, same.store different, same.store elsewhere]

theorem openStore (same : SameBut handle storage other) (name : String) :
    (storage.openStore name).1 = (other.openStore name).1 ∧
      SameBut handle (storage.openStore name).2 (other.openStore name).2 := by
  have detached := same.detached.openStore name
  revert detached
  rw [Storage.openStore, Storage.openStore, same.find?_eq]
  cases other.find? name with
  | some held => exact fun _ => ⟨rfl, same⟩
  | none =>
    refine fun detached => ⟨same.size, detached, ?_, ?_, fun different => ?_⟩
    · simp only [create, same.names, same.size]
    · simp only [create, Array.size_push, same.size]
    · rw [store_create, store_create, same.size, same.store different]

theorem delete (same : SameBut handle storage other) (name : String) :
    SameBut handle (storage.delete name) (other.delete name) where
  detached := same.detached.delete name
  names := by simp only [Storage.delete, same.names]
  size := same.size
  store := same.store

/-- A call that does not go through the one handle is answered alike. -/
theorem call (same : SameBut handle storage other) {call : Call}
    (avoids : call.handle? ≠ some handle) :
    (call.perform storage).1 = (call.perform other).1 ∧
      SameBut handle (call.perform storage).2 (call.perform other).2 := by
  cases call with
  | openStore name => exact ⟨congrArg Answer.handle (same.openStore name).1, (same.openStore name).2⟩
  | delete name =>
    exact ⟨by simp only [Call.perform, contains, same.names], same.delete name⟩
  | contains name => exact ⟨by simp only [Call.perform, contains, same.names], same⟩
  | names => exact ⟨by simp only [Call.perform, keys, same.names], same⟩
  | matchRequest key => exact ⟨by simp only [Call.perform, matchRequest, same.toList_eq], same⟩
  | through held asked =>
    have different : held ≠ handle := fun there => avoids (congrArg some there)
    exact ⟨by simp only [Call.perform, same.store different], same.perform different asked⟩

end SameBut

/-- Calls one after the other, each with its answer. -/
def transcript (storage : Storage) : List Call → List (Call × Answer)
  | [] => []
  | call :: later =>
    (call, (call.perform storage).1) :: (call.perform storage).2.transcript later

theorem SameBut.transcript_eq {handle : Handle} {storage other : Storage}
    (same : SameBut handle storage other) (calls : List Call) :
    (storage.transcript calls).filter (·.1.handle? ≠ some handle) =
      other.transcript (calls.filter (·.handle? ≠ some handle)) := by
  induction calls generalizing storage other with
  | nil => rfl
  | cons call later ih =>
    by_cases through : call.handle? = some handle
    · rw [transcript, List.filter_cons_of_neg (by simpa using through),
        List.filter_cons_of_neg (by simpa using through)]
      cases call with
      | through held asked =>
        obtain rfl : held = handle := Option.some.inj through
        exact ih (same.through asked)
      | _ => cases through
    · obtain ⟨answer, after⟩ := same.call through
      rw [transcript, List.filter_cons_of_pos (by simpa using through),
        List.filter_cons_of_pos (by simpa using through), transcript, answer, ih after]

/-- Calls through the handle of a deleted store may be left out: the others are answered alike. -/
theorem Detached.transcript_eq {storage : Storage} {handle : Handle}
    (gone : storage.Detached handle) (calls : List Call) :
    (storage.transcript calls).filter (·.1.handle? ≠ some handle) =
      storage.transcript (calls.filter (·.handle? ≠ some handle)) :=
  (SameBut.refl gone).transcript_eq calls

end Storage

end OfflineSite.Cache
