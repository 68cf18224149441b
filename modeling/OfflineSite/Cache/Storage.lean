import OfflineSite.Cache.Store

namespace OfflineSite.Cache

/-- What a store is held by. -/
abbrev Handle := Nat

/-- All stores that were ever opened, each at its handle, and the names of those not deleted. What
holds a store keeps it when it is deleted, so names lead to stores by way of handles: what is
written through the handle of a deleted store is never found under its name again. -/
structure Storage where
  names : Std.TreeMap String Handle
  stores : Array Store
  /-- A name leads to a store of that name, so no two names lead to the same one. -/
  named {name : String} {handle : Handle} (found : names[name]? = some handle) :
    (stores[handle]?).map Store.name = some name

namespace Storage

def empty : Storage where
  names := ∅
  stores := #[]
  named found := by simp at found

instance : Inhabited Storage := ⟨empty⟩

/-- The store behind a handle. -/
def store (storage : Storage) (handle : Handle) : Store := storage.stores.getD handle default

/-- The handle of the store of a name, if there is one. -/
def find? (storage : Storage) (name : String) : Option Handle := storage.names[name]?

def contains (storage : Storage) (name : String) : Bool := storage.names.contains name

/-- Adds an empty store under a name. -/
def create (storage : Storage) (name : String) : Handle × Storage :=
  (storage.stores.size,
    { names := storage.names.insert name storage.stores.size
      stores := storage.stores.push (.empty name)
      named := by
        intro other handle found
        rw [Std.TreeMap.getElem?_insert] at found
        split at found
        · next same =>
          obtain rfl := Std.LawfulEqCmp.eq_of_compare same
          obtain rfl := Option.some.inj found
          simp [Store.empty]
        · obtain ⟨store, present, sameName⟩ := Option.map_eq_some_iff.mp (storage.named found)
          obtain ⟨bound, atHandle⟩ := Array.getElem?_eq_some_iff.mp present
          rw [Array.getElem?_push_lt bound, atHandle, Option.map_some, sameName] })

/-- Opens the store of a name, which is made if there is none. -/
def openStore (storage : Storage) (name : String) : Handle × Storage :=
  match storage.find? name with
  | some handle => (handle, storage)
  | none => storage.create name

/-- Takes a name out. -/
def delete (storage : Storage) (name : String) : Storage where
  names := storage.names.erase name
  stores := storage.stores
  named found := by
    rw [Std.TreeMap.getElem?_erase] at found
    split at found
    · simp at found
    · exact storage.named found

/-- Changes the store behind a handle, except for its name. -/
def modify (storage : Storage) (handle : Handle) (change : Store → Store)
    (keeps : ∀ store, (change store).name = store.name) : Storage where
  names := storage.names
  stores := storage.stores.modify handle change
  named found := by
    have there := storage.named found
    rw [Array.getElem?_modify]
    split
    · simpa [Function.comp_def, keeps] using there
    · exact there

/-- Adds an entry to the store behind a handle. -/
def insert (storage : Storage) (handle : Handle) (key : Key) (entry : Entry) : Storage :=
  storage.modify handle (·.insert key entry) fun _ => rfl

/-- Stores a response as of now. -/
def put (storage : Storage) (handle : Handle) (key : Key) (response : FetchResponse)
    (now : Timestamp) : Storage :=
  storage.insert handle key ⟨response, now⟩

/-- Removes an entry from the store behind a handle. -/
def erase (storage : Storage) (handle : Handle) (key : Key) : Storage :=
  storage.modify handle (·.erase key) fun _ => rfl

/-- The names of all stores, in order. -/
def keys (storage : Storage) : List String := storage.names.keys

/-- The stores in order of their names. -/
def toList (storage : Storage) : List (String × Store) :=
  storage.names.toList.map fun (name, handle) => (name, storage.store handle)

/-- The response stored under a key, in the first store that has one. -/
def matchRequest (storage : Storage) (key : Key) : Option FetchResponse :=
  storage.toList.findSome? fun (_, store) => store.get? key

end Storage

end OfflineSite.Cache
