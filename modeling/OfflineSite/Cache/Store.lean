import Std.Data.TreeMap
import OfflineSite.Cache.Key
import OfflineSite.Fetch.Response
import OfflineSite.Timestamp

namespace OfflineSite.Cache

structure Entry where
  response : FetchResponse
  storedAt : Timestamp

/-- Responses by key, each with the time when it was stored. -/
structure Store where
  name : String
  entries : Std.TreeMap Key Entry
  deriving Inhabited

namespace Store

def empty (name : String) : Store := ⟨name, ∅⟩

def lookup? (store : Store) (key : Key) : Option Entry := store.entries[key]?

def get? (store : Store) (key : Key) : Option FetchResponse :=
  (store.lookup? key).map (·.response)

/-- Adds an entry, in place of the one that was there. -/
def insert (store : Store) (key : Key) (entry : Entry) : Store :=
  { store with entries := store.entries.insert key entry }

def erase (store : Store) (key : Key) : Store :=
  { store with entries := store.entries.erase key }

def contains (store : Store) (key : Key) : Bool := store.entries.contains key

/-- The keys in order. -/
def keys (store : Store) : List Key := store.entries.keys

/-- The entries in order of their keys. -/
def toList (store : Store) : List (Key × Entry) := store.entries.toList

def size (store : Store) : Nat := store.entries.size

def isEmpty (store : Store) : Bool := store.entries.isEmpty

end Store

end OfflineSite.Cache
