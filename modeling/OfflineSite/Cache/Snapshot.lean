import OfflineSite.Cache.Storage
import OfflineSite.Failure
import OfflineSite.Toml.Document
import OfflineSite.Toml.Schema
import OfflineSite.Toml.Writer

namespace OfflineSite.Cache

structure EntryRecord where
  method : String
  url : String
  status : UInt16
  storedAt : Timestamp
  /-- The body in base64. -/
  body : String
  headers : List (String × String)
  deriving DecidableEq

structure StoreRecord where
  name : String
  entries : List EntryRecord
  deriving DecidableEq

/-- A document that lists all stores with their entries. -/
structure Snapshot where
  savedAt : Timestamp
  stores : List StoreRecord
  deriving DecidableEq

/-- Bytes as base64 text. -/
def bodyText (body : ByteArray) : String :=
  String.ofList ((Base64.encode body.data.toList).map fun b => Char.ofNat b.toNat)

/-- The bytes of a base64 text. -/
def bodyOf (text : String) : Except Base64.Failure ByteArray :=
  (Base64.decode (Utf8.encode text.toList)).map fun bytes => ⟨bytes.toArray⟩

namespace EntryRecord

def ofEntry (key : Key) (entry : Entry) : EntryRecord where
  method := key.method
  url := key.url
  status := entry.response.status
  storedAt := entry.storedAt
  body := bodyText entry.response.body
  headers := entry.response.headers

def key (record : EntryRecord) : Key := ⟨record.method, record.url⟩

def entry (record : EntryRecord) : Except SnapshotFailure Entry :=
  match bodyOf record.body with
  | .ok body => .ok ⟨⟨record.status, record.headers, body⟩, record.storedAt⟩
  | .error cause => .error (.body record.url cause)

/-- A record as TOML, under the header of its store. -/
def toml (record : EntryRecord) : String :=
  let header : String × String → String := fun (name, value) =>
    Toml.inlineArray [Toml.quoted name, Toml.quoted value]
  "\n" ++ Toml.itemHeader "stores.entries" ++
    Toml.assignment "method" (Toml.quoted record.method) ++
    Toml.assignment "url" (Toml.quoted record.url) ++
    Toml.assignment "status" (toString record.status.toNat) ++
    Toml.assignment "stored_at" (Toml.quoted record.storedAt.text) ++
    Toml.assignment "body" (Toml.quoted record.body) ++
    Toml.assignment "headers" (Toml.inlineArray (record.headers.map header))

def ofToml? (value : Toml.Value) : Option EntryRecord := do
  let record ← Toml.Record.ofValue? ["method", "url", "status", "stored_at", "body", "headers"]
    value
  return {
    method := ← record.required "method" (·.string?)
    url := ← record.required "url" (·.string?)
    status := (← record.required "status" (·.natural? 65535)).toUInt16
    storedAt := ← record.required "stored_at" (·.string?.bind Timestamp.parse?)
    body := ← record.required "body" (·.string?)
    headers := ← record.withDefault "headers" (·.list? (·.pair? (·.string?) (·.string?))) [] }

end EntryRecord

namespace StoreRecord

def ofStore (name : String) (store : Store) : StoreRecord :=
  ⟨name, store.toList.map fun (key, entry) => .ofEntry key entry⟩

/-- The record of the store of a name, which is opened to be read. -/
def take (name : String) : StateM Storage StoreRecord := do
  let handle ← modifyGet (·.openStore name)
  return ofStore name ((← get).store handle)

def toml (record : StoreRecord) : String :=
  "\n" ++ Toml.itemHeader "stores" ++
    Toml.assignment "name" (Toml.quoted record.name) ++
    (if record.entries.isEmpty then Toml.assignment "entries" "[]" else "") ++
    String.join (record.entries.map (·.toml))

def ofToml? (value : Toml.Value) : Option StoreRecord := do
  let record ← Toml.Record.ofValue? ["name", "entries"] value
  return {
    name := ← record.required "name" (·.string?)
    entries := ← record.withDefault "entries" (·.list? EntryRecord.ofToml?) [] }

end StoreRecord

namespace Snapshot

/-- The storage as a document. -/
def take (now : Timestamp) : StateM Storage Snapshot := do
  let stores ← (← get).keys.mapM StoreRecord.take
  return ⟨now, stores⟩

/-- Adds the entries of a record to the store behind a handle. -/
def fillStore (handle : Handle) (storage : Storage) (record : EntryRecord) :
    Except SnapshotFailure Storage := do
  return storage.insert handle record.key (← record.entry)

/-- Opens the store of a record and fills it. Records of one name fill one store. -/
def addStore (storage : Storage) (record : StoreRecord) : Except SnapshotFailure Storage :=
  let (handle, storage) := storage.openStore record.name
  record.entries.foldlM (fillStore handle) storage

/-- The storage that a document describes. -/
def toStorage (snapshot : Snapshot) : Except SnapshotFailure Storage :=
  snapshot.stores.foldlM addStore .empty

/-- The document as TOML. -/
def toml (snapshot : Snapshot) : String :=
  Toml.assignment "saved_at" (Toml.quoted snapshot.savedAt.text) ++
    (if snapshot.stores.isEmpty then Toml.assignment "stores" "[]" else "") ++
    String.join (snapshot.stores.map (·.toml))

/-- The document that a TOML text holds, if it is one. -/
def ofText? (text : String) : Option Snapshot := do
  let record ← Toml.Record.ofValue? ["saved_at", "stores"] (.table (← Toml.parse? text))
  return {
    savedAt := ← record.required "saved_at" (·.string?.bind Timestamp.parse?)
    stores := ← record.withDefault "stores" (·.list? StoreRecord.ofToml?) [] }

end Snapshot

end OfflineSite.Cache
