import OfflineSite.Proofs.Cache.Persistence

namespace OfflineSite.Cache

theorem bodyOf_eq_ok_iff {text : String} {body : ByteArray} :
    bodyOf text = .ok body ↔ text = bodyText body := by
  constructor
  · intro read
    unfold bodyOf at read
    cases decoded : Base64.decode (Utf8.encode text.toList) with
    | error cause =>
      rw [decoded] at read
      cases read
    | ok bytes =>
      rw [decoded] at read
      obtain rfl := Except.ok.inj read
      have written := Base64.decode_eq_ok_iff.mp decoded
      have same := encode_bodyText ⟨bytes.toArray⟩
      exact String.toList_inj.mp (Utf8.encode_inj (written.trans same.symm))
  · rintro rfl
    exact bodyOf_bodyText body

namespace EntryRecord

variable {record : EntryRecord} {entry : Entry}

/-- What a record says of an entry. -/
structure Describes (record : EntryRecord) (entry : Entry) : Prop where
  status : entry.response.status = record.status
  headers : entry.response.headers = record.headers
  storedAt : entry.storedAt = record.storedAt
  body : record.body = bodyText entry.response.body

theorem entry_eq_ok_iff : record.entry = .ok entry ↔ record.Describes entry := by
  constructor
  · intro made
    unfold EntryRecord.entry at made
    split at made
    · next body read =>
      obtain rfl := Except.ok.inj made
      exact ⟨rfl, rfl, rfl, bodyOf_eq_ok_iff.mp read⟩
    · cases made
  · rintro ⟨status, headers, storedAt, body⟩
    obtain ⟨⟨_, _, _⟩, _⟩ := entry
    cases status
    cases headers
    cases storedAt
    rw [EntryRecord.entry, bodyOf_eq_ok_iff.mpr body]

/-- What is wrong with a record: its body, if that is not base64. -/
def fault? (record : EntryRecord) : Option SnapshotFailure :=
  match record.entry with
  | .ok _ => none
  | .error failure => some failure

/-- The entry that a record describes, under its key. -/
def pair? (record : EntryRecord) : Option (Key × Entry) :=
  record.entry.toOption.map (record.key, ·)

theorem fault?_of_ok (made : record.entry = .ok entry) : record.fault? = none := by
  rw [fault?, made]

theorem exists_entry (fine : record.fault? = none) : ∃ entry, record.entry = .ok entry := by
  unfold fault? at fine
  split at fine
  · next entry made => exact ⟨entry, made⟩
  · cases fine

theorem fault?_eq_none_iff : record.fault? = none ↔ ∃ body, record.body = bodyText body := by
  constructor
  · intro fine
    obtain ⟨entry, made⟩ := exists_entry fine
    exact ⟨_, (entry_eq_ok_iff.mp made).body⟩
  · rintro ⟨body, written⟩
    rw [fault?, EntryRecord.entry, bodyOf_eq_ok_iff.mpr written]

theorem fault?_eq_some_iff {failure : SnapshotFailure} :
    record.fault? = some failure ↔
      ∃ cause, bodyOf record.body = .error cause ∧ failure = .body record.url cause := by
  rw [fault?, EntryRecord.entry]
  cases bodyOf record.body <;> simp [eq_comm]

end EntryRecord

namespace Snapshot

open EntryRecord (fault? pair?)

theorem foldlM_fillStore (handle : Handle) (storage : Storage) (records : List EntryRecord) :
    records.foldlM (fillStore handle) storage =
      (records.findSome? fault?).elim (.ok (storage.fill handle (records.filterMap pair?)))
        .error := by
  induction records generalizing storage with
  | nil => rfl
  | cons first rest ih =>
    rw [List.foldlM_cons, fillStore]
    cases made : first.entry with
    | error failure =>
      have fault : fault? first = some failure := by rw [fault?, made]
      rw [List.findSome?_cons, fault]
      rfl
    | ok entry =>
      have pair : pair? first = some (first.key, entry) := by
        rw [pair?, made]
        rfl
      rw [List.findSome?_cons, EntryRecord.fault?_of_ok made, List.filterMap_cons_some pair]
      exact ih _

/-- What a section of a document says, as far as it can be read. -/
def listing (record : StoreRecord) : String × List (Key × Entry) :=
  (record.name, record.entries.filterMap pair?)

/-- All records of a document, in the order in which it lists them. -/
def records (snapshot : Snapshot) : List EntryRecord := snapshot.stores.flatMap (·.entries)

/-- Reading stops at the first record that is spoilt. -/
theorem toStorage_eq (snapshot : Snapshot) :
    snapshot.toStorage = (snapshot.records.findSome? fault?).elim
      (.ok (Storage.empty.extendAll (snapshot.stores.map listing))) .error := by
  suffices added : ∀ (stores : List StoreRecord) (storage : Storage),
      stores.foldlM addStore storage = ((stores.flatMap (·.entries)).findSome? fault?).elim
        (.ok (storage.extendAll (stores.map listing))) .error from added snapshot.stores .empty
  intro stores storage
  induction stores generalizing storage with
  | nil => rfl
  | cons first rest ih =>
    have opened : addStore storage first =
        first.entries.foldlM (fillStore (storage.openStore first.name).1)
          (storage.openStore first.name).2 := rfl
    rw [List.foldlM_cons, opened, foldlM_fillStore, List.flatMap_cons, List.findSome?_append]
    cases first.entries.findSome? fault? with
    | some failure => rfl
    | none => exact ih _

/-- All that a document lists for a store, in the order of its sections. -/
def recordsOf (snapshot : Snapshot) (name : String) : List EntryRecord :=
  (snapshot.stores.filter (·.name = name)).flatMap (·.entries)

/-- The last record that a document lists for a store under a key. -/
def last? (snapshot : Snapshot) (name : String) (key : Key) : Option EntryRecord :=
  (snapshot.recordsOf name).reverse.find? (·.key = key)

theorem mem_records_of_mem {snapshot : Snapshot} {name : String} {record : EntryRecord}
    (listed : record ∈ snapshot.recordsOf name) : record ∈ snapshot.records := by
  obtain ⟨store, kept, member⟩ := List.mem_flatMap.mp listed
  exact List.mem_flatMap.mpr ⟨store, (List.mem_filter.mp kept).1, member⟩

theorem listed_listing (snapshot : Snapshot) (name : String) :
    Storage.listed (snapshot.stores.map listing) name =
      (snapshot.recordsOf name).filterMap pair? := by
  rw [Storage.listed, List.filter_map, List.flatMap_map, recordsOf, List.filterMap_flatMap]
  rfl

theorem lookup_filterMap_pair? {records : List EntryRecord}
    (fine : ∀ record ∈ records, record.fault? = none) (key : Key) :
    (records.filterMap pair?).lookup key =
      (records.find? (·.key = key)).bind fun record => record.entry.toOption := by
  induction records with
  | nil => rfl
  | cons first rest ih =>
    have others := ih fun record member => fine record (List.mem_cons_of_mem first member)
    obtain ⟨entry, made⟩ := EntryRecord.exists_entry (fine first (List.mem_cons_self ..))
    have pair : pair? first = some (first.key, entry) := by
      rw [pair?, made]
      rfl
    rw [List.filterMap_cons_some pair]
    by_cases same : first.key = key
    · subst same
      rw [List.lookup_cons_self, List.find?_cons_of_pos (by simp), Option.bind_some, made]
      rfl
    · have different : (key == first.key) = false := by simpa using Ne.symm same
      rw [List.lookup_cons, different, List.find?_cons_of_neg (by simpa using same)]
      exact others

theorem fault?_of_toStorage {snapshot : Snapshot} {storage : Storage}
    (made : snapshot.toStorage = .ok storage) :
    snapshot.records.findSome? fault? = none ∧
      storage = Storage.empty.extendAll (snapshot.stores.map listing) := by
  rw [toStorage_eq] at made
  cases spoilt : snapshot.records.findSome? fault? with
  | some failure =>
    rw [spoilt] at made
    cases made
  | none =>
    rw [spoilt] at made
    exact ⟨rfl, (Except.ok.inj made).symm⟩

/-- The storage has the stores that the document has sections for. -/
theorem contains_toStorage {snapshot : Snapshot} {storage : Storage}
    (made : snapshot.toStorage = .ok storage) (name : String) :
    storage.contains name ↔ name ∈ snapshot.stores.map (·.name) := by
  obtain ⟨_, rfl⟩ := fault?_of_toStorage made
  have names : (snapshot.stores.map listing).map Prod.fst = snapshot.stores.map (·.name) := by
    rw [List.map_map]
    rfl
  rw [Storage.contains_extendAll, names]
  simp [Storage.contains, Storage.empty]

/-- A store holds under a key what the last record says that is listed for it. -/
theorem held?_toStorage {snapshot : Snapshot} {storage : Storage}
    (made : snapshot.toStorage = .ok storage) (name : String) (key : Key) :
    storage.held? name key =
      (snapshot.last? name key).bind fun record => record.entry.toOption := by
  obtain ⟨fine, rfl⟩ := fault?_of_toStorage made
  rw [Storage.held?_extendAll, Storage.held?_empty, Option.or_none, listed_listing, ← List.filterMap_reverse]
  refine lookup_filterMap_pair? (fun record member => ?_) key
  exact List.findSome?_eq_none_iff.mp fine record
    (mem_records_of_mem (List.mem_reverse.mp member))

end Snapshot

namespace Storage

section

variable {σ : Type} {files : Files (StateM σ)} {path text : String} {disk : σ} {snapshot : Snapshot}

theorem run_load_document (held : ((files.read path).run disk).1 = .ok text.toUTF8)
    (parses : Snapshot.ofText? text = some snapshot) :
    ((load files path).run.run disk).1 = snapshot.toStorage.mapError .snapshot := by
  rw [run_load held, ofBytes, textOf_toUTF8]
  simp only [Except.mapError, bind, Except.bind, parses]

/-- A file that holds a document is loaded exactly when the body of every record in it is base64.
Then the stores are those that the document has sections for, and each holds under each key what
the last record says that any section of its name lists under that key, and nothing else. Otherwise
the first record whose body is not base64 is what the failure names. -/
theorem document_loaded_or_refused (held : ((files.read path).run disk).1 = .ok text.toUTF8)
    (parses : Snapshot.ofText? text = some snapshot) :
    let result := ((load files path).run.run disk).1
    ((∃ storage, result = .ok storage) ↔
      ∀ record ∈ snapshot.records, ∃ body, record.body = bodyText body) ∧
    (∀ storage, result = .ok storage →
      (∀ name, storage.contains name ↔ name ∈ snapshot.stores.map (·.name)) ∧
      ∀ name key entry, storage.held? name key = some entry ↔
        ∃ record, snapshot.last? name key = some record ∧ record.Describes entry) ∧
    ((¬ ∀ record ∈ snapshot.records, ∃ body, record.body = bodyText body) →
      ∃ before spoilt after cause, snapshot.records = before ++ spoilt :: after ∧
        (∀ record ∈ before, ∃ body, record.body = bodyText body) ∧
        bodyOf spoilt.body = .error cause ∧
        result = .error (.snapshot (.body spoilt.url cause))) := by
  intro result
  have loaded : result = snapshot.toStorage.mapError .snapshot := run_load_document held parses
  have stops := snapshot.toStorage_eq
  have fine : snapshot.records.findSome? EntryRecord.fault? = none ↔
      ∀ record ∈ snapshot.records, ∃ body, record.body = bodyText body := by
    simp only [List.findSome?_eq_none_iff, EntryRecord.fault?_eq_none_iff]
  refine ⟨?_, ?_, ?_⟩
  · rw [loaded, stops, ← fine]
    cases snapshot.records.findSome? EntryRecord.fault? <;> simp [Except.mapError]
  · intro storage same
    have made : snapshot.toStorage = .ok storage := by
      rw [loaded] at same
      cases read : snapshot.toStorage with
      | error failure =>
        rw [read] at same
        cases same
      | ok other =>
        rw [read] at same
        exact congrArg _ (Except.ok.inj same)
    refine ⟨Snapshot.contains_toStorage made, fun name key entry => ?_⟩
    rw [Snapshot.held?_toStorage made, Option.bind_eq_some_iff]
    refine exists_congr fun record => and_congr_right fun _ => ?_
    rw [← EntryRecord.entry_eq_ok_iff]
    cases record.entry <;> simp [Except.toOption]
  · intro spoils
    obtain ⟨failure, found⟩ := Option.ne_none_iff_exists'.mp (mt fine.mp spoils)
    obtain ⟨before, spoilt, after, whole, fault, earlier⟩ := List.findSome?_eq_some_iff.mp found
    obtain ⟨cause, unread, rfl⟩ := EntryRecord.fault?_eq_some_iff.mp fault
    refine ⟨before, spoilt, after, cause, whole, ?_, unread, ?_⟩
    · exact fun record member => EntryRecord.fault?_eq_none_iff.mp (earlier record member)
    · rw [loaded, stops, found]
      rfl

end

namespace Merged

def text : String :=
  "saved_at = \"2026-01-02T12:00:00Z\"\n" ++
  "stores = [[\"v1\", [[\"GET\", \"u\", 200, \"2026-01-02T12:00:00Z\", \"YQ==\"]]], [\"v0\"],\n" ++
  "  [\"v1\", [[\"GET\", \"u\", 203, \"2026-01-02T12:00:00Z\", \"Yg==\"]]]]"

def first : EntryRecord := ⟨"GET", "u", 200, Kept.noon, "YQ==", []⟩

def last : EntryRecord := ⟨"GET", "u", 203, Kept.noon, "Yg==", []⟩

def snapshot : Snapshot := ⟨Kept.noon, [⟨"v1", [first]⟩, ⟨"v0", []⟩, ⟨"v1", [last]⟩]⟩

def disk : FileTree := ((FileTree.files.write "cache.toml" text.toUTF8).run FileTree.empty).2

theorem parses : Snapshot.ofText? text = some snapshot := by
  decide +kernel

theorem body_first : first.body = bodyText "a".toUTF8 := by
  decide +kernel

theorem body_last : last.body = bodyText "b".toUTF8 := by
  decide +kernel

theorem write_text :
    ((FileTree.files.write "cache.toml" text.toUTF8).run FileTree.empty).1 = .ok () := by
  rfl

end Merged

open Merged in
/-- A document with two sections of one name, which list one key twice, and one without entries. -/
theorem last_record_loaded :
    ∃ storage, ((load FileTree.files "cache.toml").run.run disk).1 = .ok storage ∧
      storage.contains "v0" ∧ storage.held? "v1" ⟨"GET", "u"⟩ =
        some ⟨⟨203, [], "b".toUTF8⟩, Kept.noon⟩ := by
  have held : ((FileTree.files.read "cache.toml").run disk).1 = .ok text.toUTF8 :=
    FileTree.faithful.read_write (Prod.ext write_text rfl)
  have readable : ∀ record ∈ snapshot.records, ∃ body, record.body = bodyText body := by
    have listed : snapshot.records = [first, last] := rfl
    rw [listed]
    simp only [List.mem_cons, List.not_mem_nil, or_false, forall_eq_or_imp, forall_eq]
    exact ⟨⟨_, body_first⟩, _, body_last⟩
  obtain ⟨loads, holds, _⟩ := document_loaded_or_refused held parses
  obtain ⟨storage, loaded⟩ := loads.mpr readable
  obtain ⟨names, entries⟩ := holds storage loaded
  refine ⟨storage, loaded, (names "v0").mpr (by decide), (entries "v1" _ _).mpr ⟨last, ?_, ?_⟩⟩
  · decide
  · exact ⟨rfl, rfl, rfl, body_last⟩

end Storage

end OfflineSite.Cache
