import OfflineSite.Proofs.Cache.Calls
import OfflineSite.Proofs.Cache.Order

namespace OfflineSite.Cache

namespace Storage

theorem name_openStore {storage : Storage} {handle : Handle} {name : String}
    (bears : (storage.stores[handle]?).map Store.name = some name) (opened : String) :
    ((storage.openStore opened).2.stores[handle]?).map Store.name = some name := by
  unfold openStore
  split
  · exact bears
  · obtain ⟨store, present, same⟩ := Option.map_eq_some_iff.mp bears
    obtain ⟨bound, atHandle⟩ := Array.getElem?_eq_some_iff.mp present
    simp only [create, Array.getElem?_push_lt bound, atHandle, Option.map_some, same]

/-- A store bears its name for ever. -/
theorem name_call {storage : Storage} {handle : Handle} {name : String}
    (bears : (storage.stores[handle]?).map Store.name = some name) (call : Call) :
    ((call.perform storage).2.stores[handle]?).map Store.name = some name := by
  have modified (other : Handle) {change : Store → Store}
      (keeps : ∀ store, (change store).name = store.name) :
      ((storage.modify other change keeps).stores[handle]?).map Store.name = some name := by
    simp only [modify, Array.getElem?_modify]
    split
    · simpa [Function.comp_def, keeps] using bears
    · exact bears
  cases call with
  | openStore opened => exact name_openStore bears opened
  | delete | contains | names | matchRequest => exact bears
  | through other asked =>
    cases asked with
    | put written response now =>
      exact @modified other (·.insert written ⟨response, now⟩) fun _ => rfl
    | erase erased => exact @modified other (·.erase erased) fun _ => rfl
    | _ => exact bears

/-- A name leads to the same store until it is deleted. -/
theorem find?_call {storage : Storage} {handle : Handle} {name : String}
    (found : storage.find? name = some handle) {call : Call} (kept : call ≠ .delete name) :
    (call.perform storage).2.find? name = some handle := by
  cases call with
  | openStore opened => exact find?_openStore_of_found found opened
  | delete deleted =>
    have different : deleted ≠ name := fun same => kept (same ▸ rfl)
    simp only [Call.perform, find?_delete, if_neg different, found]
  | through other asked => exact (find?_perform storage other asked name).trans found
  | contains | names | matchRequest => exact found

end Storage

/-- Calls with their answers, the latest first. -/
abbrev Past := List (Call × Answer)

/-- The handle was given out for the store of a name. -/
def Opened (past : Past) (name : String) (handle : Handle) : Prop :=
  (Call.openStore name, Answer.handle handle) ∈ past

/-- What a storage that was empty at first has become by the calls that are recorded. A call can only
go through a handle that was given out. -/
inductive Recorded : Past → Storage → Prop
  | start : Recorded [] .empty
  | next {past : Past} {storage : Storage} (recorded : Recorded past storage) (call : Call)
      (held : ∀ handle, call.handle? = some handle → ∃ name, Opened past name handle) :
      Recorded ((call, (call.perform storage).1) :: past) (call.perform storage).2

/-- The handle that was given out when a name was last opened, unless it was deleted since. -/
def leads? (name : String) : Past → Option Handle
  | [] => none
  | (.openStore opened, .handle handle) :: earlier =>
    if opened = name then some handle else leads? name earlier
  | (.delete deleted, _) :: earlier => if deleted = name then none else leads? name earlier
  | _ :: earlier => leads? name earlier

/-- What was last put under a key through a handle, unless it was erased since. -/
def written? (handle : Handle) (key : Key) : Past → Option Entry
  | [] => none
  | (.through held (.put written response now), _) :: earlier =>
    if held = handle ∧ written = key then some ⟨response, now⟩ else written? handle key earlier
  | (.through held (.erase erased), _) :: earlier =>
    if held = handle ∧ erased = key then none else written? handle key earlier
  | _ :: earlier => written? handle key earlier

/-- What the store of a name holds under a key. -/
def holds? (past : Past) (name : String) (key : Key) : Option Entry :=
  (leads? name past).bind fun handle => written? handle key past

/-- A name leads nowhere after it was deleted, until it is opened. -/
theorem leads?_eq_none {name : String} {answer : Answer} (earlier : Past) {between : Past}
    (unopened : ∀ answer, (Call.openStore name, answer) ∉ between) :
    leads? name (between ++ (.delete name, answer) :: earlier) = none := by
  induction between with
  | nil => simp [leads?]
  | cons event later ih =>
    have rest := ih fun answer listed => unopened answer (List.mem_cons_of_mem _ listed)
    rw [List.cons_append]
    obtain ⟨call, given⟩ := event
    cases call with
    | openStore opened =>
      have different : opened ≠ name := fun same =>
        unopened given (same ▸ List.mem_cons_self)
      cases given <;> simp [leads?, different, rest]
    | delete deleted => simp [leads?, rest]
    | contains | names | matchRequest | through => exact rest

namespace Recorded

variable {past earlier between : Past} {storage : Storage} {name : String} {handle : Handle}

/-- What a call brings about, and the calls after it keep, is there. -/
theorem after {call : Call} {answer : Answer}
    (recorded : Recorded (between ++ (call, answer) :: earlier) storage) (kept : Storage → Prop)
    (brought : ∀ {before : Storage}, Recorded earlier before → (call.perform before).1 = answer →
      kept (call.perform before).2)
    (keeps : ∀ event ∈ between, ∀ {before : Storage}, kept before →
      kept (event.1.perform before).2) : kept storage := by
  induction between generalizing storage with
  | nil =>
    cases recorded with
    | next before call held => exact brought before rfl
  | cons event later ih =>
    cases recorded with
    | next before call held =>
      exact keeps _ List.mem_cons_self
        (ih before fun event listed => keeps event (List.mem_cons_of_mem _ listed))

theorem find?_eq (recorded : Recorded past storage) (name : String) :
    storage.find? name = leads? name past := by
  induction recorded with
  | start => exact Std.TreeMap.getElem?_emptyc
  | @next past storage recorded call held ih =>
    cases call with
    | openStore opened =>
      simp only [Call.perform, leads?]
      split
      · next same => rw [← same, Storage.find?_openStore]
      · next different => rw [Storage.find?_openStore_of_ne storage different, ih]
    | delete deleted => simp only [Call.perform, leads?, Storage.find?_delete, ih]
    | through other asked => exact (Storage.find?_perform storage other asked name).trans ih
    | contains | names | matchRequest => exact ih

/-- A handle that was given out leads to a store that bears the name it was given out for. -/
theorem name_eq (recorded : Recorded past storage) (opened : Opened past name handle) :
    (storage.stores[handle]?).map Store.name = some name := by
  induction recorded with
  | start => cases opened
  | @next past storage recorded call held ih =>
    rcases List.mem_cons.mp opened with now | before
    · obtain ⟨rfl, given⟩ := Prod.mk.inj now.symm
      obtain rfl := Answer.handle.inj given
      exact Storage.named _ (Storage.find?_openStore storage name)
    · exact Storage.name_call (ih before) call

theorem lt_size (recorded : Recorded past storage) (opened : Opened past name handle) :
    handle < storage.stores.size := by
  obtain ⟨store, present, -⟩ := Option.map_eq_some_iff.mp (recorded.name_eq opened)
  exact (Array.getElem?_eq_some_iff.mp present).1

theorem lookup?_eq (recorded : Recorded past storage) (handle : Handle) (key : Key) :
    (storage.store handle).lookup? key = written? handle key past := by
  induction recorded with
  | start => exact Store.lookup?_default key
  | @next past storage recorded call held ih =>
    cases call with
    | openStore opened => exact (Storage.lookup?_openStore storage opened handle key).trans ih
    | delete | contains | names | matchRequest => exact ih
    | through other asked =>
      cases asked with
      | put written response now =>
        obtain ⟨name, opened⟩ := held other rfl
        simp only [Call.perform, StoreCall.perform, Storage.put, Storage.lookup?_insert,
          recorded.lt_size opened, true_and, written?, ih]
      | erase erased => simp only [Call.perform, StoreCall.perform, Storage.lookup?_erase, written?, ih]
      | _ => exact ih

theorem held?_eq (recorded : Recorded past storage) (name : String) (key : Key) :
    storage.held? name key = holds? past name key := by
  rw [Storage.held?, holds?, recorded.find?_eq]
  simp only [recorded.lookup?_eq]

/-- A name that was opened leads to the same store until it is deleted. -/
theorem find?_of_undeleted
    (recorded : Recorded (between ++ (.openStore name, .handle handle) :: earlier) storage)
    (undeleted : ∀ answer, (Call.delete name, answer) ∉ between) :
    storage.find? name = some handle := by
  refine recorded.after (fun storage => storage.find? name = some handle)
    (fun {before} _ given => ?_) fun event listed before found => ?_
  · rw [← Answer.handle.inj given]
    exact Storage.find?_openStore before name
  · refine Storage.find?_call found fun same => undeleted event.2 ?_
    rw [← same]
    exact listed

/-- A store whose name was deleted since it was opened is found under no name any more. -/
theorem detached {answer : Answer}
    (recorded : Recorded (between ++ (.delete name, answer) :: earlier) storage)
    (opened : Opened earlier name handle) : storage.Detached handle := by
  refine recorded.after (fun storage => storage.Detached handle)
    (fun {before} recorded _ => ?_) fun event _ before gone => gone.call event.1
  refine ⟨recorded.lt_size opened, fun other found => ?_⟩
  change (before.delete name).find? other = some handle at found
  rw [Storage.find?_delete] at found
  split at found
  · cases found
  · next different =>
    exact different (Option.some.inj ((recorded.name_eq opened).symm.trans (before.named found)))

/-- Two openings of a name give the same handle exactly if it was not deleted between them. -/
theorem openStore_eq_iff {first : String}
    (recorded : Recorded (between ++ (.openStore first, .handle handle) :: earlier) storage)
    (name : String) :
    (storage.openStore name).1 = handle ↔
      name = first ∧ ∀ answer, (Call.delete first, answer) ∉ between := by
  have opened : Opened (between ++ (.openStore first, .handle handle) :: earlier) first handle :=
    List.mem_append_right _ List.mem_cons_self
  constructor
  · intro given
    have found : storage.find? name = some handle := by
      unfold Storage.openStore at given
      split at given
      · next held leads => exact leads.trans (congrArg some given)
      · exact absurd (recorded.lt_size opened) (Nat.not_lt.mpr (Nat.le_of_eq given))
    have same : name = first :=
      Option.some.inj ((storage.named found).symm.trans (recorded.name_eq opened))
    refine ⟨same, fun answer deleted => ?_⟩
    obtain ⟨later, before, rfl⟩ := List.append_of_mem deleted
    rw [List.append_assoc, List.cons_append] at recorded
    exact (recorded.detached (List.mem_append_right _ List.mem_cons_self)).2 name found
  · rintro ⟨rfl, undeleted⟩
    unfold Storage.openStore
    rw [recorded.find?_of_undeleted undeleted]

/-- A name that leads nowhere is opened to a store that is new, and empty. -/
theorem openStore_new (recorded : Recorded past storage) (closed : leads? name past = none) :
    (∀ other, ¬ Opened past other (storage.openStore name).1) ∧
      ((storage.openStore name).2.store (storage.openStore name).1).isEmpty := by
  have made : storage.openStore name = storage.create name := by
    unfold Storage.openStore
    rw [recorded.find?_eq, closed]
  have fresh : (storage.create name).1 = storage.stores.size := rfl
  rw [made]
  refine ⟨fun other opened => Nat.lt_irrefl _ (recorded.lt_size opened), ?_⟩
  rw [Storage.store_create, if_pos fresh]
  exact Std.TreeMap.isEmpty_emptyc

end Recorded

/-- A storage whose next answer to any call is the one that its past tells. -/
structure AsRecorded (past : Past) (storage : Storage) : Prop where
  /-- A handle is given out again for the same name only, and as long as that is not deleted. -/
  openStore {between earlier : Past} {first : String} {handle : Handle}
    (split : past = between ++ (.openStore first, .handle handle) :: earlier) (name : String) :
    (storage.openStore name).1 = handle ↔
      name = first ∧ ∀ answer, (Call.delete first, answer) ∉ between
  contains (name : String) : storage.contains name = (leads? name past).isSome
  /-- Until it is opened again, there is no store of a name that was deleted; then it is another one,
  which is empty. -/
  deleted {between earlier : Past} {name : String} {answer : Answer}
    (split : past = between ++ (.delete name, answer) :: earlier)
    (unopened : ∀ answer, (Call.openStore name, answer) ∉ between) :
    storage.contains name = false ∧ (∀ other, ¬ Opened past other (storage.openStore name).1) ∧
      ((storage.openStore name).2.store (storage.openStore name).1).isEmpty
  /-- Calls through the handle of a deleted store may be left out, whatever else is called: nothing
  else is answered otherwise. -/
  unseen {later earlier : Past} {name : String} {answer : Answer} {handle : Handle}
    (split : past = later ++ (.delete name, answer) :: earlier)
    (opened : Opened earlier name handle) (calls : List Call) :
    (storage.transcript calls).filter (·.1.handle? ≠ some handle) =
      storage.transcript (calls.filter (·.handle? ≠ some handle))
  get? (handle : Handle) (key : Key) :
    (storage.store handle).get? key = (written? handle key past).map Entry.response
  lookup? (handle : Handle) (key : Key) :
    (storage.store handle).lookup? key = written? handle key past
  storeContains (handle : Handle) (key : Key) :
    (storage.store handle).contains key = (written? handle key past).isSome
  /-- The names are listed in order, each once. -/
  ordered_names : storage.keys.Pairwise (· < ·)
  mem_names (name : String) : name ∈ storage.keys ↔ (leads? name past).isSome
  /-- The entries are listed in the order of their keys, each once. -/
  ordered_entries (handle : Handle) :
    (storage.store handle).toList.Pairwise fun first second => first.1.Before second.1
  mem_entries (handle : Handle) (key : Key) (entry : Entry) :
    (key, entry) ∈ (storage.store handle).toList ↔ written? handle key past = some entry
  ordered_keys (handle : Handle) : (storage.store handle).keys.Pairwise Key.Before
  keys (handle : Handle) :
    (storage.store handle).keys = (storage.store handle).toList.map Prod.fst
  size (handle : Handle) : (storage.store handle).size = (storage.store handle).toList.length
  isEmpty (handle : Handle) :
    (storage.store handle).isEmpty = (storage.store handle).toList.isEmpty
  /-- The first store by name that holds the key answers. -/
  matched (key : Key) (response : FetchResponse) :
    storage.matchRequest key = some response ↔
      ∃ name entry, holds? past name key = some entry ∧ entry.response = response ∧
        ∀ before < name, holds? past before key = none
  unmatched (key : Key) :
    storage.matchRequest key = none ↔ ∀ name, holds? past name key = none
  /-- In which order the stores were opened and filled does not matter. -/
  matched_alike {otherPast : Past} {other : Storage} (recorded : Recorded otherPast other)
    (key : Key) (alike : ∀ name, holds? otherPast name key = holds? past name key) :
    other.matchRequest key = storage.matchRequest key

/-- Whatever calls were made, through whichever handles, a storage answers as they tell. -/
theorem answers_as_recorded {past : Past} {storage : Storage} (recorded : Recorded past storage) :
    AsRecorded past storage where
  openStore split name := (split ▸ recorded).openStore_eq_iff name
  contains name := by rw [Storage.contains_eq_isSome, recorded.find?_eq]
  deleted := by
    rintro between earlier name answer rfl unopened
    have closed := @leads?_eq_none name answer earlier between unopened
    refine ⟨?_, recorded.openStore_new closed⟩
    rw [Storage.contains_eq_isSome, recorded.find?_eq, closed, Option.isSome_none]
  unseen split opened calls := ((split ▸ recorded).detached opened).transcript_eq calls
  get? handle key := congrArg (Option.map Entry.response) (recorded.lookup?_eq handle key)
  lookup? := recorded.lookup?_eq
  storeContains handle key := by rw [Store.contains_eq_isSome, recorded.lookup?_eq]
  ordered_names := storage.ordered_keys
  mem_names name := by rw [Storage.mem_keys, recorded.find?_eq]
  ordered_entries handle := (storage.store handle).ordered_toList
  mem_entries handle key entry := by rw [Store.mem_toList, recorded.lookup?_eq]
  ordered_keys handle := (storage.store handle).ordered_keys
  keys handle := (storage.store handle).keys_eq
  size handle := (storage.store handle).size_eq
  isEmpty handle := (storage.store handle).isEmpty_eq
  matched key response := by
    simp only [Storage.matchRequest_eq_some_iff, recorded.held?_eq]
  unmatched key := by simp only [Storage.matchRequest_eq_none_iff, recorded.held?_eq]
  matched_alike otherRecorded key alike := by
    refine Option.ext fun response => ?_
    simp only [Storage.matchRequest_eq_some_iff, recorded.held?_eq, otherRecorded.held?_eq, alike]

/-- Who holds a store that was deleted still finds there what they put, but the name is opened to
another one. -/
theorem deleted_store_kept_by_holder :
    ∃ past storage, Recorded past storage ∧
      past.map Prod.fst =
        [.delete "v1", .through 0 (.put ⟨"GET", "http://localhost/"⟩ ⟨200, [], .empty⟩ default),
          .openStore "v1"] ∧
      storage.contains "v1" = false ∧ (storage.openStore "v1").1 ≠ 0 ∧
      (storage.store 0).get? ⟨"GET", "http://localhost/"⟩ = some ⟨200, [], .empty⟩ := by
  have opened := Recorded.next .start (.openStore "v1") (fun _ through => by cases through)
  have filled := opened.next
    (.through 0 (.put ⟨"GET", "http://localhost/"⟩ ⟨200, [], .empty⟩ default))
    (fun handle through => by
      obtain rfl := Option.some.inj through
      exact ⟨"v1", List.mem_cons_self⟩)
  have deleted := filled.next (.delete "v1") (fun _ through => by cases through)
  have tells := answers_as_recorded deleted
  refine ⟨_, _, deleted, rfl, ?_, ?_, ?_⟩
  · exact (@AsRecorded.deleted _ _ tells [] _ "v1" _ rfl fun _ => List.not_mem_nil).1
  · intro again
    exact ((@AsRecorded.openStore _ _ tells [_, _] [] "v1" 0 rfl "v1").mp again).2 _
      List.mem_cons_self
  · rw [tells.get?]
    simp [written?]

end OfflineSite.Cache
