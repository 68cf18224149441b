import Mathlib.Logic.Function.Iterate
import OfflineSite.Cache.Visit
import OfflineSite.Proofs.Cache.History

namespace OfflineSite.Cache

namespace Storage

theorem mem_handles {storage : Storage} {handle : Handle} :
    handle ∈ storage.handles ↔ ∃ name, storage.find? name = some handle := by
  simp only [handles, List.mem_map, Prod.exists, exists_eq_right,
    Std.TreeMap.mem_toList_iff_getElem?_eq_some, find?]

theorem name_store {storage : Storage} {name : String} {handle : Handle}
    (found : storage.find? name = some handle) : (storage.store handle).name = name := by
  obtain ⟨store, present, named⟩ := Option.map_eq_some_iff.mp (storage.named found)
  rw [store_eq_getElem?, present, Option.getD_some, named]

theorem held?_of_found {storage : Storage} {name : String} {handle : Handle}
    (found : storage.find? name = some handle) (key : Key) :
    storage.held? name key = (storage.store handle).lookup? key := by
  rw [held?, found, Option.bind_some]

/-- What is listed before the store of a name are stores of lesser names. -/
theorem exists_handles_eq {storage : Storage} {name : String} {handle : Handle}
    (found : storage.find? name = some handle) :
    ∃ front back, storage.handles = front ++ handle :: back ∧
      ∀ before ∈ front, ∃ lesser < name, storage.find? lesser = some before := by
  have listed : (name, handle) ∈ storage.names.toList :=
    Std.TreeMap.mem_toList_iff_getElem?_eq_some.mpr found
  obtain ⟨front, back, split⟩ := List.append_of_mem listed
  have ordered := split ▸ storage.names.ordered_keys_toList
  refine ⟨front.map (·.2), back.map (·.2), by simp [handles, split], fun before inFront => ?_⟩
  obtain ⟨⟨lesser, _⟩, member, rfl⟩ := List.mem_map.mp inFront
  refine ⟨lesser, ?_, Std.TreeMap.mem_toList_iff_getElem?_eq_some.mp (by simp [split, member])⟩
  exact compare_eq_lt.mp ((List.pairwise_append.mp ordered).2.2 _ member _ List.mem_cons_self)

theorem matchRequest_eq_findSome?_handles (storage : Storage) (key : Key) :
    storage.matchRequest key = storage.handles.findSome? fun handle =>
      (storage.store handle).get? key := by
  rw [matchRequest, toList, handles, List.findSome?_map, List.findSome?_map]
  rfl

end Storage

namespace Opening

theorem left_eq_zero_iff {stage : Opening} :
    stage.left = 0 ↔ ∃ name handle, stage = opened name handle := by
  cases stage <;> simp [left]

/-- A step finds that there is no store yet, or it opens one as is done at once, or nothing is left
to be done. -/
theorem step_cases (storage : Storage) (stage : Opening) :
    stage = looking stage.name ∧ storage.find? stage.name = none ∧
        stage.step storage = (adding stage.name, storage) ∨
      stage.left ≠ 0 ∧ stage.step storage =
        (opened stage.name (storage.openStore stage.name).1, (storage.openStore stage.name).2) ∨
      stage.left = 0 ∧ stage.step storage = (stage, storage) := by
  cases stage with
  | looking name =>
    cases found : storage.find? name with
    | none => exact Or.inl ⟨rfl, found, by simp only [step, found, Opening.name]⟩
    | some handle =>
      refine Or.inr (Or.inl ⟨by simp [left], ?_⟩)
      simp only [step, Opening.name, Storage.openStore, found]
  | adding name =>
    refine Or.inr (Or.inl ⟨by simp [left], ?_⟩)
    cases found : storage.find? name <;>
      simp only [step, Opening.name, Storage.openStore, found]
  | opened name handle => exact Or.inr (Or.inr ⟨rfl, rfl⟩)

/-- Where there is a store of the name the next step opens it, even if the first look found none. -/
theorem step_of_found {storage : Storage} {stage : Opening} {handle : Handle}
    (found : storage.find? stage.name = some handle) (unfinished : stage.left ≠ 0) :
    stage.step storage = (opened stage.name handle, storage) := by
  rcases stage.step_cases storage with ⟨-, none, -⟩ | ⟨-, taken⟩ | ⟨ended, -⟩
  · rw [found] at none
    cases none
  · simp only [taken, Storage.openStore, found]
  · exact absurd ended unfinished

theorem name_step (storage : Storage) (stage : Opening) :
    (stage.step storage).1.name = stage.name := by
  rcases stage.step_cases storage with ⟨-, -, taken⟩ | ⟨-, taken⟩ | ⟨-, taken⟩ <;>
    rw [taken] <;> rfl

theorem left_step_le (storage : Storage) (stage : Opening) :
    (stage.step storage).1.left ≤ stage.left - 1 := by
  rcases stage.step_cases storage with ⟨looks, -, taken⟩ | ⟨-, taken⟩ | ⟨ended, taken⟩
  · rw [taken, looks]
    exact Nat.le_refl 1
  · rw [taken]
    exact Nat.zero_le _
  · rw [taken]
    simp [ended]

/-- What a step returns is the store that the name leads to from then on. -/
theorem found_of_step {storage : Storage} {stage : Opening} {name : String} {handle : Handle}
    (unfinished : stage.left ≠ 0) (returned : (stage.step storage).1 = opened name handle) :
    (stage.step storage).2.find? name = some handle := by
  rcases stage.step_cases storage with ⟨-, -, taken⟩ | ⟨-, taken⟩ | ⟨ended, -⟩
  · rw [taken] at returned
    cases returned
  · rw [taken] at returned ⊢
    obtain ⟨rfl, rfl⟩ := opened.inj returned
    exact Storage.find?_openStore storage stage.name
  · exact absurd ended unfinished

/-- With nothing in between, two steps open a store as is done at once. -/
theorem step_looking_step (storage : Storage) (name : String) :
    ((looking name).step storage).1.step ((looking name).step storage).2 =
      (opened name (storage.openStore name).1, (storage.openStore name).2) := by
  cases found : storage.find? name <;> simp only [step, Storage.openStore, found]

end Opening

namespace Matching

theorem iterate_step_asking (storage : Storage) (key : Key) (handles : List Handle) :
    (step storage)^[handles.length + 1] (asking key handles) =
      matched key (handles.findSome? fun handle => (storage.store handle).get? key) := by
  induction handles with
  | nil => rfl
  | cons handle handles ih =>
    rw [List.length_cons, Function.iterate_succ_apply, List.findSome?_cons, step]
    cases (storage.store handle).get? key with
    | none => exact ih
    | some response => exact Function.iterate_fixed rfl _

/-- With nothing in between, a request is matched as is done at once. -/
theorem iterate_step_listing (storage : Storage) (key : Key) :
    (step storage)^[storage.handles.length + 2] (listing key) =
      matched key (storage.matchRequest key) := by
  rw [Function.iterate_succ_apply, step, iterate_step_asking,
    Storage.matchRequest_eq_findSome?_handles]

end Matching

namespace Visit

/-- An opening of the name that has a number of steps at most before it. -/
def OpensWithin (name : String) (left : Nat) : Visit → Prop
  | opening stage => stage.name = name ∧ stage.left ≤ left
  | matching _ => False

/-- A request for the key that has been listed for, and has a number of steps at most before it. -/
def MatchesWithin (key : Key) (left : Nat) : Visit → Prop
  | matching (.asking sought handles) => sought = key ∧ handles.length < left
  | matching (.matched sought _) => sought = key
  | matching (.listing _) | opening _ => False

variable {visit : Visit} {left : Nat}

theorem opensWithin_left (stage : Opening) :
    (opening stage).OpensWithin stage.name stage.left := ⟨rfl, Nat.le_refl _⟩

theorem OpensWithin.step {name : String} (opens : visit.OpensWithin name left)
    (storage : Storage) : (visit.step storage).1.OpensWithin name (left - 1) := by
  cases visit with
  | matching => exact opens
  | opening stage =>
    obtain ⟨same, few⟩ := opens
    exact ⟨(stage.name_step storage).trans same,
      Nat.le_trans (stage.left_step_le storage) (Nat.sub_le_sub_right few 1)⟩

theorem OpensWithin.eq_opened {name : String} (opens : visit.OpensWithin name 0) :
    ∃ handle, visit = opening (.opened name handle) := by
  cases visit with
  | matching => cases opens
  | opening stage =>
    obtain ⟨rfl, none⟩ := opens
    obtain ⟨name, handle, rfl⟩ := Opening.left_eq_zero_iff.mp (Nat.le_zero.mp none)
    exact ⟨handle, rfl⟩

theorem matchesWithin_asking (key : Key) (handles : List Handle) :
    (matching (.asking key handles)).MatchesWithin key (handles.length + 1) :=
  ⟨rfl, Nat.lt_succ_self _⟩

theorem MatchesWithin.step {key : Key} (ends : visit.MatchesWithin key left)
    (storage : Storage) : (visit.step storage).1.MatchesWithin key (left - 1) := by
  rcases visit with _ | ⟨_ | ⟨sought, _ | ⟨handle, handles⟩⟩ | _⟩
  · exact ends
  · cases ends
  · exact ends.1
  · obtain ⟨same, few⟩ := ends
    simp only [Visit.step, Matching.step]
    cases (storage.store handle).get? sought with
    | none => exact ⟨same, Nat.lt_sub_of_add_lt few⟩
    | some => exact same
  · exact ends

theorem MatchesWithin.eq_matched {key : Key} (ends : visit.MatchesWithin key 0) :
    ∃ response, visit = matching (.matched key response) := by
  rcases visit with _ | ⟨_ | ⟨sought, handles⟩ | ⟨sought, response⟩⟩
  · cases ends
  · cases ends
  · exact absurd ends.2 (Nat.not_lt_zero _)
  · exact ⟨response, by rw [show sought = key from ends]⟩

end Visit

/-- What puts something under a key, or erases what is there. -/
def StoreCall.Writes (key : Key) : StoreCall → Prop
  | put written _ _ => written = key
  | erase erased => erased = key
  | get _ | lookup _ | keys | entries | size | isEmpty => False

namespace Storage

variable {storage : Storage} {name : String} {handle : Handle} {key : Key}

/-- What is under a key stays there but for what is written under it through the handle. -/
theorem lookup?_call {call : Call}
    (spared : ∀ asked : StoreCall, asked.Writes key → call ≠ .through handle asked) :
    ((call.perform storage).2.store handle).lookup? key =
      (storage.store handle).lookup? key := by
  cases call with
  | openStore opened => exact lookup?_openStore storage opened handle key
  | delete | contains | names | matchRequest => rfl
  | through other asked =>
    cases asked with
    | put written response stamp =>
      refine (lookup?_insert storage other handle written key ⟨response, stamp⟩).trans (if_neg ?_)
      rintro ⟨rfl, -, rfl⟩
      exact spared (.put written response stamp) rfl rfl
    | erase erased =>
      refine (lookup?_erase storage other handle erased key).trans (if_neg ?_)
      rintro ⟨rfl, rfl⟩
      exact spared (.erase erased) rfl rfl
    | _ => rfl

theorem lookup?_put_self (found : storage.find? name = some handle) (key : Key)
    (response : FetchResponse) (stamp : Timestamp) :
    ((storage.put handle key response stamp).store handle).lookup? key =
      some ⟨response, stamp⟩ := by
  rw [put, lookup?_insert, if_pos ⟨rfl, lt_size_of_find? found, rfl⟩]

theorem Evolves.call {allowed : Key → FetchResponse → Prop} (storage : Storage) {call : Call}
    (admitted : ∀ {through written response stamp},
      call = .through through (.put written response stamp) → allowed written response) :
    Evolves allowed storage (call.perform storage).2 := by
  cases call with
  | openStore name => exact .openStore storage name
  | delete name => exact .delete storage name
  | contains | names | matchRequest => exact .refl storage
  | through other asked =>
    cases asked with
    | put written response stamp => exact .put storage other stamp (admitted rfl)
    | erase erased =>
      refine ⟨Nat.le_of_eq (size_perform storage other (.erase erased)).symm, Or.inl,
        fun {handle sought entry} held => Or.inl ?_⟩
      have kept := (lookup?_erase storage other handle erased sought).symm.trans held
      split at kept
      · cases kept
      · exact kept
    | _ => exact .refl storage

/-- The store of a name holds something under a key, and what is held there, by it or by a store
that is listed before it, is allowed. -/
structure Prevails (allowed : FetchResponse → Prop) (name : String) (handle : Handle) (key : Key)
    (storage : Storage) : Prop where
  found : storage.find? name = some handle
  held : ((storage.store handle).lookup? key).isSome
  allowed {other : String} {entry : Entry} (listed : other ≤ name)
    (there : storage.held? other key = some entry) : allowed entry.response

variable {allowed : FetchResponse → Prop}

namespace Prevails

theorem put {response : FetchResponse} (stamp : Timestamp)
    (found : storage.find? name = some handle) (admitted : allowed response)
    (lesser : ∀ {other entry}, other < name → storage.held? other key = some entry →
      allowed entry.response) :
    (storage.put handle key response stamp).Prevails allowed name handle key where
  found := found
  held := Option.isSome_of_eq_some (lookup?_put_self found key response stamp)
  allowed {other entry} listed there := by
    rw [held?_put found] at there
    split at there
    · obtain rfl := Option.some.inj there
      exact admitted
    · next different =>
      by_cases less : other < name
      · exact lesser less there
      · exact absurd ⟨String.le_antisymm listed (String.not_lt.mp less), rfl⟩ different

theorem call (prevails : storage.Prevails allowed name handle key) {call : Call}
    (undeleted : call ≠ .delete name) (unerased : call ≠ .through handle (.erase key))
    (admitted : ∀ {through response stamp},
      call = .through through (.put key response stamp) → allowed response) :
    (call.perform storage).2.Prevails allowed name handle key where
  found := find?_call prevails.found undeleted
  held := by
    by_cases puts : ∃ response stamp, call = .through handle (.put key response stamp)
    · obtain ⟨response, stamp, rfl⟩ := puts
      exact Option.isSome_of_eq_some (lookup?_put_self prevails.found key response stamp)
    · rw [lookup?_call fun asked writes => ?_]
      · exact prevails.held
      · rintro rfl
        cases asked with
        | put written response stamp =>
          obtain rfl : written = key := writes
          exact puts ⟨response, stamp, rfl⟩
        | erase erased =>
          obtain rfl : erased = key := writes
          exact unerased rfl
        | _ => cases writes
  allowed listed there := by
    have evolves : Evolves (fun written response => written = key → allowed response) storage
        (call.perform storage).2 := .call storage fun puts same => admitted (same ▸ puts)
    rcases evolves.held_or_allowed there with before | put
    · exact prevails.allowed listed before
    · exact put rfl

theorem openStore (prevails : storage.Prevails allowed name handle key) (opened : String) :
    (storage.openStore opened).2.Prevails allowed name handle key :=
  @call _ _ _ _ _ prevails (.openStore opened) (fun other => by cases other)
    (fun other => by cases other) fun other => by cases other

/-- What is found at once then is allowed. -/
theorem matchRequest (prevails : storage.Prevails allowed name handle key) :
    ∃ response, storage.matchRequest key = some response ∧ allowed response := by
  cases matched : storage.matchRequest key with
  | none =>
    have missing := (held?_of_found prevails.found key).symm.trans (held?_eq_none matched name)
    exact absurd prevails.held (by simp [missing])
  | some response =>
    obtain ⟨other, entry, there, rfl, first⟩ := matchRequest_eq_some_iff.mp matched
    refine ⟨entry.response, rfl, prevails.allowed (String.not_lt.mp fun greater => ?_) there⟩
    have missing := (held?_of_found prevails.found key).symm.trans (first name greater)
    exact absurd prevails.held (by simp [missing])

end Prevails

end Storage

namespace Matching

/-- A request for the key that has still to come to the store of the handle, past none that holds
what is not allowed, or that is answered as is allowed. -/
def Meets (allowed : FetchResponse → Prop) (key : Key) (handle : Handle) (storage : Storage) :
    Matching → Prop
  | listing _ => True
  | asking sought handles => sought = key → ∃ front back, handles = front ++ handle :: back ∧
      ∀ before ∈ front, ∀ entry, (storage.store before).lookup? key = some entry →
        allowed entry.response
  | matched sought answer => sought = key → ∃ response, answer = some response ∧ allowed response

variable {allowed : FetchResponse → Prop} {key : Key} {handle : Handle} {storage : Storage}
  {stage : Matching} {name : String}

theorem Meets.of_evolves {later : Storage} (meets : stage.Meets allowed key handle storage)
    (evolves : storage.Evolves (fun written response => written = key → allowed response) later) :
    stage.Meets allowed key handle later := by
  cases stage with
  | listing => trivial
  | matched => exact meets
  | asking sought handles =>
    intro same
    obtain ⟨front, back, split, only⟩ := meets same
    refine ⟨front, back, split, fun before inFront entry held => ?_⟩
    rcases evolves.entries held with kept | put
    · exact only before inFront entry kept
    · exact put rfl

theorem Meets.step (meets : stage.Meets allowed key handle storage)
    (prevails : storage.Prevails allowed name handle key) :
    (stage.step storage).Meets allowed key handle storage := by
  cases stage with
  | matched => exact meets
  | listing sought =>
    intro same
    obtain ⟨front, back, split, lesser⟩ := Storage.exists_handles_eq prevails.found
    refine ⟨front, back, split, fun before inFront entry held => ?_⟩
    obtain ⟨other, less, found⟩ := lesser before inFront
    exact prevails.allowed (String.not_lt.mp (String.lt_asymm less))
      ((Storage.held?_of_found found key).trans held)
  | asking sought handles =>
    by_cases same : sought = key
    · subst same
      obtain ⟨front, back, rfl, only⟩ := meets rfl
      cases front with
      | nil =>
        obtain ⟨entry, held⟩ := Option.isSome_iff_exists.mp prevails.held
        have answer : (storage.store handle).get? sought = some entry.response :=
          congrArg (Option.map Entry.response) held
        simp only [List.nil_append, Matching.step, answer]
        exact fun _ => ⟨entry.response, rfl, prevails.allowed (String.le_refl name)
          ((Storage.held?_of_found prevails.found sought).trans held)⟩
      | cons first front =>
        simp only [List.cons_append, Matching.step]
        cases answer : (storage.store first).get? sought with
        | none =>
          exact fun _ => ⟨front, back, rfl, fun before inFront =>
            only before (List.mem_cons_of_mem _ inFront)⟩
        | some response =>
          obtain ⟨entry, held, rfl⟩ := Option.map_eq_some_iff.mp answer
          exact fun _ => ⟨_, rfl, only first List.mem_cons_self entry held⟩
    · cases handles with
      | nil => exact fun other => absurd other same
      | cons first handles =>
        simp only [Matching.step]
        cases (storage.store first).get? sought <;> exact fun other => absurd other same

end Matching

end OfflineSite.Cache
