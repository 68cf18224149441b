import OfflineSite.Proofs.Cache.Order
import OfflineSite.Proofs.Worker.Fleet

namespace OfflineSite

open Cache (Handle Key Storage)

namespace Cache.Storage

variable {storage before after : Storage} {key : Key} {name : String} {response : FetchResponse}

/-- Whether some store holds the key. -/
def Holds (storage : Storage) (key : Key) : Prop :=
  ∃ name entry, storage.held? name key = some entry

/-- The response under the key in the first store by name that holds the key. -/
def First (storage : Storage) (key : Key) (response : FetchResponse) : Prop :=
  ∃ name entry, storage.held? name key = some entry ∧ entry.response = response ∧
    ∀ before < name, storage.held? before key = none

theorem Holds.exists_first (holds : storage.Holds key) :
    ∃ response, storage.First key response ∧ storage.matchRequest key = some response := by
  obtain ⟨name, entry, held⟩ := holds
  cases found : storage.matchRequest key with
  | some response => exact ⟨response, matchRequest_eq_some_iff.mp found, rfl⟩
  | none =>
    have absent := held?_eq_none found name
    rw [held] at absent
    cases absent

theorem matchRequest_eq_none_of_not_holds (missing : ¬ storage.Holds key) :
    storage.matchRequest key = none := by
  refine matchRequest_eq_none_iff.mpr fun name => ?_
  cases held : storage.held? name key with
  | none => rfl
  | some entry => exact absurd ⟨name, entry, held⟩ missing

/-- A storage in which at most one name is new: all others lead where they led, and so does that one
if it led anywhere. Nothing is written where no name leads. -/
structure Opened (before after : Storage) (name : String) : Prop where
  contains (other : String) : after.contains other ↔ other = name ∨ before.contains other
  find? {other : String} {handle : Handle} (found : before.find? other = some handle) :
    after.find? other = some handle
  detached {handle : Handle} (gone : before.Detached handle) (key : Key) :
    (after.store handle).lookup? key = (before.store handle).lookup? key

theorem opened_openStore (storage : Storage) (name : String) :
    Opened storage (storage.openStore name).2 name where
  contains := contains_openStore storage name
  find? found := find?_openStore_of_found found name
  detached _ key := lookup?_openStore storage name _ key

theorem opened_put (storage : Storage) (name : String) (key : Key) (response : FetchResponse)
    (now : Timestamp) :
    Opened storage
      ((storage.openStore name).2.put (storage.openStore name).1 key response now) name where
  contains := contains_openStore storage name
  find? found := find?_openStore_of_found found name
  detached {other} gone sought := by
    have evolves : Evolves (fun _ _ => False) storage (storage.openStore name).2 :=
      .openStore storage name
    have apart : (storage.openStore name).1 ≠ other := by
      rintro rfl
      exact (evolves.detached gone).2 name (find?_openStore storage name)
    rw [store_put_of_ne _ key response now apart, lookup?_openStore]

end Cache.Storage

namespace Worker

variable {worker : Worker} {request : FetchRequest} {answer : Except Failure FetchResponse}
  {now : Timestamp}

/-- Whether the cache may answer: an activated worker is asked to `GET` from a web server. -/
def Answerable (state : State) (request : FetchRequest) : Prop :=
  state.phase = .activated ∧ request.method = "GET" ∧
    (request.url.scheme = "http" ∨ request.url.scheme = "https")

theorem isCacheable_iff : request.isCacheable ↔
    request.method = "GET" ∧ (request.url.scheme = "http" ∨ request.url.scheme = "https") := by
  simp [FetchRequest.isCacheable, Url.isWeb]

namespace System

/-- The request is taken, and the network answers it if its answer is awaited. -/
def serve (worker : Worker) (system : System) (request : FetchRequest)
    (answer : Except Failure FetchResponse) (now : Timestamp) : System :=
  system.after worker [.fetch request, .answer system.next 0 answer now]

/-- What a request leaves once it is over: its own task with the result, the fetches in the
background that have begun, and a state. -/
def closed (system : System) (result : Except Failure Reply) (refreshes : List Refresh)
    (state : State) : System :=
  ⟨state, system.tasks ++ .exchange (.ended result) :: refreshes.map .refresh⟩

/-- The policy by which a request is served, row by row. -/
structure FollowsPolicy (worker : Worker) (system : System) (request : FetchRequest)
    (answer : Except Failure FetchResponse) (now : Timestamp) : Prop where
  /-- What the cache may not answer is passed on, whatever is stored. -/
  passed (other : ¬ Answerable system.state request) :
    system.serve worker request answer now =
      system.closed (answer.map (⟨.network, ·⟩)) [] system.state
  /-- A stored response is served and fetched again once, for the current store. No entry
  changes. -/
  hit (answerable : Answerable system.state request)
      (held : system.state.storage.Holds request.key) :
    ∃ response store storage, system.state.storage.First request.key response ∧
      system.serve worker request answer now =
        system.closed (.ok ⟨.cache, response⟩) [⟨store, request⟩]
          { system.state with storage } ∧
      storage.find? worker.version = some store ∧
      system.state.storage.Opened storage worker.version ∧
      ∀ name key, storage.held? name key = system.state.storage.held? name key
  /-- A response with status 200 is stored under its key in the current store, and nothing else
  changes. -/
  stored (answerable : Answerable system.state request)
      (missing : ¬ system.state.storage.Holds request.key) {response : FetchResponse}
      (answered : answer = .ok response) (good : response.status = 200) :
    ∃ storage,
      system.serve worker request answer now =
        system.closed (.ok ⟨.network, response⟩) [] { system.state with storage } ∧
      system.state.storage.Opened storage worker.version ∧
      ∀ name key, storage.held? name key =
        if name = worker.version ∧ key = request.key then some ⟨response, now⟩
        else system.state.storage.held? name key
  /-- A response with another status is handed on only. -/
  unstored (answerable : Answerable system.state request)
      (missing : ¬ system.state.storage.Holds request.key) {response : FetchResponse}
      (answered : answer = .ok response) (bad : response.status ≠ 200) :
    system.serve worker request answer now =
      system.closed (.ok ⟨.network, response⟩) [] system.state
  /-- Where the network fails a navigation, the fallback page stands in if some store holds it. -/
  fallback (answerable : Answerable system.state request)
      (missing : ¬ system.state.storage.Holds request.key) {cause : Failure}
      (answered : answer = .error cause) (navigates : request.destination = .document) {url : Url}
      (joined : worker.urlFor worker.config.offlineFallback = .ok url)
      (held : system.state.storage.Holds (.get url)) :
    ∃ page, system.state.storage.First (.get url) page ∧
      system.serve worker request answer now =
        system.closed (.ok ⟨.fallback, page⟩) [] system.state
  /-- Where there is no such page, and for anything but a navigation, the failure is handed on. -/
  failed (answerable : Answerable system.state request)
      (missing : ¬ system.state.storage.Holds request.key) {cause : Failure}
      (answered : answer = .error cause)
      (alone : request.destination = .document → ∀ url,
        worker.urlFor worker.config.offlineFallback = .ok url →
          ¬ system.state.storage.Holds (.get url)) :
    system.serve worker request answer now = system.closed (.error cause) [] system.state

variable {system : System}

theorem serve_eq (worker : Worker) (system : System) (request : FetchRequest)
    (answer : Except Failure FetchResponse) (now : Timestamp) :
    system.serve worker request answer now =
      (system.perform worker (.fetch request)).perform worker (.answer system.next 0 answer now) :=
  rfl

/-- A request whose answer is awaited is over with that answer. -/
theorem serve_of_awaiting {stage : Exchange} {result : Except Failure Reply} {state : State}
    {notices : List Notice}
    (started : Exchange.start worker request system.state = .quiet (stage, none) system.state)
    (awaits : stage.call? = some request)
    (received : stage.receive worker answer now system.state = ⟨.ended result, state, notices⟩) :
    system.serve worker request answer now = system.closed result [] state := by
  have taken : system.perform worker (.fetch request) = system.add (.exchange stage) := by
    simp only [perform, fetch, started, Turn.quiet]
  have there : (system.add (.exchange stage)).task? system.next = some (.exchange stage) := by
    simp [task?, add, next]
  have underWay : (system.add (.exchange stage)).call? system.next 0 = some request := by
    rw [call?, there, Option.bind_some, Task.calls, awaits]
    rfl
  have turn : Task.receive worker 0 answer now system.state (.exchange stage) =
      ⟨.exchange (.ended result), state, notices⟩ := by
    simp only [Task.receive, received, Turn.map]
  rw [serve_eq, taken]
  simp only [perform, underWay, receive, advance, there]
  simp [add, next, closed, turn]

/-- A request that is answered at once awaits nothing. -/
theorem serve_of_ended {result : Except Failure Reply} {refresh : Refresh} {state : State}
    {notices : List Notice}
    (started : Exchange.start worker request system.state =
      ⟨(.ended result, some refresh), state, notices⟩) :
    system.serve worker request answer now = system.closed result [refresh] state := by
  have taken : system.perform worker (.fetch request) = system.closed result [refresh] state := by
    simp [perform, fetch, started, add, closed]
  have ended : (system.closed result [refresh] state).call? system.next 0 = none := by
    simp [call?, task?, next, closed, Task.calls, Exchange.call?]
  rw [serve_eq, taken]
  simp only [perform, ended]

/-- What no store holds is over with the network's answer. -/
theorem serve_of_missing (answerable : Answerable system.state request)
    (missing : ¬ system.state.storage.Holds request.key) {result : Except Failure Reply}
    {state : State} (notices : List Notice)
    (received : (Exchange.missing request).receive worker answer now system.state =
      ⟨.ended result, state, notices⟩) :
    system.serve worker request answer now = system.closed result [] state := by
  have absent := Storage.matchRequest_eq_none_of_not_holds missing
  rcases Exchange.start_of_cacheable worker answerable.1 (isCacheable_iff.mpr answerable.2) with
    ⟨_, misses⟩ | ⟨response, found, _⟩
  · exact serve_of_awaiting misses rfl received
  · rw [absent] at found
    cases found

theorem fallbackPage?_eq_none (alone : ∀ url,
    worker.urlFor worker.config.offlineFallback = .ok url →
      ¬ system.state.storage.Holds (.get url)) :
    worker.fallbackPage? system.state = none := by
  unfold fallbackPage?
  split
  · next url joined => exact Storage.matchRequest_eq_none_of_not_holds (alone url joined)
  · rfl

/-- A request is served by the policy, in every state of the worker, whatever is stored, whatever
the network answers and whatever else is still awaited. -/
theorem fetch_follows_policy (worker : Worker) (system : System) (request : FetchRequest)
    (answer : Except Failure FetchResponse) (now : Timestamp) :
    system.FollowsPolicy worker request answer now where
  passed other := by
    rcases Exchange.start_cases worker request system.state with ⟨_, passes⟩ |
      ⟨phase, cacheable, _⟩
    · exact serve_of_awaiting passes rfl rfl
    · exact absurd ⟨phase, isCacheable_iff.mp cacheable⟩ other
  hit answerable held := by
    obtain ⟨response, first, found⟩ := held.exists_first
    rcases Exchange.start_of_cacheable worker answerable.1 (isCacheable_iff.mpr answerable.2) with
      ⟨absent, _⟩ | ⟨served, same, hits⟩
    · rw [found] at absent
      cases absent
    · obtain rfl := Option.some.inj (same.symm.trans found)
      exact ⟨served, _, _, first, serve_of_ended hits,
        Storage.find?_openStore system.state.storage worker.version,
        Storage.opened_openStore system.state.storage worker.version,
        Storage.held?_openStore system.state.storage worker.version⟩
  stored answerable missing response answered good := by
    subst answered
    have storable : response.isStorable := FetchResponse.isStorable_iff.mpr good
    let opened := system.state.storage.openStore worker.version
    have current : opened.2.find? worker.version = some opened.1 :=
      Storage.find?_openStore system.state.storage worker.version
    refine ⟨opened.2.put opened.1 request.key response now, ?_,
      Storage.opened_put system.state.storage worker.version request.key response now, ?_⟩
    · refine serve_of_missing answerable missing [] ?_
      simp only [Exchange.receive, storable, if_true]
      rfl
    · intro name key
      rw [Storage.held?_put current, Storage.held?_openStore]
  unstored answerable missing response answered bad := by
    subst answered
    have unstorable : response.isStorable = false :=
      FetchResponse.isStorable_eq_false_iff.mpr bad
    refine serve_of_missing answerable missing [] ?_
    simp only [Exchange.receive, unstorable, Bool.false_eq_true, if_false]
    rfl
  fallback answerable missing cause answered navigates url joined held := by
    subst answered
    obtain ⟨page, first, found⟩ := held.exists_first
    have stands : worker.fallbackPage? system.state = some page := by
      simp only [fallbackPage?, joined, found]
    refine ⟨page, first,
      serve_of_missing answerable missing [.fallbackServed request.key.url] ?_⟩
    simp only [Exchange.receive, navigates, if_true, stands]
  failed answerable missing cause answered alone := by
    subst answered
    refine serve_of_missing answerable missing [] ?_
    by_cases navigates : request.destination = .document
    · have absent := fallbackPage?_eq_none (alone navigates)
      simp only [Exchange.receive, navigates, if_true, absent]
      rfl
    · simp only [Exchange.receive, navigates, if_false]
      rfl

end System

namespace Unreached

open Refreshed (page stored)

def site : Worker := ⟨{ version := "v1", precache := [], offlineFallback := "/page" }, page⟩

def navigation : FetchRequest :=
  ⟨"GET", { page with path := .pieces ["other"] }, .document, [], .empty⟩

def active : System := ⟨⟨.activated, false, true, stored⟩, []⟩

theorem holds_page : stored.Holds (.get page) := by
  have found : stored.find? "v1" = some 0 := by decide +kernel
  have present : (stored.store 0).lookup? (.get page) = some ⟨⟨200, [], .empty⟩, default⟩ :=
    (Storage.lookup?_insert ..).trans (if_pos ⟨rfl, Nat.one_pos, rfl⟩)
  exact ⟨"v1", _, Option.bind_eq_some_iff.mpr ⟨0, found, present⟩⟩

theorem not_holds_navigation : ¬ stored.Holds navigation.key := by
  rintro ⟨name, entry, held⟩
  have absent : (stored.matchRequest navigation.key).isNone := by decide +kernel
  rw [Storage.held?_eq_none (Option.isNone_iff_eq_none.mp absent) name] at held
  cases held

end Unreached

open Unreached Refreshed in
/-- A navigation to a page that is not stored, while the fallback page is and the network is down.
-/
theorem stored_page_stands_in :
    ∃ response, stored.First (.get page) response ∧
      active.serve site navigation (.error (.network "offline")) default =
        active.closed (.ok ⟨.fallback, response⟩) [] active.state := by
  have answerable : Answerable active.state navigation := ⟨rfl, rfl, Or.inl rfl⟩
  have joined : (site.urlFor site.config.offlineFallback).toOption = some page := by
    decide +kernel
  have policy :=
    System.fetch_follows_policy site active navigation (.error (.network "offline")) default
  cases url : site.urlFor site.config.offlineFallback with
  | error cause => simp [url, Except.toOption] at joined
  | ok other =>
    obtain rfl : other = page := by simpa [url, Except.toOption] using joined
    exact policy.fallback answerable not_holds_navigation rfl rfl url holds_page

end Worker

end OfflineSite
