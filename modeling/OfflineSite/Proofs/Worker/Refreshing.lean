import OfflineSite.Proofs.Worker.Fleet
import OfflineSite.Proofs.Worker.Rollover

namespace OfflineSite.Worker

open Cache (Entry Handle Key Storage)
open Cache.Storage (Changes)

variable {worker : Worker}

theorem OnlyCurrent.matchRequest {storage : Storage} (only : OnlyCurrent worker storage)
    (key : Key) :
    storage.matchRequest key = (storage.held? worker.version key).map (·.response) := by
  cases found : storage.matchRequest key with
  | some response =>
    obtain ⟨name, entry, held, rfl⟩ := Storage.exists_held_of_matchRequest found
    obtain rfl := only.held held
    rw [held, Option.map_some]
  | none => rw [Storage.held?_eq_none found, Option.map_none]

/-- A worker that is activated takes a request for what its current store holds. -/
theorem start_of_held {state : State} {request : FetchRequest} {entry : Entry}
    (activated : state.phase = .activated) (only : OnlyCurrent worker state.storage)
    (cacheable : request.isCacheable)
    (held : state.storage.held? worker.version request.key = some entry) :
    Exchange.start worker request state =
      ⟨(.ended (.ok ⟨.cache, entry.response⟩), some ⟨(worker.openCurrent state).1, request⟩),
        (worker.openCurrent state).2, [.hit request.key.url]⟩ := by
  have found := only.matchRequest request.key
  rw [held, Option.map_some] at found
  rcases Exchange.start_of_cacheable worker activated cacheable with ⟨missing, _⟩ |
    ⟨response, stored, hits⟩
  · rw [missing] at found
    cases found
  · obtain rfl := Option.some.inj (stored.symm.trans found)
    exact hits

theorem replied_of_held {system : System} {request : FetchRequest} {entry : Entry}
    (activated : system.state.phase = .activated) (only : OnlyCurrent worker system.state.storage)
    (cacheable : request.isCacheable)
    (held : system.state.storage.held? worker.version request.key = some entry) :
    Event.replied request (.ok ⟨.cache, entry.response⟩) ∈
      system.events worker (.fetch request) := by
  have answered := System.task?_fetch worker request system
  rw [start_of_held activated only cacheable held] at answered
  refine List.mem_append_left _ ?_
  simp only [System.replies, answered, List.mem_singleton]

/-- Whether a task is a fetch in the background, or was until it was answered. -/
def Task.Refreshes (pending : Refresh) : Task → Prop
  | refresh other => other = pending
  | refreshed => True
  | _ => False

/-- What a task keeps whatever it is answered and whatever it does. -/
structure Task.Stable (worker : Worker) (kept : Task → Prop) : Prop where
  receive {position : Nat} {answer : Except Failure FetchResponse} {now : Timestamp}
    {state : State} {task : Task} (holds : kept task) :
    kept (task.receive worker position answer now state).next
  proceed {state : State} {task : Task} (holds : kept task) : kept (task.proceed worker state).next
  step {state : State} {task : Task} (holds : kept task) : kept (task.step worker state).next

theorem Task.Refreshes.stable (worker : Worker) (pending : Refresh) :
    Task.Stable worker (Task.Refreshes pending) where
  receive {_ _ _ _ task} refreshes := by
    cases task with
    | refresh _ => trivial
    | refreshed => trivial
    | _ => exact refreshes.elim
  proceed {_ task} refreshes := by
    cases task with
    | installation stage => exact refreshes.elim
    | _ => exact refreshes
  step {_ task} refreshes := by
    cases task with
    | installation stage => exact refreshes.elim
    | _ => exact refreshes

namespace Interleaving

variable {now : Interleaving} {number : Nat} {pending : Refresh}

theorem le_next (worker : Worker) (now : Interleaving) (move : Move) :
    now.system.next ≤ (now.next worker move).system.next := by
  cases move with
  | whole operation => exact System.next_le_perform worker now.system operation
  | install => simp [next, goOn, System.add, System.next]
  | step place =>
    cases place with
    | task number =>
      simp only [next, goOn, System.advance]
      split <;> simp [System.next]
    | thread number =>
      simp only [next]
      split <;> exact Nat.le_refl _
  | _ => exact Nat.le_refl _

/-- What holds of the task of a number, if there is one. -/
structure Bears (now : Interleaving) (number : Nat) (kept : Task → Prop) : Prop where
  begun : number < now.system.next
  keeps {task : Task} (present : now.system.task? number = some task) : kept task

theorem Bears.next {kept : Task → Prop} (bears : now.Bears number kept)
    (stable : Task.Stable worker kept) (move : Move) :
    (now.next worker move).Bears number kept where
  begun := Nat.lt_of_lt_of_le bears.begun (now.le_next worker move)
  keeps present := by
    have begun := bears.begun
    cases move with
    | whole operation =>
      exact System.kept_perform now.system stable.receive stable.proceed begun
        (fun _ old => bears.keeps old) present
    | install =>
      rcases System.task?_add present with old | ⟨new, _⟩
      · exact bears.keeps old
      · omega
    | step place =>
      cases place with
      | task other =>
        rcases System.task?_advance present with old | ⟨rfl, task, old, rfl⟩
        · exact bears.keeps old
        · exact stable.step (bears.keeps old)
      | thread other =>
        cases taken : now.threads[other]? with
        | none =>
          simp only [Interleaving.next, taken] at present
          exact bears.keeps present
        | some thread =>
          simp only [Interleaving.next, taken] at present
          exact bears.keeps present
    | _ => exact bears.keeps present

theorem Bears.after {kept : Task → Prop} (bears : now.Bears number kept)
    (stable : Task.Stable worker kept) (moves : List Move) :
    (now.after worker moves).Bears number kept :=
  after_induction (motive := fun now => now.Bears number kept)
    (fun _ move bears => bears.next stable move) bears moves

/-- A fetch in the background has this number. -/
structure Refreshing (now : Interleaving) (number : Nat) (pending : Refresh) : Prop where
  begun : number < now.system.next
  refreshes {task : Task} (present : now.system.task? number = some task) : task.Refreshes pending

theorem Refreshing.after (refreshing : now.Refreshing number pending) (moves : List Move) :
    (now.after worker moves).Refreshing number pending := by
  have bears : now.Bears number (Task.Refreshes pending) :=
    ⟨refreshing.begun, refreshing.refreshes⟩
  have later := bears.after (Task.Refreshes.stable worker pending) moves
  exact ⟨later.begun, later.keeps⟩

theorem Refreshing.task?_of_call? (refreshing : now.Refreshing number pending)
    {request : FetchRequest} (underWay : now.system.call? number 0 = some request) :
    now.system.task? number = some (.refresh pending) := by
  obtain ⟨task, present, asked⟩ := Option.bind_eq_some_iff.mp underWay
  have refreshes := refreshing.refreshes present
  cases task with
  | refresh other =>
    obtain rfl : other = pending := refreshes
    exact present
  | refreshed => cases asked
  | _ => exact refreshes.elim

/-- The fetch in the background that begins when a stored response is served. -/
theorem refreshing_fetch {request : FetchRequest} {entry : Entry}
    (activated : now.state.phase = .activated) (only : OnlyCurrent worker now.storage)
    (cacheable : request.isCacheable)
    (held : now.storage.held? worker.version request.key = some entry) :
    ∃ store, (now.next worker (.whole (.fetch request))).system.task? (now.system.next + 1) =
        some (.refresh ⟨store, request⟩) ∧
      (now.next worker (.whole (.fetch request))).storage.find? worker.version = some store ∧
      (now.next worker (.whole (.fetch request))).Refreshing (now.system.next + 1)
        ⟨store, request⟩ := by
  have hits := start_of_held activated only cacheable held
  have there := System.task?_fetch_refresh now.system (congrArg (·.next.2) hits)
  have state :
      (now.next worker (.whole (.fetch request))).state = (worker.openCurrent now.state).2 :=
    (System.state_fetch worker request now.system).trans (congrArg (·.state) hits)
  refine ⟨_, there, ?_, (List.getElem?_eq_some_iff.mp there).1, fun present => ?_⟩
  · unfold storage
    rw [state]
    exact Storage.find?_openStore now.storage worker.version
  · obtain rfl := Option.some.inj (there.symm.trans present)
    rfl

/-- Each of some moves is allowed where it is made. -/
def Throughout (worker : Worker) (allowed : Interleaving → Move → Prop) (now : Interleaving) :
    List Move → Prop
  | [] => True
  | move :: rest => allowed now move ∧ (now.next worker move).Throughout worker allowed rest

theorem Spares.changes_after {allowed : Interleaving → Move → Prop} {deletes : String → Prop}
    {puts : Key → FetchResponse → Prop} {moves : List Move}
    (deleted : ∀ now move, allowed now move →
      ∀ name, name ≠ worker.version ∨ now.Clears move → deletes name)
    (put : ∀ now move, allowed now move →
      ∀ key response, now.Writes key response move → puts key response)
    (spares : now.Spares worker) (throughout : now.Throughout worker allowed moves) :
    Changes worker.version deletes puts now.storage (now.after worker moves).storage := by
  induction moves generalizing now with
  | nil => exact .refl _
  | cons move rest ih =>
    obtain ⟨first, later⟩ := throughout
    exact ((spares.changes move).mono (deleted now move first) (put now move first)).trans
      (ih (spares.next move) later)

/-- While the cache is not cleared the current store stays the same. -/
theorem Spares.find?_after {moves : List Move} {handle : Handle} (spares : now.Spares worker)
    (uncleared : now.Throughout worker (fun now move => ¬ now.Clears move) moves)
    (found : now.storage.find? worker.version = some handle) :
    (now.after worker moves).storage.find? worker.version = some handle := by
  have changes : Changes worker.version (· ≠ worker.version) (fun _ _ => True) now.storage _ :=
    spares.changes_after (fun _ _ uncleared _ may => may.resolve_right uncleared)
      (fun _ _ _ _ _ _ => trivial) uncleared
  exact changes.find?_kept (not_not_intro rfl) found

/-- While the cache is not cleared and a key not written its entry stays the same. -/
theorem Spares.held?_after {moves : List Move} {key : Key} {entry : Entry}
    (spares : now.Spares worker)
    (kept : now.Throughout worker
      (fun now move => ¬ now.Clears move ∧ ∀ response, ¬ now.Writes key response move) moves)
    (held : now.storage.held? worker.version key = some entry) :
    (now.after worker moves).storage.held? worker.version key = some entry := by
  obtain ⟨handle, found, present⟩ := Option.bind_eq_some_iff.mp held
  have changes : Changes worker.version (· ≠ worker.version) (fun written _ => written ≠ key)
      now.storage (now.after worker moves).storage := by
    refine spares.changes_after (fun _ _ kept _ may => may.resolve_right kept.1) ?_ kept
    rintro now move ⟨_, unwritten⟩ written response writes rfl
    exact unwritten response writes
  refine Option.bind_eq_some_iff.mpr ⟨handle, changes.find?_kept (not_not_intro rfl) found, ?_⟩
  rw [changes.lookup?_kept fun _ => not_not_intro rfl, present]

/-- What a fetch in the background for the current store brings is held there, and if it is of no
use the storage stays as it is. -/
theorem storage_of_refreshed (worker : Worker) (answer : Except Failure FetchResponse)
    (time : Timestamp) (present : now.system.task? number = some (.refresh pending)) :
    (∀ response, answer = .ok response → response.status = 200 →
        now.storage.find? worker.version = some pending.store →
        (now.next worker (.whole (.answer number 0 answer time))).storage.held? worker.version
          pending.request.key = some ⟨response, time⟩) ∧
      ((∀ response, answer = .ok response → response.status ≠ 200) →
        (now.next worker (.whole (.answer number 0 answer time))).storage = now.storage) := by
  have underWay : now.system.call? number 0 = some pending.request := by
    simp [System.call?, present, Task.calls]
  have state : (now.next worker (.whole (.answer number 0 answer time))).state =
      (pending.receive answer time now.state).state := by
    simp only [Interleaving.next, Interleaving.state, Run.next, System.perform, underWay,
      System.receive, System.state_advance present]
    rfl
  unfold storage
  rw [state]
  refine ⟨?_, fun useless => ?_⟩
  · rintro response rfl good found
    have storable : response.isStorable := FetchResponse.isStorable_iff.mpr good
    simp only [Refresh.receive, storable, if_true, Turn.quiet]
    refine Option.bind_eq_some_iff.mpr ⟨pending.store, found, ?_⟩
    rw [Storage.put, Storage.lookup?_insert, if_pos]
    exact ⟨rfl, Storage.lt_size_of_find? found, rfl⟩
  · cases answer with
    | error cause => rfl
    | ok response =>
      have unstorable : response.isStorable = false :=
        FetchResponse.isStorable_eq_false_iff.mpr (useless response rfl)
      simp only [Refresh.receive, unstorable, Bool.false_eq_true, if_false]

end Interleaving

theorem isWeb_withoutFragment (url : Url) : url.withoutFragment.isWeb = url.isWeb := rfl

/-- In every reachable state an activated worker serves a stored response at once, and fetches it
again in the background. When that fetch brings a response with status 200, it is the one that is
served next for the URL, whatever its fragment, unless the cache is cleared or the key written anew;
and when it brings another, or fails, what is found under any key stays the same. -/
theorem refresh_served (worker : Worker) (storage : Storage) (past : List Move)
    {request : FetchRequest} {name : String} {entry : Entry}
    (activated : (Interleaving.of worker storage past).state.phase = .activated)
    (cacheable : request.isCacheable)
    (stored : (Interleaving.of worker storage past).storage.held? name request.key = some entry) :
    let start := Interleaving.of worker storage past
    let served := start.next worker (.whole (.fetch request))
    let refresh := start.system.next + 1
    Event.replied request (.ok ⟨.cache, entry.response⟩) ∈
        start.system.events worker (.fetch request) ∧
      served.system.call? refresh 0 = some request ∧
      ∀ between answer time,
        let before := served.after worker between
        let done := before.next worker (.whole (.answer refresh 0 answer time))
        before.system.call? refresh 0 = some request →
        (∀ response, answer = .ok response → response.status = 200 →
          served.Throughout worker (fun now move => ¬ now.Clears move) between →
          ∀ later other,
            done.Throughout worker (fun now move => ¬ now.Clears move ∧
              ∀ written, ¬ now.Writes request.key written move) later →
            (done.after worker later).state.phase = .activated →
            other.method = "GET" →
            other.url.withoutFragment = request.url.withoutFragment →
            Event.replied other (.ok ⟨.cache, response⟩) ∈
              (done.after worker later).system.events worker (.fetch other)) ∧
        ((∀ response, answer = .ok response → response.status ≠ 200) →
          ∀ key, done.storage.matchRequest key = before.storage.matchRequest key) := by
  intro start served refresh
  have rolling := Interleaving.rolling_of worker storage past
  have only := rolling.settled activated
  obtain rfl := only.held stored
  have replied := replied_of_held activated only cacheable stored
  obtain ⟨store, there, current, refreshing⟩ :=
    Interleaving.refreshing_fetch activated only cacheable stored
  have underWay : served.system.call? refresh 0 = some request :=
    Option.bind_eq_some_iff.mpr ⟨_, there, rfl⟩
  refine ⟨replied, underWay, ?_⟩
  intro between answer time before done pending
  have present := (refreshing.after between).task?_of_call? pending
  obtain ⟨useful, useless⟩ := Interleaving.storage_of_refreshed worker answer time present
  refine ⟨?_, fun other key => by rw [useless other]⟩
  intro response answered good uncleared later other kept stays method url
  have servedRolling := rolling.next (.whole (.fetch request))
  have doneRolling : done.Rolling worker := (servedRolling.after between).next _
  have held := useful response answered good (servedRolling.spares.find?_after uncleared current)
  have heldLater := doneRolling.spares.held?_after kept held
  have sameKey : other.key = request.key := by
    rw [FetchRequest.key, FetchRequest.key, Cache.Key.of, Cache.Key.of, url, method,
      method_of_isCacheable cacheable]
  have cacheableToo : other.isCacheable := by
    have web := (Bool.and_eq_true_iff.mp cacheable).2
    rw [← isWeb_withoutFragment, ← url, isWeb_withoutFragment] at web
    simp [FetchRequest.isCacheable, method, web]
  exact replied_of_held stays ((doneRolling.after later).settled stays) cacheableToo
    (sameKey ▸ heldLater)

namespace Refreshed

def paragraph : Url := { page with fragment := some "part" }

def fresh : FetchResponse := ⟨200, [("etag", "2")], "new".toUTF8⟩

def activated : Interleaving := .of Refreshed.worker stored [.whole .activate]

def answered : Interleaving :=
  (activated.next Refreshed.worker (.whole (.fetch (.get page)))).next Refreshed.worker
    (.whole (.answer (activated.system.next + 1) 0 (.ok fresh) default))

theorem phase_activated : activated.state.phase = .activated := by
  simp only [activated, Interleaving.of, Interleaving.after, List.foldl, Interleaving.next,
    Run.next,
    System.perform, System.act, Interleaving.state, activate_eq]

theorem phase_answered : answered.state.phase = .activated := by
  simp only [answered, activated, Interleaving.of, Interleaving.after, List.foldl,
    Interleaving.next, Run.next, System.perform, System.act, Interleaving.state, activate_eq]
  decide +kernel

theorem isSome_held? : (activated.storage.held? "v1" (FetchRequest.get page).key).isSome := by
  simp only [activated, Interleaving.of, Interleaving.after, List.foldl, Interleaving.next,
    Run.next,
    System.perform, System.act, Interleaving.storage, Interleaving.state, activate_eq]
  decide +kernel

end Refreshed

open Refreshed in
theorem fresh_page_served :
    Event.replied (.get paragraph) (.ok ⟨.cache, fresh⟩) ∈
      answered.system.events Refreshed.worker (.fetch (.get paragraph)) := by
  obtain ⟨entry, held⟩ := Option.isSome_iff_exists.mp isSome_held?
  have cacheable : (FetchRequest.get page).isCacheable := by decide
  obtain ⟨_, underWay, later⟩ :=
    refresh_served Refreshed.worker stored [.whole .activate] phase_activated cacheable held
  exact (later [] (.ok fresh) default underWay).1 fresh rfl rfl trivial [] (.get paragraph) trivial
    phase_answered rfl rfl

end OfflineSite.Worker
