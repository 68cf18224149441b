import OfflineSite.Proofs.Cache.Reloading
import OfflineSite.Proofs.Worker.Offline

namespace OfflineSite.Worker

open Cache (Entry Key Snapshot Storage)

variable {worker : Worker}

/-- The life of a worker: what comes until the fetches of its installation have returned, what comes
when the installation has gone on, and what comes when the worker is out of use. -/
structure Session where
  installing : List Move
  serving : List Move
  stopping : List Move

namespace Session

def served (session : Session) (worker : Worker) (storage : Storage) : Interleaving :=
  .of worker storage
    (.whole .install :: session.installing ++ .whole (.proceed 0) :: session.serving)

def stopped (session : Session) (worker : Worker) (storage : Storage) : Interleaving :=
  ((session.served worker storage).next worker (.whole .retire)).after worker session.stopping

/-- Every fetch fails, those of the installation before it goes on. -/
structure Offline (worker : Worker) (storage : Storage) (session : Session) : Prop where
  fails : ∀ move ∈ session.installing ++ session.serving ++ session.stopping, move.Offline
  returned (position : Nat) : (Interleaving.of worker storage
    (.whole .install :: session.installing)).system.call? 0 position = none

variable {session : Session} {storage : Storage}

theorem Offline.serving (offline : session.Offline worker storage)
    (skips : worker.config.skipWaitingOnInstall = true) :
    (session.served worker storage).Serving worker storage := by
  have installing : ∀ move ∈ session.installing, move.Offline := fun move listed =>
    offline.fails move (List.mem_append_left _ (List.mem_append_left _ listed))
  have serving : ∀ move ∈ session.serving, move.Offline := fun move listed =>
    offline.fails move (List.mem_append_left _ (List.mem_append_right _ listed))
  have sheltered := (Interleaving.sheltered_install skips storage).after installing
  rw [served, Interleaving.of, Interleaving.after_append]
  exact (sheltered.serving_proceed offline.returned).after serving

/-- Taking the worker out of use changes no store. -/
theorem Offline.kept_stopped (offline : session.Offline worker storage)
    (skips : worker.config.skipWaitingOnInstall = true) :
    (session.stopped worker storage).Kept worker storage := by
  have stopping : ∀ move ∈ session.stopping, move.Offline := fun move listed =>
    offline.fails move (List.mem_append_right _ listed)
  have served := (offline.serving skips).toKept
  have retired : ((session.served worker storage).next worker (.whole .retire)).Kept worker
      storage := served.next id fun _ _ => id
  exact retired.after stopping

end Session

variable {σ : Type} {files : Files (StateM σ)} {path : String}

/-- What becomes of a storage, and of the place where it is kept, in any number of restarts. -/
inductive Restarted (worker : Worker) (files : Files (StateM σ)) (path : String)
    (start : Storage) (disk : σ) : Storage → σ → Prop
  | never : Restarted worker files path start disk start disk
  | again {storage left loaded : Storage} {before between after : σ} {now : Timestamp}
      {session : Session} (earlier : Restarted worker files path start disk storage before)
      (readable : Snapshot.ofText? (Snapshot.ofStorage storage now).toml =
        some (Snapshot.ofStorage storage now))
      (saved : (storage.save files path now).run.run before = (.ok left, between))
      (loads : (Storage.loadOrEmpty files path).run.run between = (.ok loaded, after))
      (offline : session.Offline worker loaded) :
      Restarted worker files path start disk (session.stopped worker loaded).storage after

theorem Restarted.held? {start storage : Storage} {disk after : σ}
    (restarted : Restarted worker files path start disk storage after)
    (observable : files.Observable) (skips : worker.config.skipWaitingOnInstall = true)
    (key : Key) : storage.held? worker.version key = start.held? worker.version key := by
  induction restarted with
  | never => rfl
  | again _ readable saved loads offline ih =>
    obtain ⟨loaded, result, alike⟩ := Storage.loadOrEmpty_of_saved observable readable saved
    rw [loads] at result
    obtain rfl := Except.ok.inj result
    exact ((offline.kept_stopped skips).held key).trans ((alike.held _ key).trans ih)

/-- A storage that is saved after any number of restarts is found again, and a worker that does not
wait and is installed over it without a network is activated. Its store holds what it held at the
start: what is stored is served from it, and for a navigation to what is not stored the stored
fallback page stands in. -/
theorem restarts_keep_current (observable : files.Observable)
    (skips : worker.config.skipWaitingOnInstall = true) {start storage left : Storage}
    {disk before after : σ} {now : Timestamp}
    (restarted : Restarted worker files path start disk storage before)
    (readable : Snapshot.ofText? (Snapshot.ofStorage storage now).toml =
      some (Snapshot.ofStorage storage now))
    (saved : (storage.save files path now).run.run before = (.ok left, after)) :
    ∃ loaded, ((Storage.loadOrEmpty files path).run.run after).1 = .ok loaded ∧
      ∀ session : Session, session.Offline worker loaded →
        let served := session.served worker loaded
        served.state.phase = .activated ∧
          served.storage.contains worker.version ∧
          (∀ key, served.storage.held? worker.version key = start.held? worker.version key) ∧
          (∀ request entry, request.isCacheable →
            start.held? worker.version request.key = some entry →
            Event.replied request (.ok ⟨.cache, entry.response⟩) ∈
              served.system.events worker (.fetch request)) ∧
          ∀ request url page, request.isCacheable → request.destination = .document →
            start.held? worker.version request.key = none →
            worker.urlFor worker.config.offlineFallback = .ok url →
            start.held? worker.version (.get url) = some page →
            let asked := served.next worker (.whole (.fetch request))
            let number := served.system.next
            asked.system.call? number 0 = some request ∧
              ∀ later cause time, (∀ move ∈ later, move.Offline) →
                (asked.after worker later).system.call? number 0 = some request →
                Event.replied request (.ok ⟨.fallback, page.response⟩) ∈
                  (asked.after worker later).system.events worker
                    (.answer number 0 (.error cause) time) := by
  obtain ⟨loaded, result, alike⟩ := Storage.loadOrEmpty_of_saved observable readable saved
  refine ⟨loaded, result, fun session offline => ?_⟩
  intro served
  have same (key : Key) : loaded.held? worker.version key = start.held? worker.version key :=
    (alike.held _ key).trans (restarted.held? observable skips key)
  have serving : served.Serving worker loaded := offline.serving skips
  refine ⟨serving.phase, serving.opened, fun key => (serving.held key).trans (same key),
    fun request entry cacheable held => serving.replied cacheable ((same _).trans held), ?_⟩
  intro request url page cacheable document absent fallback held asked number
  have missing := serving.task?_missing cacheable ((same _).trans absent)
  refine ⟨?_, fun later cause time fails underWay => ?_⟩
  · exact Option.bind_eq_some_iff.mpr ⟨_, missing, rfl⟩
  · have begun : number < asked.system.next := (List.getElem?_eq_some_iff.mp missing).1
    have bears : asked.Bears number (Task.Misses request) := by
      refine ⟨begun, fun present => ?_⟩
      obtain rfl := Option.some.inj (missing.symm.trans present)
      rfl
    have pending := (bears.after (Task.Misses.stable worker request) later).task?_missing underWay
    have asking : asked.Serving worker loaded := serving.next trivial
    exact (asking.after fails).replied_fallback pending document fallback
      ((same _).trans held) cause time

theorem OnlyCurrent.alike {storage other : Storage} (only : OnlyCurrent worker storage)
    (onlyOther : OnlyCurrent worker other) (there : storage.contains worker.version)
    (thereToo : other.contains worker.version)
    (held : ∀ key, storage.held? worker.version key = other.held? worker.version key) :
    Storage.Alike storage other where
  keys := Storage.keys_congr fun name =>
    ⟨fun present => only name present ▸ thereToo, fun present => onlyOther name present ▸ there⟩
  held name key := by
    by_cases current : name = worker.version
    · exact current ▸ held key
    · have none {storage : Storage} (only : OnlyCurrent worker storage) :
          storage.held? name key = none :=
        Option.eq_none_iff_forall_ne_some.mpr fun _ held => current (only.held held)
      rw [none only, none onlyOther]

namespace Restarting

open Refreshed (page)

def site : Worker :=
  ⟨{ version := "v1", precache := ["/page"], offlineFallback := "/page" }, page⟩

def noon : Timestamp := ⟨⟨2026, 1, 2⟩, 12, 0, 0, 0⟩

def response : FetchResponse := ⟨200, [], "x".toUTF8⟩

def stored : Storage := (Storage.empty.create "v1").2.put 0 (.get page) response noon

def unreachable : Except Failure FetchResponse := .error (.network "offline")

def session : Session where
  installing := [.whole (.answer 0 0 unreachable noon)]
  serving := [.whole (.fetch (.get page)), .whole (.answer 2 0 unreachable noon)]
  stopping := []

theorem exists_begun (storage : Storage) :
    ∃ state store, (System.initial storage).perform site .install =
      ⟨state, [.installation (.warming store [⟨"/page", .asked (.get page)⟩])]⟩ := by
  have url : site.urlFor "/page" = .ok page := by decide +kernel
  have slots : site.config.precache.map (Slot.start site) = [⟨"/page", .asked (.get page)⟩] :=
    congrArg (fun slot => [slot]) (Slot.start_of_urlFor url)
  obtain ⟨store, installs⟩ :=
    Installation.run_starting_of_waiting (System.initial storage).state slots rfl
  simp only [System.perform, System.install, installs]
  exact ⟨_, _, rfl⟩

theorem offline (storage : Storage) : session.Offline site storage where
  fails := by simp [session, Move.Offline, Operation.Offline, unreachable]
  returned position := by
    obtain ⟨state, store, begun⟩ := exists_begun storage
    simp only [Interleaving.of, Interleaving.after, List.foldl, Interleaving.next, Run.next,
      session, Interleaving.initial, begun]
    rfl

theorem onlyCurrent : OnlyCurrent site stored := by
  intro name present
  have listed : name ∈ stored.keys := by
    rwa [Storage.mem_keys, ← Storage.contains_eq_isSome]
  have keys : stored.keys = ["v1"] := by decide +kernel
  rw [keys] at listed
  exact List.mem_singleton.mp listed

theorem held_page : stored.held? site.version (.get page) = some ⟨response, noon⟩ := by
  have found : stored.find? site.version = some 0 := by decide +kernel
  refine Option.bind_eq_some_iff.mpr ⟨0, found, ?_⟩
  exact (Storage.lookup?_insert ..).trans (if_pos ⟨rfl, Nat.one_pos, rfl⟩)

theorem readable : Snapshot.ofText? (Snapshot.ofStorage stored noon).toml =
    some (Snapshot.ofStorage stored noon) := by
  decide +kernel

def saved : Except Failure Storage × FileTree :=
  (stored.save FileTree.files "cache.toml" noon).run.run FileTree.empty

def reloaded : Except Failure Storage × FileTree :=
  (Storage.loadOrEmpty FileTree.files "cache.toml").run.run saved.2

def resaved : Except Failure Storage × FileTree :=
  (stored.save FileTree.files "cache.toml" noon).run.run reloaded.2

theorem isOk_saved : saved.1.isOk := by decide +kernel

theorem isOk_resaved : resaved.1.isOk := by decide +kernel

theorem alike_stopped {loaded : Storage} (alike : Storage.Alike loaded stored) :
    Storage.Alike (session.stopped site loaded).storage stored := by
  have serving := (offline loaded).serving rfl
  refine serving.onlyCurrent.alike onlyCurrent serving.opened (by decide +kernel) fun key => ?_
  exact (serving.held key).trans (alike.held _ key)

end Restarting

open Restarting in
open Refreshed (page) in
/-- A page that is precached and stored, through two restarts. In each the installation's fetch of
the page fails, and so does the one that is to refresh it when it was served. -/
theorem page_served_after_restart :
    ∃ storage loaded disk, Restarted site FileTree.files "cache.toml" stored .empty storage disk ∧
      ((storage.save FileTree.files "cache.toml" noon).run.run disk).1.isOk ∧
        Event.replied (.get page) (.ok ⟨.cache, response⟩) ∈
          (session.served site loaded).system.events site (.fetch (.get page)) := by
  obtain ⟨left, first⟩ : ∃ left, saved = (.ok left, saved.2) := by
    have succeeds := isOk_saved
    generalize saved = outcome at succeeds ⊢
    obtain ⟨cause | left, disk⟩ := outcome
    · cases succeeds
    · exact ⟨left, rfl⟩
  obtain ⟨loaded, result, alike⟩ :=
    Storage.loadOrEmpty_of_saved FileTree.observable readable first
  have restarted : Restarted site FileTree.files "cache.toml" stored .empty
      (session.stopped site loaded).storage reloaded.2 :=
    .again .never readable first (Prod.ext result rfl) (offline loaded)
  have same := (alike_stopped alike).ofStorage_eq noon
  obtain ⟨final, again⟩ : ∃ final, ((session.stopped site loaded).storage.save FileTree.files
      "cache.toml" noon).run.run reloaded.2 = (.ok final, resaved.2) := by
    have succeeds := isOk_resaved
    rw [Storage.run_save_congr same]
    unfold resaved at succeeds ⊢
    cases outcome : ((stored.save FileTree.files "cache.toml" noon).run.run reloaded.2).1 with
    | error cause =>
      rw [outcome] at succeeds
      cases succeeds
    | ok other => exact ⟨_, rfl⟩
  obtain ⟨last, _, survives⟩ := restarts_keep_current FileTree.observable rfl restarted
    (by rw [same]; exact readable) again
  obtain ⟨_, _, _, replied, _⟩ := survives session (offline last)
  refine ⟨_, last, _, restarted, by rw [again]; rfl, ?_⟩
  exact replied (.get page) ⟨response, noon⟩ (by decide) held_page

end OfflineSite.Worker
