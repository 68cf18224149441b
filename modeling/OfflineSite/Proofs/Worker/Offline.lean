import OfflineSite.Proofs.Worker.Phases
import OfflineSite.Proofs.Worker.Refreshing

namespace OfflineSite.Worker

open Cache (Entry Handle Key Storage)
open Cache.Storage (Changes)

variable {worker : Worker} {state : State}

/-- What may happen while every fetch fails. -/
def Operation.Offline : Operation → Prop
  | .fetch _ | .settle | .proceed _ => True
  | .answer _ _ received _ => ∃ cause, received = .error cause
  | _ => False

def Move.Offline : Move → Prop
  | .whole operation => operation.Offline
  | _ => False

namespace Installation

/-- An installation that will activate the worker without being told to, or that has. -/
def Ready (state : State) : Installation → Prop
  | warming _ _ => state.skipsWaiting = true
  | ended _ => state.phase = .activated
  | _ => False

/-- Once its fetches have returned, an installation that skips waiting activates the worker. -/
theorem run_of_returned {store : Handle} {slots : List Slot}
    (returned : slots.any Slot.isWaiting = false) (skips : state.skipsWaiting = true) :
    ((warming store slots).run worker state).next = ended (.ofSlots slots) ∧
      ((warming store slots).run worker state).state.phase = .activated := by
  obtain ⟨ends, after⟩ := run_returned worker state store returned
  refine ⟨ends, ?_⟩
  rw [after, installed, if_pos skips, activate_eq]

/-- An installation leaves the current store there. -/
theorem contains_run_starting (worker : Worker) (state : State) :
    (starting.run worker state).state.storage.contains worker.version := by
  have changes (later : State) (store : Handle) (slots : List Slot) :
      Changes worker.version (· ≠ worker.version) (fun _ _ => False) later.storage
        ((warming store slots).run worker later).state.storage :=
    run_changes (fun _ other => other) later fun _ under => by cases under
  rw [run_starting, Storage.contains_eq_isSome, Option.isSome_iff_exists]
  exact ⟨_, (changes _ _ _).find?_kept (not_not_intro rfl)
    (Storage.find?_openStore state.storage worker.version)⟩

namespace Ready

variable {stage : Installation}

theorem of_storage (ready : stage.Ready state) (storage : Storage) :
    stage.Ready { state with storage } := by
  cases stage <;> exact ready

theorem run (ready : stage.Ready state) :
    (stage.run worker state).next.Ready (stage.run worker state).state := by
  cases stage with
  | warming store slots =>
    cases waiting : slots.any Slot.isWaiting with
    | true =>
      rw [run_of_waiting waiting]
      exact ready
    | false =>
      obtain ⟨ends, activated⟩ := @run_of_returned worker state store slots waiting ready
      rw [ends]
      exact activated
  | ended report =>
    rw [Installation.run]
    exact ready
  | _ => exact ready.elim

theorem run_ended (ready : stage.Ready state) (returned : stage.calls = []) :
    ∃ report, (stage.run worker state).next = ended report := by
  cases stage with
  | warming store slots =>
    cases waiting : slots.any Slot.isWaiting with
    | true =>
      obtain ⟨position, request, asked⟩ := exists_call_of_isWaiting store waiting
      rw [returned] at asked
      cases asked
    | false => exact ⟨_, (run_of_returned waiting ready).1⟩
  | ended report => exact ⟨report, by rw [Installation.run]; rfl⟩
  | _ => exact ready.elim

theorem starting (skips : worker.config.skipWaitingOnInstall = true) (state : State) :
    (Installation.starting.run worker state).next.Ready
      (Installation.starting.run worker state).state := by
  rw [run_starting]
  refine Ready.run ?_
  simp only [Ready, openCurrent, skips, Bool.or_true]

theorem receive {position : Nat} {answer : Except Failure FetchResponse} {now : Timestamp}
    (ready : stage.Ready state) :
    (stage.receive position answer now state).next.Ready
      (stage.receive position answer now state).state := by
  rcases receive_cases position answer now state stage with ⟨_, idle⟩ |
    ⟨_, _, _, _, _, rfl, _, _, settled, _⟩
  · rw [idle]
    exact ready
  · rw [settled]
    exact ready

end Ready

end Installation

namespace Task

theorem state_proceed {task : Task} (other : ∀ stage, task ≠ .installation stage) :
    (task.proceed worker state).state = state := by
  cases task with
  | installation stage => exact absurd rfl (other stage)
  | _ => rfl

/-- Whether the answer to a request is awaited to be stored, or was until it came. -/
def Misses (request : FetchRequest) : Task → Prop
  | exchange (.missing other) => other = request
  | exchange (.ended _) => True
  | _ => False

theorem Misses.stable (worker : Worker) (request : FetchRequest) :
    Stable worker (Misses request) where
  receive {_ answer now state task} misses := by
    cases task with
    | exchange stage =>
      have ended := stage.call?_receive worker answer now state
      simp only [Task.receive, Turn.map]
      cases following : (stage.receive worker answer now state).next with
      | ended result => trivial
      | _ =>
        rw [following] at ended
        cases ended
    | _ => exact misses.elim
  proceed {_ task} misses := by
    cases task with
    | installation stage => exact misses.elim
    | _ => exact misses
  step {_ task} misses := by
    cases task with
    | installation stage => exact misses.elim
    | _ => exact misses

end Task

namespace System

variable {system : System}

/-- There is one installation, the first task of all, and it is ready. -/
structure Ready (system : System) : Prop where
  installing : ∃ stage, system.task? 0 = some (.installation stage) ∧ stage.Ready system.state
  alone {number : Nat} {stage : Installation}
    (there : system.task? number = some (.installation stage)) : number = 0

theorem ready_install (skips : worker.config.skipWaitingOnInstall = true) (storage : Storage) :
    ((initial storage).perform worker .install).Ready where
  installing := ⟨_, rfl, .starting skips (.initial storage)⟩
  alone there := by
    rcases task?_add there with old | ⟨rfl, _⟩
    · cases old
    · rfl

/-- Only the installation changes more than the storage. -/
theorem Ready.installing_advance (ready : system.Ready) {number : Nat}
    {step : State → Task → Turn Task}
    (own : ∀ stage, stage.Ready system.state →
      ∃ following, (step system.state (.installation stage)).next = .installation following ∧
        following.Ready (step system.state (.installation stage)).state)
    (others : ∀ task, (∀ stage, task ≠ .installation stage) →
      ∃ storage, (step system.state task).state = { system.state with storage }) :
    ∃ stage, (system.advance number step).1.task? 0 = some (.installation stage) ∧
      stage.Ready (system.advance number step).1.state := by
  obtain ⟨stage, there, stageReady⟩ := ready.installing
  by_cases first : number = 0
  · subst first
    obtain ⟨following, next, followingReady⟩ := own stage stageReady
    refine ⟨following, (task?_advance_self there).trans (congrArg some next), ?_⟩
    rwa [state_advance there]
  · refine ⟨stage, (task?_advance_of_ne first).trans there, ?_⟩
    cases present : system.task? number with
    | none =>
      simp only [advance, present]
      exact stageReady
    | some task =>
      have other (stage : Installation) : task ≠ .installation stage := by
        rintro rfl
        exact first (ready.alone present)
      obtain ⟨storage, same⟩ := others task other
      rw [state_advance present, same]
      exact stageReady.of_storage storage

theorem Ready.perform (ready : system.Ready) {operation : Operation}
    (offline : operation.Offline) : (system.perform worker operation).Ready where
  installing := by
    cases operation with
    | fetch request =>
      obtain ⟨stage, there, stageReady⟩ := ready.installing
      obtain ⟨storage, same⟩ := Exchange.exists_storage_start worker request system.state
      have begun : 0 < system.next := (List.getElem?_eq_some_iff.mp there).1
      refine ⟨stage, (task?_fetch_of_lt begun).trans there, ?_⟩
      rw [state_fetch, same]
      exact stageReady.of_storage storage
    | settle => exact ready.installing
    | answer number position answer now =>
      simp only [System.perform]
      split
      · exact ready.installing_advance (fun _ stageReady => ⟨_, rfl, stageReady.receive⟩)
          fun task _ => task.exists_storage_receive worker position answer now system.state
      · exact ready.installing
    | proceed number =>
      exact ready.installing_advance (fun _ stageReady => ⟨_, rfl, stageReady.run⟩)
        fun _ other => ⟨_, Task.state_proceed other⟩
    | _ => exact offline.elim
  alone there := by
    rcases installation_cases there with ⟨before, old, _⟩ | ⟨rfl, _⟩
    · exact ready.alone old
    · exact offline.elim

/-- An installation that has ended has activated the worker. -/
theorem Ready.phase (ready : system.Ready) {report : InstallReport}
    (ended : system.task? 0 = some (.installation (.ended report))) :
    system.state.phase = .activated := by
  obtain ⟨stage, there, stageReady⟩ := ready.installing
  obtain rfl := Task.installation.inj (Option.some.inj (there.symm.trans ended))
  exact stageReady

theorem Ready.ended_proceed (ready : system.Ready)
    (returned : ∀ position, system.call? 0 position = none) :
    ∃ report, (system.perform worker (.proceed 0)).task? 0 =
      some (.installation (.ended report)) := by
  obtain ⟨stage, there, stageReady⟩ := ready.installing
  have none : stage.calls = [] := by
    refine List.eq_nil_iff_forall_not_mem.mpr fun ⟨position, request⟩ asked => ?_
    have absent := returned position
    simp only [call?, there, Option.bind_some, List.lookup_eq_none_iff] at absent
    simpa using absent _ asked
  obtain ⟨report, ends⟩ := stageReady.run_ended none
  have proceeded : (Task.proceed worker system.state (.installation stage)).next =
      .installation (.ended report) := congrArg Task.installation ends
  exact ⟨report, (task?_advance_self there).trans (congrArg some proceeded)⟩

theorem Ready.ended_perform (ready : system.Ready) {operation : Operation}
    (offline : operation.Offline) {report : InstallReport}
    (ended : system.task? 0 = some (.installation (.ended report))) :
    (system.perform worker operation).task? 0 = some (.installation (.ended report)) := by
  obtain ⟨stage, there, _⟩ := (@Ready.perform worker _ ready _ offline).installing
  have begun : 0 < system.next := (List.getElem?_eq_some_iff.mp ended).1
  have kept : Task.installation stage = .installation (.ended report) := by
    refine @kept_perform (· = .installation (.ended report)) worker system operation 0 ?_ ?_
      begun ?_ _ there
    · rintro position answer now state _ rfl
      rfl
    · rintro state _ rfl
      rw [Task.proceed, Installation.run]
      rfl
    · intro task old
      exact Option.some.inj (old.symm.trans ended)
  rw [there, kept]

end System

namespace Interleaving

variable {now : Interleaving} {storage : Storage} {move : Move}

theorem not_clears_of_offline (offline : move.Offline) : ¬ now.Clears move := by
  cases move with
  | whole operation =>
    cases operation with
    | message sent => exact offline.elim
    | rawMessage raw => exact offline.elim
    | _ => exact id
  | _ => exact offline.elim

theorem not_writes_of_offline (offline : move.Offline) (key : Key) (response : FetchResponse) :
    ¬ now.Writes key response move := by
  cases move with
  | whole operation =>
    cases operation with
    | answer number position answer time =>
      obtain ⟨cause, rfl⟩ := offline
      rintro ⟨answered, _⟩
      cases answered
    | _ => exact id
  | _ => exact offline.elim

theorem Bears.task?_missing {number : Nat} {request asked : FetchRequest}
    (bears : now.Bears number (Task.Misses request))
    (underWay : now.system.call? number 0 = some asked) :
    now.system.task? number = some (.exchange (.missing request)) := by
  obtain ⟨task, present, called⟩ := Option.bind_eq_some_iff.mp underWay
  have misses := bears.keeps present
  cases task with
  | exchange stage =>
    cases stage with
    | missing other =>
      obtain rfl : other = request := misses
      exact present
    | ended result => cases called
    | passing other => exact misses.elim
  | _ => exact misses.elim

/-- The current store holds what it held in some storage. -/
structure Kept (worker : Worker) (storage : Storage) (now : Interleaving) : Prop where
  rolling : now.Rolling worker
  held (key : Key) : now.storage.held? worker.version key = storage.held? worker.version key

theorem kept_of (worker : Worker) (storage : Storage) :
    (Interleaving.of worker storage []).Kept worker storage :=
  ⟨rolling_of worker storage [], fun _ => rfl⟩

theorem Kept.next (kept : now.Kept worker storage) (uncleared : ¬ now.Clears move)
    (unwritten : ∀ key response, ¬ now.Writes key response move) :
    (now.next worker move).Kept worker storage where
  rolling := kept.rolling.next move
  held key := by
    refine Eq.trans ((kept.rolling.spares.changes move).held?_eq ?_ (unwritten key)) (kept.held key)
    rintro (other | clears)
    · exact other rfl
    · exact uncleared clears

theorem Kept.after (kept : now.Kept worker storage) {moves : List Move}
    (offline : ∀ move ∈ moves, move.Offline) : (now.after worker moves).Kept worker storage := by
  induction moves generalizing now with
  | nil => exact kept
  | cons move rest ih =>
    have first := offline move (List.mem_cons_self ..)
    exact ih (kept.next (not_clears_of_offline first) (not_writes_of_offline first))
      fun later listed => offline later (List.mem_cons_of_mem _ listed)

/-- A worker whose installation has begun or ended, with the current store as it was. -/
structure Sheltered (worker : Worker) (storage : Storage) (now : Interleaving) : Prop
    extends Kept worker storage now where
  ready : now.system.Ready
  opened : now.storage.contains worker.version

theorem sheltered_install (skips : worker.config.skipWaitingOnInstall = true) (storage : Storage) :
    (Interleaving.of worker storage [.whole .install]).Sheltered worker storage where
  toKept := @Kept.next worker _ storage (.whole .install) (kept_of worker storage) id fun _ _ => id
  ready := System.ready_install skips storage
  opened := Installation.contains_run_starting worker (.initial storage)

theorem Sheltered.next (sheltered : now.Sheltered worker storage) (offline : move.Offline) :
    (now.next worker move).Sheltered worker storage where
  toKept := sheltered.toKept.next (not_clears_of_offline offline) (not_writes_of_offline offline)
  ready := by
    cases move with
    | whole operation => exact sheltered.ready.perform offline
    | _ => exact offline.elim
  opened := by
    have opened := sheltered.opened
    rw [Storage.contains_eq_isSome, Option.isSome_iff_exists] at opened ⊢
    obtain ⟨handle, found⟩ := opened
    refine ⟨handle, (sheltered.rolling.spares.changes move).find?_kept ?_ found⟩
    rintro (other | clears)
    · exact other rfl
    · exact not_clears_of_offline offline clears

theorem Sheltered.after (sheltered : now.Sheltered worker storage) {moves : List Move}
    (offline : ∀ move ∈ moves, move.Offline) :
    (now.after worker moves).Sheltered worker storage := by
  induction moves generalizing now with
  | nil => exact sheltered
  | cons move rest ih =>
    exact ih (sheltered.next (offline move (List.mem_cons_self ..)))
      fun later listed => offline later (List.mem_cons_of_mem _ listed)

/-- A worker that is installed and activated, with the current store as it was. -/
structure Serving (worker : Worker) (storage : Storage) (now : Interleaving) : Prop
    extends Sheltered worker storage now where
  ended : ∃ report, now.system.task? 0 = some (.installation (.ended report))

theorem Sheltered.serving_proceed (sheltered : now.Sheltered worker storage)
    (returned : ∀ position, now.system.call? 0 position = none) :
    (now.next worker (.whole (.proceed 0))).Serving worker storage where
  toSheltered := sheltered.next trivial
  ended := sheltered.ready.ended_proceed returned

namespace Serving

theorem next (serving : now.Serving worker storage) (offline : move.Offline) :
    (now.next worker move).Serving worker storage where
  toSheltered := serving.toSheltered.next offline
  ended := by
    obtain ⟨report, ended⟩ := serving.ended
    cases move with
    | whole operation => exact ⟨report, serving.ready.ended_perform offline ended⟩
    | _ => exact offline.elim

theorem after (serving : now.Serving worker storage) {moves : List Move}
    (offline : ∀ move ∈ moves, move.Offline) :
    (now.after worker moves).Serving worker storage := by
  induction moves generalizing now with
  | nil => exact serving
  | cons move rest ih =>
    exact ih (serving.next (offline move (List.mem_cons_self ..)))
      fun later listed => offline later (List.mem_cons_of_mem _ listed)

theorem phase (serving : now.Serving worker storage) : now.state.phase = .activated := by
  obtain ⟨report, ended⟩ := serving.ended
  exact serving.ready.phase ended

theorem onlyCurrent (serving : now.Serving worker storage) : OnlyCurrent worker now.storage :=
  serving.rolling.settled serving.phase

theorem replied (serving : now.Serving worker storage) {request : FetchRequest} {entry : Entry}
    (cacheable : request.isCacheable)
    (held : storage.held? worker.version request.key = some entry) :
    Event.replied request (.ok ⟨.cache, entry.response⟩) ∈
      now.system.events worker (.fetch request) := by
  have heldNow := (serving.held request.key).trans held
  exact replied_of_held serving.phase serving.onlyCurrent cacheable heldNow

/-- What is not stored is asked for. -/
theorem task?_missing (serving : now.Serving worker storage) {request : FetchRequest}
    (cacheable : request.isCacheable)
    (absent : storage.held? worker.version request.key = none) :
    (now.system.perform worker (.fetch request)).task? now.system.next =
      some (.exchange (.missing request)) := by
  have missing : now.storage.matchRequest request.key = none := by
    rw [serving.onlyCurrent.matchRequest, serving.held, absent, Option.map_none]
  rw [System.task?_fetch]
  rcases Exchange.start_of_cacheable worker serving.phase cacheable with ⟨_, misses⟩ |
    ⟨_, found, _⟩
  · rw [misses]
    rfl
  · rw [missing] at found
    cases found

/-- When the fetch for a navigation fails, the stored fallback page stands in for it. -/
theorem replied_fallback (serving : now.Serving worker storage) {request : FetchRequest}
    {number : Nat} (present : now.system.task? number = some (.exchange (.missing request)))
    (document : request.destination = .document) {url : Url}
    (fallback : worker.urlFor worker.config.offlineFallback = .ok url) {page : Entry}
    (held : storage.held? worker.version (.get url) = some page) (cause : Failure)
    (time : Timestamp) :
    Event.replied request (.ok ⟨.fallback, page.response⟩) ∈
      now.system.events worker (.answer number 0 (.error cause) time) := by
  have stands : worker.fallbackPage? now.state = some page.response := by
    simp only [fallbackPage?, fallback]
    rw [serving.onlyCurrent.matchRequest, serving.held, held, Option.map_some]
  have underWay : now.system.call? number 0 = some request := by
    simp [System.call?, present, Task.calls, Exchange.call?]
  obtain ⟨task, there, _, after⟩ := System.task?_answer worker underWay (.error cause) time
  obtain rfl := Option.some.inj (present.symm.trans there)
  have ended : (Task.receive worker 0 (.error cause) time now.state
      (.exchange (.missing request))).next = .exchange (.ended (.ok ⟨.fallback, page.response⟩)) := by
    simp only [Task.receive, Exchange.receive, document, stands, if_true, Turn.map]
  refine List.mem_append_left _ ?_
  simp only [underWay, System.replies, after, ended]
  exact List.mem_cons_of_mem _ (List.mem_singleton_self _)

end Serving

end Interleaving

end OfflineSite.Worker
