import OfflineSite.Proofs.Worker.Interleaving

namespace OfflineSite.Worker

open Cache (Key Storage)
open Cache.Storage (Changes)

variable {worker : Worker} {deletes : String → Prop} {puts : Key → FetchResponse → Prop}

/-- A storage that has no store but the current one. -/
def OnlyCurrent (worker : Worker) (storage : Storage) : Prop :=
  ∀ name, storage.contains name → name = worker.version

theorem OnlyCurrent.of_changes {before after : Storage} (only : OnlyCurrent worker before)
    (changes : Changes worker.version deletes puts before after) : OnlyCurrent worker after :=
  fun name present => (changes.eq_or_contains present).elim id (only name)

theorem OnlyCurrent.held {storage : Storage} (only : OnlyCurrent worker storage) {name : String}
    {key : Key} {entry : Cache.Entry} (held : storage.held? name key = some entry) :
    name = worker.version := by
  obtain ⟨handle, found, _⟩ := Option.bind_eq_some_iff.mp held
  exact only name (by rw [Storage.contains_eq_isSome, found]; rfl)

theorem onlyCurrent_activate (worker : Worker) (state : State) :
    OnlyCurrent worker (worker.activate state).state.storage := by
  intro name present
  rw [Storage.contains_eq_isSome, find?_activate] at present
  split at present
  · assumption
  · simp at present

/-- A worker that has only the current store if it is activated. -/
def Settled (worker : Worker) (state : State) : Prop :=
  state.phase = .activated → OnlyCurrent worker state.storage

theorem Settled.of_changes {before after : State} (settled : Settled worker before)
    (phase : after.phase = before.phase)
    (changes : Changes worker.version deletes puts before.storage after.storage) :
    Settled worker after :=
  fun activated => (settled (phase ▸ activated)).of_changes changes

theorem settled_of_ne {state : State} (other : state.phase ≠ .activated) : Settled worker state :=
  fun activated => absurd activated other

namespace Activation

/-- What the place where an activation stands tells of the storage. -/
def Knows (worker : Worker) (storage : Storage) : Activation → Prop
  | deleting names _ => ∀ name, storage.contains name → name = worker.version ∨ name ∈ names
  | starting | listing => True
  | claiming _ | ending _ | ended _ => OnlyCurrent worker storage

theorem Knows.of_changes {before after : Storage} {activation : Activation}
    (knows : activation.Knows worker before)
    (changes : Changes worker.version deletes puts before after) :
    activation.Knows worker after := by
  cases activation with
  | starting => trivial
  | listing => trivial
  | deleting names deleted =>
    exact fun name present => (changes.eq_or_contains present).elim Or.inl (knows name)
  | _ => exact OnlyCurrent.of_changes knows changes

theorem Knows.step {state : State} {activation : Activation}
    (knows : activation.Knows worker state.storage) :
    (activation.step worker state).next.Knows worker
      (activation.step worker state).state.storage := by
  cases activation with
  | starting => trivial
  | listing =>
    intro name present
    by_cases current : name = worker.version
    · exact Or.inl current
    · right
      rw [Storage.contains_eq_isSome] at present
      exact List.mem_filter.mpr ⟨Storage.mem_keys.mpr present, by simpa using current⟩
  | deleting names deleted =>
    cases names with
    | nil => exact fun name present => (knows name present).elim id fun listed => by cases listed
    | cons first rest =>
      by_cases there : state.storage.contains first
      · simp only [Activation.step, there, if_true]
        intro name present
        rw [Storage.contains_eq_isSome, Storage.find?_delete] at present
        split at present
        · cases present
        · next different =>
          rw [← Storage.contains_eq_isSome] at present
          refine (knows name present).imp_right fun listed => ?_
          exact (List.mem_cons.mp listed).resolve_left fun same => different same.symm
      · simp only [Activation.step, there, Bool.false_eq_true, if_false]
        intro name present
        refine (knows name present).imp_right fun listed => ?_
        refine (List.mem_cons.mp listed).resolve_left ?_
        rintro rfl
        exact there present
  | _ => exact knows

theorem settled_step {state : State} {activation : Activation} (settled : Settled worker state)
    (knows : activation.Knows worker state.storage) :
    Settled worker (activation.step worker state).state := by
  cases activation with
  | starting => exact settled_of_ne (by simp [step])
  | deleting names deleted =>
    have changes : Changes worker.version (fun _ => True) (fun _ _ => False) state.storage
        ((deleting names deleted).step worker state).state.storage :=
      step_changes state fun _ _ => trivial
    refine settled.of_changes ?_ changes
    cases names with
    | nil => rfl
    | cons first rest =>
      simp only [step]
      split <;> rfl
  | ending deleted => exact fun _ => knows
  | _ => exact settled

end Activation

namespace Installation

theorem settled_step {state : State} {stage : Installation} (settled : Settled worker state)
    (knows : ∀ activation, stage.activation? = some activation →
      activation.Knows worker state.storage) :
    Settled worker (stage.step worker state).state := by
  cases stage with
  | starting => exact settled_of_ne (by simp [step])
  | opening =>
    have changes : Changes worker.version (fun _ => True) (fun _ _ => False) state.storage _ :=
      openCurrent_changes worker state
    exact settled.of_changes rfl changes
  | warming store slots =>
    simp only [step]
    split
    · exact settled
    · exact settled_of_ne (by simp)
  | looking report =>
    simp only [step]
    split <;> exact settled
  | activating report activation =>
    cases activation with
    | ended deleted => exact settled
    | _ => exact Activation.settled_step settled (knows _ rfl)
  | _ => exact settled

theorem settled_run {state : State} {stage : Installation} (settled : Settled worker state)
    (knows : ∀ activation, stage.activation? = some activation →
      activation.Knows worker state.storage) :
    Settled worker (stage.run worker state).state := by
  refine (run_induction worker (motive := fun state stage => Settled worker state ∧
    ∀ activation, stage.activation? = some activation → activation.Knows worker state.storage)
    ?_ ⟨settled, knows⟩).1
  intro state stage ⟨settled, knows⟩
  refine ⟨settled_step settled knows, fun activation there => ?_⟩
  rcases activation?_step there with rfl | ⟨before, under, rfl, same⟩
  · trivial
  · rw [same]
    exact (knows before under).step

end Installation

theorem Exchange.phase_start (worker : Worker) (request : FetchRequest) (state : State) :
    (start worker request state).state.phase = state.phase := by
  obtain ⟨storage, same⟩ := exists_storage_start worker request state
  rw [same]

theorem Task.phase_receive {position : Nat} {answer : Except Failure FetchResponse}
    {now : Timestamp} {state : State} {task : Task} :
    (task.receive worker position answer now state).state.phase = state.phase := by
  obtain ⟨storage, same⟩ := task.exists_storage_receive worker position answer now state
  rw [same]

theorem settled_handle {state : State} (settled : Settled worker state)
    (message : ControlMessage) : Settled worker (worker.handle message state).state := by
  cases message with
  | skipWaiting =>
    simp only [handle, Handling.ofMessage, Handling.run, Handling.look]
    split
    · exact fun _ => onlyCurrent_activate worker { state with skipsWaiting := true }
    · exact settled
  | clearCache =>
    have changes : Changes worker.version (fun _ => True) (fun _ _ => False) state.storage
        (state.storage.delete worker.version) := .delete state.storage trivial
    exact settled.of_changes rfl changes

theorem System.settled_perform {system : System} {operation : Operation}
    (settled : Settled worker system.state)
    (knows : ∀ number task activation, system.task? number = some task →
      task.activation? = some activation → activation.Knows worker system.state.storage) :
    Settled worker (system.perform worker operation).state := by
  have changes : Changes worker.version (fun _ => True) (fun _ _ => True) system.state.storage
      (system.perform worker operation).state.storage :=
    perform_changes (fun _ _ => trivial) (fun _ => trivial) (fun _ _ _ _ _ _ _ => trivial)
      (fun _ _ _ _ _ _ _ _ _ _ _ => trivial)
  cases operation with
  | install => exact Installation.settled_run settled fun _ under => by cases under
  | activate => exact fun _ => onlyCurrent_activate worker system.state
  | fetch request =>
    refine settled.of_changes ?_ changes
    rw [state_fetch, Exchange.phase_start]
  | message message => exact settled_handle settled message
  | rawMessage raw =>
    simp only [perform, act, handleRaw]
    split
    · exact settled_handle settled _
    · exact settled
  | settle => exact settled
  | retire => exact settled_of_ne (by simp [perform, act, retire])
  | answer number position answer now =>
    refine settled.of_changes ?_ changes
    simp only [perform]
    split
    · next request underWay =>
      obtain ⟨task, present, _⟩ := Option.bind_eq_some_iff.mp underWay
      rw [receive, state_advance present]
      exact Task.phase_receive
    · rfl
  | proceed number =>
    cases present : system.task? number with
    | none =>
      simp only [perform, System.proceed, advance, present]
      exact settled
    | some task =>
      rw [perform, System.proceed, state_advance present]
      cases task with
      | installation stage =>
        exact Installation.settled_run settled fun activation under =>
          knows number _ activation present under
      | _ => exact settled

theorem Thread.settled_step {state : State} {thread : Thread} (settled : Settled worker state)
    (knows : ∀ activation, thread.activation? = some activation →
      activation.Knows worker state.storage) :
    Settled worker (thread.step worker state).state := by
  cases thread with
  | activation stage => exact Activation.settled_step settled (knows stage rfl)
  | handling stage =>
    cases stage with
    | activating stage =>
      cases stage with
      | ended deleted => exact settled
      | _ => exact Activation.settled_step settled (knows _ rfl)
    | clearing =>
      have changes : Changes worker.version (fun _ => True) (fun _ _ => False) state.storage
          (state.storage.delete worker.version) := .delete state.storage trivial
      exact settled.of_changes rfl changes
    | _ => exact settled

namespace Interleaving

variable {now : Interleaving}

/-- Some activation has come to its end: it just did, or it is still there to tell. -/
def HasActivated (now : Interleaving) : Prop :=
  now.state.phase = .activated ∨ ∃ place deleted, now.activation? place = some (.ended deleted)

structure Rolling (worker : Worker) (now : Interleaving) : Prop where
  spares : now.Spares worker
  settled : Settled worker now.state
  knows {place : Place} {activation : Activation}
    (there : now.activation? place = some activation) : activation.Knows worker now.storage
  /-- Only an activated worker looks for a response in its stores. -/
  missing {number : Nat} {request : FetchRequest}
    (there : now.system.task? number = some (.exchange (.missing request))) :
    OnlyCurrent worker now.storage

theorem Rolling.settled_next (rolling : now.Rolling worker) (move : Move) :
    Settled worker (now.next worker move).state := by
  cases move with
  | whole operation =>
    exact System.settled_perform rolling.settled fun number task activation present under =>
      rolling.knows (activation?_task present under)
  | step place =>
    cases place with
    | task number =>
      cases present : now.system.task? number with
      | none =>
        simp only [next, goOn, System.advance, present]
        exact rolling.settled
      | some task =>
        rw [next_task present]
        cases task with
        | installation stage =>
          exact Installation.settled_step rolling.settled fun activation under =>
            rolling.knows (activation?_task present under)
        | _ => exact rolling.settled
    | thread number =>
      cases present : now.threads[number]? with
      | none =>
        simp only [next, present]
        exact rolling.settled
      | some thread =>
        rw [next_thread present]
        exact Thread.settled_step rolling.settled fun activation under =>
          rolling.knows (activation?_thread present under)
  | _ => exact rolling.settled

theorem missing_of_next {move : Move} {number : Nat} {request : FetchRequest}
    (there : (now.next worker move).system.task? number = some (.exchange (.missing request))) :
    now.system.task? number = some (.exchange (.missing request)) ∨
      now.state.phase = .activated := by
  cases move with
  | whole operation =>
    generalize same : Task.exchange (.missing request) = task at there
    cases System.becomes_of_task? there with
    | kept old => exact Or.inl old
    | @answered _ _ answer time task _ old _ =>
      cases task with
      | exchange stage =>
        have none := Exchange.call?_receive worker answer time now.system.state stage
        rw [← Task.exchange.inj same] at none
        cases none
      | _ => cases same
    | @proceeded _ task old =>
      cases task with
      | exchange stage => exact Or.inl old
      | _ => cases same
    | exchange request =>
      rcases Exchange.start_cases worker request now.system.state with ⟨_, passes⟩ |
        ⟨activated, _⟩
      · rw [passes] at same
        cases same
      · exact Or.inr activated
    | _ => cases same
  | install =>
    rcases System.task?_add there with old | ⟨_, same⟩
    · exact Or.inl old
    · cases same
  | step place =>
    cases place with
    | task other =>
      rcases System.task?_advance there with old | ⟨rfl, task, old, same⟩
      · exact Or.inl old
      · cases task with
        | exchange stage => exact Or.inl (same ▸ old)
        | _ => cases same
    | thread other =>
      cases present : now.threads[other]? with
      | none =>
        simp only [next, present] at there
        exact Or.inl there
      | some thread =>
        simp only [next, present] at there
        exact Or.inl there
  | _ => exact Or.inl there

theorem Rolling.next (rolling : now.Rolling worker) (move : Move) :
    (now.next worker move).Rolling worker where
  spares := rolling.spares.next move
  settled := rolling.settled_next move
  knows there := by
    rcases activation?_next there with old | rfl | ⟨_, before, under, rfl, same⟩
    · exact (rolling.knows old).of_changes (rolling.spares.changes move)
    · trivial
    · unfold storage
      rw [same]
      exact (rolling.knows under).step
  missing there := by
    have changes := rolling.spares.changes move
    rcases missing_of_next there with old | activated
    · exact (rolling.missing old).of_changes changes
    · exact (rolling.settled activated).of_changes changes

theorem Rolling.after (rolling : now.Rolling worker) (moves : List Move) :
    (now.after worker moves).Rolling worker :=
  after_induction (motive := fun now => now.Rolling worker)
    (fun _ move rolling => rolling.next move) rolling moves

theorem rolling_of (worker : Worker) (storage : Storage) (moves : List Move) :
    (of worker storage moves).Rolling worker := by
  refine Rolling.after ?_ moves
  refine ⟨spares_of worker storage [], settled_of_ne ?_, fun there => ?_, fun there => ?_⟩
  · intro activated
    cases activated
  · next place _ => cases place <;> cases there
  · cases there

theorem Rolling.onlyCurrent (rolling : now.Rolling worker) (activated : now.HasActivated) :
    OnlyCurrent worker now.storage := by
  rcases activated with phase | ⟨place, deleted, there⟩
  · exact rolling.settled phase
  · exact rolling.knows there

theorem onlyCurrent_after {now : Interleaving} (spares : now.Spares worker)
    (only : OnlyCurrent worker now.storage) (moves : List Move) :
    OnlyCurrent worker (now.after worker moves).storage :=
  (after_induction (motive := fun now => now.Spares worker ∧ OnlyCurrent worker now.storage)
    (fun _ move ⟨spares, only⟩ => ⟨spares.next move, only.of_changes (spares.changes move)⟩)
    ⟨spares, only⟩ moves).2

/-- What is found where only the current store is there was in the store of that name at the start,
or was fetched since. -/
theorem held_of_matchRequest {storage : Storage} (sound : Sound storage now.run)
    (only : OnlyCurrent worker now.storage) {key : Key} {response : FetchResponse}
    (found : now.storage.matchRequest key = some response) :
    (∃ entry, storage.held? worker.version key = some entry ∧ entry.response = response) ∨
      Fetched now.run.history key response := by
  obtain ⟨name, entry, held, rfl⟩ := Storage.exists_held_of_matchRequest found
  obtain rfl := only.held held
  rcases sound.evolves.held_or_allowed held with old | fetched
  · exact Or.inl ⟨entry, old, rfl⟩
  · exact Or.inr fetched

theorem missing_of_fallback {stage : Exchange} {answer : Except Failure FetchResponse}
    {time : Timestamp} {state : State} {reply : Reply} {request : FetchRequest}
    (underWay : stage.call? = some request)
    (ended : (stage.receive worker answer time state).next = .ended (.ok reply))
    (fallback : reply.source = .fallback) : stage = .missing request := by
  rcases Exchange.reply_cases underWay ended with ⟨network, _⟩ | ⟨_, missing, _⟩
  · rw [network] at fallback
    cases fallback
  · exact missing

end Interleaving

/-- Once an activation has ended, no store but the current one is ever there again, whatever
follows. And throughout every run whatever is served from the storage, as the stored response or as
the fallback page, was in the store of the current name at the start, or was fetched since. -/
theorem rollover_permanent (worker : Worker) (storage : Storage) :
    (∀ past later, (Interleaving.of worker storage past).HasActivated →
      OnlyCurrent worker (Interleaving.of worker storage (past ++ later)).storage) ∧
    ∀ moves operation request reply,
      let now := Interleaving.of worker storage moves
      Event.replied request (.ok reply) ∈ now.system.events worker operation →
      (reply.source = .cache →
        (∃ entry, storage.held? worker.version request.key = some entry ∧
            entry.response = reply.response) ∨
          Fetched now.run.history request.key reply.response) ∧
      (reply.source = .fallback → ∃ url,
        worker.urlFor worker.config.offlineFallback = .ok url ∧
          ((∃ entry, storage.held? worker.version (.get url) = some entry ∧
              entry.response = reply.response) ∨
            Fetched now.run.history (.get url) reply.response)) := by
  constructor
  · intro past later activated
    have rolling := Interleaving.rolling_of worker storage past
    rw [Interleaving.of, Interleaving.after_append]
    exact Interleaving.onlyCurrent_after rolling.spares (rolling.onlyCurrent activated) later
  · intro moves operation request reply now replied
    have rolling := Interleaving.rolling_of worker storage moves
    have sound := Interleaving.sound_of worker storage moves
    rcases System.replied_cases replied with ⟨_, ended⟩ |
      ⟨number, position, answer, time, stage, _, present, underWay, ended⟩
    · rcases Exchange.start_cases worker request now.system.state with ⟨_, passes⟩ |
        ⟨activated, _, ⟨_, misses⟩ | ⟨response, found, hits⟩⟩
      · rw [passes] at ended
        cases ended
      · rw [misses] at ended
        cases ended
      · rw [hits] at ended
        cases ended
        have only := rolling.settled activated
        exact ⟨fun _ => Interleaving.held_of_matchRequest sound only found, fun fallback => by
          cases fallback⟩
    · rcases reply_of_receive underWay ended with network | ⟨fallback, page⟩
      · exact ⟨fun cache => by simp [network] at cache,
          fun fallback => by simp [network] at fallback⟩
      · refine ⟨fun cache => by simp [fallback] at cache, fun _ => ?_⟩
        obtain rfl := Interleaving.missing_of_fallback underWay ended fallback
        have only := rolling.missing present
        unfold fallbackPage? at page
        split at page
        · next url joined =>
          exact ⟨url, joined, Interleaving.held_of_matchRequest sound only page⟩
        · cases page

namespace Outdated

def root : Url := ⟨"http", some ⟨"", "", .name "site", none⟩, .pieces [""], none, none⟩

def newer : Worker := ⟨{ version := "v1", precache := [] }, root⟩

def stored : Storage :=
  (Storage.empty.create "v0").2.put 0 (FetchRequest.get root).key ⟨200, [], .empty⟩ default

theorem hasActivated : (Interleaving.of newer stored [.whole .activate]).HasActivated := by
  refine Or.inl ?_
  simp only [Interleaving.of, Interleaving.after, List.foldl, Interleaving.next, Run.next,
    System.perform, System.act, Interleaving.state, activate_eq]

end Outdated

open Outdated in
/-- A worker that finds the store of an older version. -/
theorem only_newer_left :
    OnlyCurrent newer (Interleaving.of newer stored
      ([.whole .activate] ++ [.whole (.fetch (.get root)), .whole .install])).storage :=
  (rollover_permanent newer stored).1 _ _ hasActivated

end OfflineSite.Worker
