import Mathlib.Logic.Function.Basic
import OfflineSite.Proofs.Worker.Run

namespace OfflineSite.Worker

open Cache (Key Handle Storage)
open Cache.Storage (Evolves SameView)

namespace Task

/-- The store that a task took hold of and puts what it is answered into. -/
def store? : Task → Option Handle
  | installation (.warming store _) => some store
  | refresh pending => some pending.store
  | _ => none

/-- A task that puts what it is answered into this store and no other, if it awaits anything. -/
def KeepsTo (handle : Handle) : Task → Prop
  | installation (.warming store _) => store = handle
  | installation stage => stage.rank < 3
  | exchange stage => stage.call? = none
  | refresh pending => pending.store = handle
  | refreshed => True

variable {worker : Worker} {handle : Handle}

theorem keepsTo_of_store? {task : Task} (holds : task.store? = some handle) :
    task.KeepsTo handle := by
  cases task with
  | installation stage =>
    cases stage with
    | warming store slots => exact Option.some.inj holds
    | _ => cases holds
  | refresh pending => exact Option.some.inj holds
  | _ => cases holds

theorem KeepsTo.receive {position : Nat} {answer : Except Failure FetchResponse}
    {now : Timestamp} {state : State} {task : Task} (keeps : task.KeepsTo handle) :
    (task.receive worker position answer now state).next.KeepsTo handle := by
  cases task with
  | installation stage =>
    rcases Installation.receive_cases position answer now state stage with ⟨_, idle⟩ |
      ⟨store, slots, slot, request, storage, rfl, _, _, settled, _⟩
    · rw [Task.receive, idle]
      exact keeps
    · rw [Task.receive, settled]
      exact keeps
  | exchange stage => exact Exchange.call?_receive worker answer now state stage
  | _ => trivial

theorem KeepsTo.proceed {state : State} {task : Task} (keeps : task.KeepsTo handle) :
    (task.proceed worker state).next.KeepsTo handle := by
  cases task with
  | installation stage =>
    refine Installation.run_induction worker
      (motive := fun _ stage => (installation stage).KeepsTo handle) ?_ keeps
    intro state stage keeps
    cases stage with
    | warming store slots =>
      simp only [Installation.step]
      split
      · exact keeps
      · exact (by decide : 2 < 3)
    | looking report =>
      simp only [Installation.step]
      split
      · exact (by decide : 1 < 3)
      · exact (by decide : 0 < 3)
    | activating report activation =>
      cases activation with
      | ended deleted => exact (by decide : 0 < 3)
      | _ => exact keeps
    | ended report => exact keeps
    | _ => simp [KeepsTo, Installation.rank] at keeps
  | _ => exact keeps

/-- What a task is answered is not seen where the store that it keeps to was deleted. -/
theorem KeepsTo.sameView_receive {position : Nat} {answer : Except Failure FetchResponse}
    {now : Timestamp} {state : State} {task : Task} (keeps : task.KeepsTo handle)
    (gone : state.storage.Detached handle) :
    SameView (task.receive worker position answer now state).state.storage state.storage := by
  cases task with
  | installation stage =>
    rcases Installation.receive_cases position answer now state stage with ⟨_, idle⟩ |
      ⟨store, slots, slot, request, storage, rfl, _, _, settled, stored⟩
    · rw [Task.receive, idle]
      exact .refl _
    · rw [Task.receive, settled]
      obtain rfl : store = handle := keeps
      rcases stored with ⟨_, rfl⟩ | ⟨response, _, _, rfl⟩
      · exact .refl _
      · exact gone.sameView_put request.key response now
  | exchange stage =>
    cases stage with
    | ended result => exact .refl _
    | _ => cases keeps
  | refresh pending =>
    obtain rfl : pending.store = handle := keeps
    cases answer with
    | ok response =>
      simp only [Task.receive, Refresh.receive]
      split
      · exact gone.sameView_put pending.request.key response now
      · exact .refl _
    | error cause => exact .refl _
  | refreshed => exact .refl _

/-- A task that has a store to put answers into, if it has one, that there really is. -/
def HasStoreIn (storage : Storage) (task : Task) : Prop :=
  ∀ handle, task.store? = some handle → handle < storage.stores.size

theorem hasStoreIn_of_none {storage : Storage} {task : Task} (none : task.store? = none) :
    task.HasStoreIn storage := by
  intro handle holds
  rw [none] at holds
  cases holds

theorem HasStoreIn.mono {allowed : Key → FetchResponse → Prop} {before after : Storage}
    {task : Task} (evolves : Evolves allowed before after) (has : task.HasStoreIn before) :
    task.HasStoreIn after :=
  fun handle holds => Nat.lt_of_lt_of_le (has handle holds) evolves.size_le

theorem HasStoreIn.receive {position : Nat} {answer : Except Failure FetchResponse}
    {now : Timestamp} {state : State} {storage : Storage} {task : Task}
    (has : task.HasStoreIn storage) :
    (task.receive worker position answer now state).next.HasStoreIn storage := by
  cases task with
  | installation stage =>
    rcases Installation.receive_cases position answer now state stage with ⟨_, idle⟩ |
      ⟨store, slots, slot, request, storage, rfl, _, _, settled, _⟩
    · rw [Task.receive, idle]
      exact has
    · rw [Task.receive, settled]
      exact has
  | _ => exact hasStoreIn_of_none rfl

theorem openCurrent_lt_size (worker : Worker) (state : State) :
    (worker.openCurrent state).1 < (worker.openCurrent state).2.storage.stores.size :=
  Storage.lt_size_of_find? (Storage.find?_openStore state.storage worker.version)

theorem hasStoreIn_run {state : State} {stage : Installation}
    (has : (installation stage).HasStoreIn state.storage) :
    (installation (stage.run worker state).next).HasStoreIn
      (stage.run worker state).state.storage := by
  refine Installation.run_induction worker
    (motive := fun state stage => (installation stage).HasStoreIn state.storage) ?_ has
  intro state stage has
  cases stage with
  | opening =>
    intro handle holds
    obtain rfl := Option.some.inj holds
    exact openCurrent_lt_size worker state
  | warming store slots =>
    simp only [Installation.step]
    split
    · exact has
    · exact hasStoreIn_of_none rfl
  | looking report =>
    simp only [Installation.step]
    split <;> exact hasStoreIn_of_none rfl
  | activating report activation => cases activation <;> exact hasStoreIn_of_none rfl
  | _ => exact hasStoreIn_of_none rfl

theorem hasStoreIn_refresh {request : FetchRequest} {state : State} {pending : Refresh}
    (begun : (Exchange.start worker request state).next.2 = some pending) :
    (refresh pending).HasStoreIn (Exchange.start worker request state).state.storage := by
  rcases Exchange.start_cases worker request state with ⟨_, passes⟩ |
    ⟨_, _, ⟨_, misses⟩ | ⟨_, _, hits⟩⟩
  · rw [passes] at begun
    cases begun
  · rw [misses] at begun
    cases begun
  · rw [hits] at begun ⊢
    obtain rfl := Option.some.inj begun
    intro handle holds
    obtain rfl := Option.some.inj holds
    exact openCurrent_lt_size worker state

end Task

namespace System

theorem hasStoreIn_perform {worker : Worker} {system : System} {operation : Operation}
    (has : ∀ number task, system.task? number = some task →
      task.HasStoreIn system.state.storage) {number : Nat} {task : Task}
    (present : (system.perform worker operation).task? number = some task) :
    task.HasStoreIn (system.perform worker operation).state.storage := by
  have evolves : Evolves (fun _ _ => True) system.state.storage
      (system.perform worker operation).state.storage :=
    perform_evolves worker system operation fun _ _ _ _ _ _ _ _ _ _ _ => trivial
  cases becomes_of_task? present with
  | kept old => exact (has number task old).mono evolves
  | answered old _ => exact (has number _ old).receive.mono evolves
  | @proceeded _ task old =>
    cases task with
    | installation stage =>
      simp only [perform, System.proceed, state_advance old]
      exact Task.hasStoreIn_run (has number _ old)
    | _ => exact (has number _ old).mono evolves
  | installation => exact Task.hasStoreIn_run (Task.hasStoreIn_of_none rfl)
  | exchange request => exact Task.hasStoreIn_of_none rfl
  | @refresh request pending begun =>
    simp only [perform, fetch, begun]
    exact Task.hasStoreIn_refresh begun

end System

/-- Workers over one storage. What the state of a single worker says of the storage is not looked
at. -/
structure Fleet (ι : Type) where
  storage : Storage
  system : ι → System

namespace Fleet

variable {ι : Type} [DecidableEq ι]

def initial (storage : Storage) : Fleet ι := ⟨storage, fun _ => .initial storage⟩

/-- One of the workers, over the storage as it is now. -/
def member (fleet : Fleet ι) (who : ι) : System :=
  { fleet.system who with state := { (fleet.system who).state with storage := fleet.storage } }

def perform (workers : ι → Worker) (fleet : Fleet ι) (who : ι) (operation : Operation) :
    Fleet ι :=
  let after := (fleet.member who).perform (workers who) operation
  ⟨after.state.storage, Function.update fleet.system who after⟩

/-- The workers after operations, each of one of them. -/
def after (workers : ι → Worker) (fleet : Fleet ι) (operations : List (ι × Operation)) :
    Fleet ι :=
  operations.foldl (fun fleet (who, operation) => fleet.perform workers who operation) fleet

theorem after_append (workers : ι → Worker) (fleet : Fleet ι)
    (past later : List (ι × Operation)) :
    fleet.after workers (past ++ later) = (fleet.after workers past).after workers later :=
  List.foldl_append

theorem after_induction {workers : ι → Worker} {motive : Fleet ι → Prop}
    (step : ∀ fleet who operation, motive fleet → motive (fleet.perform workers who operation))
    {fleet : Fleet ι} (start : motive fleet) (operations : List (ι × Operation)) :
    motive (fleet.after workers operations) := by
  induction operations generalizing fleet with
  | nil => exact start
  | cons operation rest ih => exact ih (step fleet operation.1 operation.2 start)

/-- A task of a worker is a task of that worker before another one acts, or comes of what the
worker itself does. -/
theorem task?_perform {workers : ι → Worker} {fleet : Fleet ι} {who other : ι}
    {operation : Operation} {number : Nat} {task : Task}
    (present : ((fleet.perform workers who operation).system other).task? number = some task) :
    (fleet.member other).task? number = some task ∨
      other = who ∧
        ((fleet.member who).perform (workers who) operation).task? number = some task := by
  by_cases same : other = who
  · subst same
    simp only [perform, Function.update_self] at present
    exact Or.inr ⟨rfl, present⟩
  · simp only [perform, Function.update_of_ne same] at present
    exact Or.inl present

theorem evolves_perform (workers : ι → Worker) (fleet : Fleet ι) (who : ι)
    (operation : Operation) :
    Evolves (fun _ _ => True) fleet.storage (fleet.perform workers who operation).storage :=
  System.perform_evolves (workers who) (fleet.member who) operation
    (fun _ _ _ _ _ _ _ _ _ _ _ => trivial)

theorem hasStoreIn (workers : ι → Worker) (storage : Storage) (operations : List (ι × Operation))
    {who : ι} {number : Nat} {task : Task}
    (present : (((initial storage).after workers operations).system who).task? number =
      some task) :
    task.HasStoreIn ((initial storage).after workers operations).storage := by
  refine after_induction (motive := fun fleet => ∀ who number task,
      (fleet.system who).task? number = some task → task.HasStoreIn fleet.storage) ?_ ?_
    operations who number task present
  · intro fleet who operation has other number task present
    rcases task?_perform present with old | ⟨rfl, own⟩
    · exact (has other number task old).mono (evolves_perform workers fleet who operation)
    · exact System.hasStoreIn_perform (has other) own
  · intro who number task present
    simp [initial, System.initial, System.task?] at present

/-- A task that keeps to a store that there is. -/
structure Keeps (fleet : Fleet ι) (who : ι) (number : Nat) (handle : Handle) : Prop where
  present : handle < fleet.storage.stores.size
  begun : number < (fleet.system who).next
  keepsTo {task : Task} (found : (fleet.system who).task? number = some task) :
    task.KeepsTo handle

theorem Keeps.perform {workers : ι → Worker} {fleet : Fleet ι} {who : ι} {number : Nat}
    {handle : Handle} (keeps : fleet.Keeps who number handle) (other : ι)
    (operation : Operation) :
    (fleet.perform workers other operation).Keeps who number handle where
  present :=
    Nat.lt_of_lt_of_le keeps.present (evolves_perform workers fleet other operation).size_le
  begun := by
    by_cases same : who = other
    · subst same
      simp only [Fleet.perform, Function.update_self]
      exact Nat.lt_of_lt_of_le keeps.begun
        (System.next_le_perform (workers who) (fleet.member who) operation)
    · simpa only [Fleet.perform, Function.update_of_ne same] using keeps.begun
  keepsTo found := by
    rcases task?_perform found with old | ⟨rfl, own⟩
    · exact keeps.keepsTo old
    · exact System.kept_perform (fleet.member who) (fun keeps => keeps.receive)
        (fun keeps => keeps.proceed) keeps.begun (fun _ old => keeps.keepsTo old) own

theorem Keeps.after (workers : ι → Worker) {fleet : Fleet ι} {who : ι} {number : Nat}
    {handle : Handle} (keeps : fleet.Keeps who number handle)
    (operations : List (ι × Operation)) :
    (fleet.after workers operations).Keeps who number handle :=
  after_induction (motive := fun fleet => fleet.Keeps who number handle)
    (fun _ other operation keeps => keeps.perform other operation) keeps operations

theorem Keeps.sameView_answer {workers : ι → Worker} {fleet : Fleet ι} {who : ι}
    {number : Nat} {handle : Handle} (keeps : fleet.Keeps who number handle)
    (deleted : ∀ name, fleet.storage.find? name ≠ some handle) (position : Nat)
    (answer : Except Failure FetchResponse) (now : Timestamp) :
    SameView (fleet.perform workers who (.answer number position answer now)).storage
      fleet.storage := by
  simp only [Fleet.perform, System.perform]
  split
  · next request underWay =>
    obtain ⟨task, present, _⟩ := Option.bind_eq_some_iff.mp underWay
    rw [System.receive, System.state_advance present]
    exact (keeps.keepsTo present).sameView_receive ⟨keeps.present, deleted⟩
  · exact .refl _

theorem detached_after (workers : ι → Worker) {fleet : Fleet ι} {handle : Handle}
    (gone : fleet.storage.Detached handle) (operations : List (ι × Operation)) :
    (fleet.after workers operations).storage.Detached handle :=
  after_induction (motive := fun fleet => fleet.storage.Detached handle)
    (fun fleet who operation gone => (evolves_perform workers fleet who operation).detached gone)
    gone operations

/-- Clearing the cache leaves no name that leads to the store that was current. -/
theorem find?_ne_of_clearCache (workers : ι → Worker) {fleet : Fleet ι} (who : ι)
    {handle : Handle} (current : fleet.storage.find? (workers who).version = some handle)
    (name : String) :
    (fleet.perform workers who (.message .clearCache)).storage.find? name ≠ some handle := by
  intro found
  have left : (fleet.storage.delete (workers who).version).find? name = some handle := found
  rw [Storage.find?_delete] at left
  split at left
  · simp at left
  · next different => exact different (Storage.find?_inj current left)

/-- The activation of a worker leaves no name that leads to the store of another version. -/
theorem find?_ne_of_activate (workers : ι → Worker) {fleet : Fleet ι} (who : ι)
    {handle : Handle} {version : String} (present : fleet.storage.find? version = some handle)
    (outdated : version ≠ (workers who).version) (name : String) :
    (fleet.perform workers who .activate).storage.find? name ≠ some handle := by
  intro found
  have left : ((workers who).activate (fleet.member who).state).state.storage.find? name =
      some handle := found
  rw [find?_activate] at left
  split at left
  · next same => exact outdated ((Storage.find?_inj present left).trans same)
  · simp at left

end Fleet

/-- Once the store was deleted that a fetch in the background, or an installation, took hold of,
whatever it is answered and whenever is seen nowhere in the storage, also if a store of the same
name was opened and filled since. -/
theorem deleted_store_answer_unseen {ι : Type} [DecidableEq ι] (workers : ι → Worker)
    (storage : Storage) (past since later : List (ι × Operation)) (who : ι)
    (number position : Nat) (answer : Except Failure FetchResponse) (now : Timestamp)
    {task : Task} {handle : Handle}
    (begun : (((Fleet.initial storage).after workers past).system who).task? number = some task)
    (holds : task.store? = some handle)
    (deleted : ∀ name,
      ((Fleet.initial storage).after workers (past ++ since)).storage.find? name ≠
        some handle) :
    let before := (Fleet.initial storage).after workers (past ++ since ++ later)
    SameView (before.perform workers who (.answer number position answer now)).storage
      before.storage := by
  intro before
  have keeps : ((Fleet.initial storage).after workers past).Keeps who number handle := by
    refine ⟨Fleet.hasStoreIn workers storage past begun handle holds, ?_, ?_⟩
    · exact (List.getElem?_eq_some_iff.mp begun).1
    · intro other found
      obtain rfl := Option.some.inj (begun.symm.trans found)
      exact Task.keepsTo_of_store? holds
  -- The task keeps to its store from `past` on, and no name leads there from `since` on.
  have since_past := Fleet.after_append workers (.initial storage) past since
  have whole : before = (((Fleet.initial storage).after workers past).after workers since).after
      workers later := by
    rw [← since_past]
    exact Fleet.after_append workers (.initial storage) (past ++ since) later
  have keeps := keeps.after workers since
  have gone := Fleet.detached_after workers ⟨keeps.present, since_past ▸ deleted⟩ later
  rw [whole]
  exact (keeps.after workers later).sameView_answer gone.2 position answer now

namespace Refreshed

def page : Url := ⟨"http", some ⟨"", "", .name "site", none⟩, .pieces ["page"], none, none⟩

def worker : Worker := ⟨{ version := "v1", precache := [] }, page⟩

/-- The worker of the site and the one of its next version. -/
def versions (next : Bool) : Worker :=
  if next then ⟨{ version := "v2", precache := [] }, page⟩ else worker

def stored : Storage :=
  (Storage.empty.create "v1").2.put 0 (FetchRequest.get page).key ⟨200, [], .empty⟩ default

section

variable {ι : Type} (who : ι)

def served : List (ι × Operation) := [(who, .activate), (who, .fetch (.get page))]

def refilled : List (ι × Operation) :=
  [(who, .fetch (.get page)), (who, .answer 2 0 (.ok ⟨200, [], "new".toUTF8⟩) default)]

variable {who} [DecidableEq ι] {workers : ι → Worker}

theorem store?_served (serves : workers who = worker) :
    ((((Fleet.initial stored).after workers (served who)).system who).task? 1).bind
      Task.store? = some 0 := by
  simp only [served, Fleet.after, List.foldl, Fleet.perform, Fleet.member, Fleet.initial,
    Function.update_self, serves, System.perform, System.act, activate_eq]
  decide +kernel

theorem find?_served (serves : workers who = worker) :
    ((Fleet.initial stored).after workers (served who)).storage.find? "v1" = some 0 := by
  simp only [served, Fleet.after, List.foldl, Fleet.perform, Fleet.member, Fleet.initial,
    Function.update_self, serves, System.perform, System.act, activate_eq]
  decide +kernel

end

end Refreshed

open Refreshed in
/-- A page that is served from the cache, whose store goes before the fetch in the background is
answered: it is cleared, opened anew and filled, or the worker of another version is activated. -/
theorem answer_unseen_after_deletion :
    (let before := (Fleet.initial stored).after (fun _ => worker)
      (served () ++ [((), .message .clearCache)] ++ refilled ())
    SameView
      (before.perform (fun _ => worker) ()
        (.answer 1 0 (.ok ⟨200, [], "late".toUTF8⟩) default)).storage before.storage) ∧
    let before := (Fleet.initial stored).after versions
      (served false ++ [(true, .activate)] ++ refilled false)
    SameView
      (before.perform versions false
        (.answer 1 0 (.ok ⟨200, [], "late".toUTF8⟩) default)).storage before.storage := by
  constructor
  · obtain ⟨task, begun, holds⟩ := Option.bind_eq_some_iff.mp
      (@store?_served _ () _ (fun _ => worker) rfl)
    refine deleted_store_answer_unseen (fun _ => worker) stored (served ()) _ (refilled ()) () 1 0 _
      default begun holds fun name => ?_
    rw [Fleet.after_append]
    exact Fleet.find?_ne_of_clearCache (fun _ => worker) () (find?_served rfl) name
  · obtain ⟨task, begun, holds⟩ := Option.bind_eq_some_iff.mp
      (@store?_served _ false _ versions rfl)
    refine deleted_store_answer_unseen versions stored (served false) _ (refilled false) false 1 0 _
      default begun holds fun name => ?_
    rw [Fleet.after_append]
    exact Fleet.find?_ne_of_activate versions true (find?_served rfl) (by decide) name

end OfflineSite.Worker
