import Mathlib.Logic.Function.Basic
import OfflineSite.Proofs.Worker.CacheSoundness

namespace OfflineSite.Worker

open Cache (Key Storage)
open Cache.Storage (Changes Evolves)

/-- An operation that is taken step by step and waits for no answer. -/
inductive Thread where
  | activation (stage : Activation)
  | handling (stage : Handling)

namespace Thread

def step (worker : Worker) (state : State) : Thread → Turn Thread
  | activation stage => (stage.step worker state).map activation
  | handling stage => (stage.step worker state).map handling

def activation? : Thread → Option Activation
  | activation stage => some stage
  | handling (.activating stage) => some stage
  | handling _ => none

def isEnded : Thread → Bool
  | activation stage => stage.result?.isSome
  | handling stage => stage = .ended

end Thread

namespace Task

/-- A step of an installation. What else there is has none to take on its own. -/
def step (worker : Worker) (state : State) : Task → Turn Task
  | installation stage => (stage.step worker state).map installation
  | task => .quiet task state

def isEnded : Task → Bool
  | installation stage => stage.result?.isSome
  | exchange stage => stage.result?.isSome
  | refresh _ => false
  | refreshed => true

end Task

/-- Where something stands that takes steps. -/
inductive Place where
  | task (number : Nat)
  | thread (number : Nat)
  deriving DecidableEq

inductive Move where
  /-- An operation with nothing in between. -/
  | whole (operation : Operation)
  /-- An installation begins, and takes no step yet. -/
  | install
  | activate
  | message (message : ControlMessage)
  | step (place : Place)

structure Interleaving where
  run : Run
  threads : List Thread

namespace Interleaving

abbrev system (now : Interleaving) : System := now.run.system

abbrev state (now : Interleaving) : State := now.run.system.state

abbrev storage (now : Interleaving) : Storage := now.state.storage

/-- The activation that is under way at a place, or has ended there. -/
def activation? (now : Interleaving) : Place → Option Activation
  | .task number => (now.system.task? number).bind Task.activation?
  | .thread number => now.threads[number]?.bind Thread.activation?

/-- Whether everything that began has ended. -/
def isQuiet (now : Interleaving) : Bool :=
  now.system.tasks.all Task.isEnded && now.threads.all Thread.isEnded

/-- Goes on with other tasks, whose new fetches are handed to the network. -/
def goOn (now : Interleaving) (system : System) : Interleaving :=
  let asked := system.calls.filter fun call => (now.system.call? call.number call.position).isNone
  { now with run := ⟨system, now.run.history ++ asked.map .asked⟩ }

def next (worker : Worker) (now : Interleaving) : Move → Interleaving
  | .whole operation => { now with run := now.run.next worker operation }
  | .install => now.goOn (now.system.add (.installation .starting))
  | .activate => { now with threads := now.threads ++ [.activation .starting] }
  | .message sent => { now with threads := now.threads ++ [.handling (.ofMessage sent)] }
  | .step (.task number) => now.goOn (now.system.advance number (Task.step worker)).1
  | .step (.thread number) =>
    match now.threads[number]? with
    | some thread =>
      let turn := thread.step worker now.state
      ⟨⟨{ now.system with state := turn.state }, now.run.history⟩,
        now.threads.set number turn.next⟩
    | none => now

def after (worker : Worker) (now : Interleaving) (moves : List Move) : Interleaving :=
  moves.foldl (next worker) now

def initial (storage : Storage) : Interleaving := ⟨⟨.initial storage, []⟩, []⟩

/-- The interleaving that moves of a new worker over a storage make. -/
def of (worker : Worker) (storage : Storage) (moves : List Move) : Interleaving :=
  (initial storage).after worker moves

/-- The moves that clear the cache. -/
def Clears (now : Interleaving) : Move → Prop
  | .whole operation => operation.Clears
  | .step (.thread number) => now.threads[number]? = some (.handling .clearing)
  | _ => False

/-- The moves that store a response under a key. -/
def Writes (now : Interleaving) (key : Key) (response : FetchResponse) : Move → Prop
  | .whole (.answer number position answer _) =>
    answer = .ok response ∧ response.isStorable ∧ ∃ task request,
      now.system.task? number = some task ∧ task.stores ∧
        task.calls.lookup position = some request ∧ request.key = key
  | _ => False

variable {worker : Worker} {now : Interleaving}

theorem after_append (worker : Worker) (now : Interleaving) (first second : List Move) :
    now.after worker (first ++ second) = (now.after worker first).after worker second :=
  List.foldl_append

theorem after_induction {motive : Interleaving → Prop}
    (step : ∀ now move, motive now → motive (now.next worker move)) (start : motive now)
    (moves : List Move) : motive (now.after worker moves) := by
  induction moves generalizing now with
  | nil => exact start
  | cons move rest ih => exact ih (step now move start)

end Interleaving

theorem Thread.activation?_step {worker : Worker} {state : State} {thread : Thread}
    {activation : Activation}
    (there : (thread.step worker state).next.activation? = some activation) :
    activation = .starting ∨ ∃ before, thread.activation? = some before ∧
      activation = (before.step worker state).next ∧
      (thread.step worker state).state = (before.step worker state).state := by
  cases thread with
  | activation stage => exact Or.inr ⟨stage, rfl, (Option.some.inj there).symm, rfl⟩
  | handling stage =>
    cases stage with
    | looking =>
      by_cases waits : state.phase = .installed
      · simp only [step, Handling.step, Turn.map, Turn.quiet, waits, if_true] at there
        exact Or.inl (Option.some.inj there).symm
      · simp only [step, Handling.step, Turn.map, Turn.quiet, waits, if_false] at there
        cases there
    | activating stage =>
      cases stage with
      | ended deleted => cases there
      | _ => exact Or.inr ⟨_, rfl, (Option.some.inj there).symm, rfl⟩
    | _ => cases there

theorem Task.activation?_step {worker : Worker} {state : State} {task : Task}
    {activation : Activation}
    (there : (task.step worker state).next.activation? = some activation) :
    activation = .starting ∨ ∃ before, task.activation? = some before ∧
      activation = (before.step worker state).next ∧
      (task.step worker state).state = (before.step worker state).state := by
  cases task with
  | installation stage => exact Installation.activation?_step there
  | _ => cases there

/-- An installation that is not stopped half-way is in no activation. -/
theorem Installation.activation?_run (worker : Worker) (state : State) (stage : Installation) :
    (stage.run worker state).next.activation? = none :=
  activation?_of_rests (rests_run worker state stage)

theorem Task.activation?_receive (worker : Worker) (position : Nat)
    (answer : Except Failure FetchResponse) (now : Timestamp) (state : State) (task : Task) :
    (task.receive worker position answer now state).next.activation? = task.activation? := by
  cases task with
  | installation stage =>
    rcases Installation.receive_cases position answer now state stage with ⟨_, idle⟩ |
      ⟨_, _, _, _, _, rfl, _, _, settled, _⟩
    · rw [receive, idle]
      rfl
    · rw [receive, settled]
      rfl
  | _ => rfl

theorem Task.activation?_proceed {worker : Worker} {state : State} {task : Task}
    {activation : Activation}
    (there : (task.proceed worker state).next.activation? = some activation) :
    task.activation? = some activation := by
  cases task with
  | installation stage =>
    have none := Installation.activation?_run worker state stage
    exact absurd (none.symm.trans there) (by simp)
  | _ => cases there

theorem Task.GetsOnly.step {worker : Worker} {state : State} {task : Task}
    (before : task.GetsOnly) : (task.step worker state).next.GetsOnly := by
  cases task with
  | installation stage =>
    intro _ call asked
    rcases Installation.mem_calls_step asked with underWay | precached
    · exact before rfl call underWay
    · exact precached.method
  | _ => exact before

namespace Interleaving

variable {worker : Worker} {now : Interleaving}

theorem getElem?_threads_append {threads : List Thread} {added thread : Thread} {number : Nat}
    (present : (threads ++ [added])[number]? = some thread) :
    threads[number]? = some thread ∨ thread = added := by
  rw [List.getElem?_append] at present
  split at present
  · exact Or.inl present
  · have member := List.mem_of_getElem? present
    exact Or.inr (List.mem_singleton.mp member)

theorem bind_getElem?_append {α β : Type} {found? : α → Option β} {added : α}
    (none : found? added = none) (list : List α) (number : Nat) :
    (list ++ [added])[number]?.bind found? = list[number]?.bind found? := by
  rw [List.getElem?_append]
  split
  · rfl
  · next past =>
    rw [List.getElem?_eq_none (Nat.le_of_not_lt past), Option.bind_none, Option.bind_eq_none_iff]
    intro other there
    rw [List.mem_singleton.mp (List.mem_of_getElem? there), none]

theorem activation?_message (worker : Worker) (now : Interleaving) (sent : ControlMessage) :
    (now.next worker (.message sent)).activation? = now.activation? := by
  funext place
  cases place with
  | task number => rfl
  | thread number => exact bind_getElem?_append (by cases sent <;> rfl) now.threads number

theorem activation?_install (worker : Worker) (now : Interleaving) :
    (now.next worker .install).activation? = now.activation? := by
  funext place
  cases place with
  | task number =>
    have none : Task.activation? (.installation .starting) = none := rfl
    exact bind_getElem?_append none now.system.tasks number
  | thread number => rfl

theorem activation?_congr {later : Interleaving}
    (tasks : later.system.tasks.map Task.activation? = now.system.tasks.map Task.activation?)
    (threads : later.threads = now.threads) : later.activation? = now.activation? := by
  funext place
  cases place with
  | task number =>
    have same := congrArg (·[number]?.bind id) tasks
    simp only [List.getElem?_map, Option.bind_map, Function.id_comp] at same
    exact same
  | thread number => rw [activation?, threads, activation?]

theorem activation?_step_task {number : Nat} {task : Task}
    (present : now.system.task? number = some task) :
    (now.next worker (.step (.task number))).activation? =
      Function.update now.activation? (.task number)
        (task.step worker now.state).next.activation? := by
  obtain ⟨bound, _⟩ := List.getElem?_eq_some_iff.mp present
  have after : (now.next worker (.step (.task number))).system.tasks =
      now.system.tasks.set number (task.step worker now.state).next :=
    System.tasks_advance present
  funext place
  cases place with
  | thread other => rw [Function.update_of_ne (by simp)]; rfl
  | task other =>
    rw [activation?, System.task?, after]
    by_cases same : other = number
    · subst same
      rw [List.getElem?_set_self bound, Function.update_self]
      rfl
    · rw [List.getElem?_set_ne (Ne.symm same), Function.update_of_ne (by simpa using same)]
      rfl

theorem activation?_step_thread {number : Nat} {thread : Thread}
    (present : now.threads[number]? = some thread) :
    (now.next worker (.step (.thread number))).activation? =
      Function.update now.activation? (.thread number)
        (thread.step worker now.state).next.activation? := by
  obtain ⟨bound, _⟩ := List.getElem?_eq_some_iff.mp present
  simp only [next, present]
  funext place
  cases place with
  | task other => rw [Function.update_of_ne (by simp)]; rfl
  | thread other =>
    rw [activation?]
    by_cases same : other = number
    · subst same
      rw [List.getElem?_set_self bound, Function.update_self]
      rfl
    · rw [List.getElem?_set_ne (Ne.symm same), Function.update_of_ne (by simpa using same)]
      rfl

theorem activation?_task {number : Nat} {task : Task} {activation : Activation}
    (present : now.system.task? number = some task) (under : task.activation? = some activation) :
    now.activation? (.task number) = some activation :=
  Option.bind_eq_some_iff.mpr ⟨task, present, under⟩

theorem activation?_thread {number : Nat} {thread : Thread} {activation : Activation}
    (present : now.threads[number]? = some thread)
    (under : thread.activation? = some activation) :
    now.activation? (.thread number) = some activation :=
  Option.bind_eq_some_iff.mpr ⟨thread, present, under⟩

theorem next_task {number : Nat} {task : Task} (present : now.system.task? number = some task) :
    (now.next worker (.step (.task number))).state = (task.step worker now.state).state :=
  System.state_advance present

theorem next_thread {number : Nat} {thread : Thread}
    (present : now.threads[number]? = some thread) :
    (now.next worker (.step (.thread number))).state = (thread.step worker now.state).state := by
  simp only [next, present]

/-- An activation that is there after a move was there before, or begins, or it is the move that
is a step of it. -/
theorem activation?_next {move : Move} {place : Place} {activation : Activation}
    (there : (now.next worker move).activation? place = some activation) :
    now.activation? place = some activation ∨ activation = .starting ∨
      move = .step place ∧ ∃ before, now.activation? place = some before ∧
        activation = (before.step worker now.state).next ∧
        (now.next worker move).state = (before.step worker now.state).state := by
  cases move with
  | whole operation =>
    cases place with
    | thread number => exact Or.inl there
    | task number =>
      left
      obtain ⟨task, present, under⟩ := Option.bind_eq_some_iff.mp there
      cases System.becomes_of_task? present with
      | kept old => exact activation?_task old under
      | answered old _ =>
        rw [Task.activation?_receive] at under
        exact activation?_task old under
      | proceeded old => exact activation?_task old (Task.activation?_proceed under)
      | installation =>
        have none := Installation.activation?_run worker now.system.state .starting
        exact absurd (none.symm.trans under) (by simp)
      | _ => cases under
  | install => exact Or.inl (activation?_install worker now ▸ there)
  | activate =>
    cases place with
    | task number => exact Or.inl there
    | thread number =>
      obtain ⟨thread, present, under⟩ := Option.bind_eq_some_iff.mp there
      rcases getElem?_threads_append present with old | rfl
      · exact Or.inl (activation?_thread old under)
      · exact Or.inr (Or.inl (Option.some.inj under).symm)
  | message sent => exact Or.inl (activation?_message worker now sent ▸ there)
  | step taken =>
    by_cases same : place = taken
    · subst same
      cases place with
      | task number =>
        cases present : now.system.task? number with
        | none =>
          simp only [next, goOn, System.advance, present] at there
          exact Or.inl there
        | some task =>
          rw [activation?_step_task present, Function.update_self] at there
          refine Or.inr ((Task.activation?_step there).imp_right ?_)
          rintro ⟨before, under, stepped, same⟩
          exact ⟨rfl, before, activation?_task present under, stepped,
            (next_task present).trans same⟩
      | thread number =>
        cases present : now.threads[number]? with
        | none =>
          simp only [next, present] at there
          exact Or.inl there
        | some thread =>
          rw [activation?_step_thread present, Function.update_self] at there
          refine Or.inr ((Thread.activation?_step there).imp_right ?_)
          rintro ⟨before, under, stepped, same⟩
          exact ⟨rfl, before, activation?_thread present under, stepped,
            (next_thread present).trans same⟩
    · left
      cases taken with
      | task number =>
        cases present : now.system.task? number with
        | none =>
          simp only [next, goOn, System.advance, present] at there
          exact there
        | some task => rwa [activation?_step_task present, Function.update_of_ne same] at there
      | thread number =>
        cases present : now.threads[number]? with
        | none =>
          simp only [next, present] at there
          exact there
        | some thread => rwa [activation?_step_thread present, Function.update_of_ne same] at there

/-- No activation is about to delete the current store. -/
def Spares (worker : Worker) (now : Interleaving) : Prop :=
  ∀ place activation, now.activation? place = some activation →
    worker.version ∉ activation.targets

theorem Spares.next (spares : now.Spares worker) (move : Move) :
    (now.next worker move).Spares worker := by
  intro place activation there listed
  rcases activation?_next there with old | rfl | ⟨_, before, under, rfl, _⟩
  · exact spares place activation old listed
  · cases listed
  · rcases Activation.mem_targets_step listed with earlier | other
    · exact spares place before under earlier
    · exact other rfl

theorem Spares.ne (spares : now.Spares worker) {place : Place} {activation : Activation}
    (there : now.activation? place = some activation) {name : String}
    (listed : name ∈ activation.targets) : name ≠ worker.version := by
  rintro rfl
  exact spares place activation there listed

theorem spares_of (worker : Worker) (storage : Storage) (moves : List Move) :
    (of worker storage moves).Spares worker := by
  refine after_induction (fun _ move spares => spares.next move) ?_ moves
  intro place activation there
  cases place <;> simp [activation?, initial, system, System.initial, System.task?] at there

/-- A move deletes other stores than the current one, unless it clears the cache, and puts what it
is to store under its key. -/
theorem Spares.changes (spares : now.Spares worker) (move : Move) :
    Changes worker.version (fun name => name ≠ worker.version ∨ now.Clears move)
      (fun key response => now.Writes key response move) now.storage
      (now.next worker move).storage := by
  cases move with
  | whole operation =>
    refine System.perform_changes (fun _ other => Or.inl other) Or.inr ?_ ?_
    · intro number task present activation under name listed
      exact Or.inl (spares.ne (activation?_task present under) listed)
    · rintro number position time task request response rfl present asked stores storable
      exact ⟨rfl, storable, task, request, present, stores, asked, rfl⟩
  | step place =>
    cases place with
    | task number =>
      cases present : now.system.task? number with
      | none =>
        simp only [Interleaving.next, goOn, System.advance, present]
        exact .refl _
      | some task =>
        unfold storage
        rw [next_task present]
        cases task with
        | installation stage =>
          refine Installation.step_changes now.state fun activation under name listed => ?_
          exact Or.inl (spares.ne (activation?_task present under) listed)
        | _ => exact .refl _
    | thread number =>
      cases present : now.threads[number]? with
      | none =>
        simp only [Interleaving.next, present]
        exact .refl _
      | some thread =>
        unfold storage
        rw [next_thread present]
        cases thread with
        | activation stage =>
          refine Activation.step_changes now.state fun name listed => ?_
          exact Or.inl (spares.ne (activation?_thread present rfl) listed)
        | handling stage =>
          cases stage with
          | clearing => exact .delete now.storage (Or.inr present)
          | activating stage =>
            cases stage with
            | ended deleted => exact .refl _
            | _ =>
              refine Activation.step_changes now.state fun name listed => ?_
              exact Or.inl (spares.ne (activation?_thread present rfl) listed)
          | _ => exact .refl _
  | _ => exact .refl _

/-- Every entry is accounted for in an interleaving too. -/
theorem sound_next {storage : Storage} (sound : Sound storage now.run) (spares : now.Spares worker)
    (move : Move) : Sound storage (now.next worker move).run := by
  have evolves (later : List Event) (unwritten : ∀ key response, ¬ now.Writes key response move) :
      Evolves (Fetched (now.run.history ++ later)) storage (now.next worker move).storage :=
    (sound.evolves.mono fun _ _ fetched => fetched.append later).trans
      ((spares.changes move).evolves.mono fun key response writes =>
        absurd writes (unwritten key response))
  cases move with
  | whole operation => exact sound.next operation
  | install =>
    refine ⟨evolves _ fun _ _ writes => writes, fun present => ?_⟩
    rcases System.task?_add present with old | ⟨_, rfl⟩
    · exact sound.getsOnly old
    · exact getsOnly_starting
  | step place =>
    cases place with
    | task number =>
      refine ⟨evolves _ fun _ _ writes => writes, fun present => ?_⟩
      rcases System.task?_advance present with old | ⟨_, task, old, rfl⟩
      · exact sound.getsOnly old
      · exact (sound.getsOnly old).step
    | thread number =>
      have evolves := evolves [] fun _ _ writes => writes
      cases present : now.threads[number]? with
      | none =>
        simp only [Interleaving.next, present]
        exact sound
      | some thread =>
        simp only [Interleaving.next, present, List.append_nil] at evolves ⊢
        exact ⟨evolves, sound.getsOnly⟩
  | _ => exact sound

theorem sound_of (worker : Worker) (storage : Storage) (moves : List Move) :
    Sound storage (of worker storage moves).run :=
  (after_induction (motive := fun now => Sound storage now.run ∧ now.Spares worker)
    (fun _ move ⟨sound, spares⟩ => ⟨sound_next sound spares move, spares.next move⟩)
    ⟨Sound.start storage, spares_of worker storage []⟩ moves).1

end Interleaving

end OfflineSite.Worker
