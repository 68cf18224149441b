import Mathlib.Algebra.Order.Group.Multiset
import Mathlib.Data.List.Induction
import Mathlib.Tactic.Abel
import OfflineSite.Proofs.Worker.Interleaving

namespace OfflineSite.Worker

open Cache (Handle Storage)

variable {worker : Worker}

/-- Setting a place in a list changes what stands between the two parts around it. -/
theorem exists_parts_of_getElem? {α : Type} {list : List α} {place : Nat} {old : α}
    (present : list[place]? = some old) (new : α) :
    ∃ first last, list = first ++ old :: last ∧ first.length = place ∧
      list.set place new = first ++ new :: last := by
  obtain ⟨bound, there⟩ := List.getElem?_eq_some_iff.mp present
  rw [← there]
  exact List.exists_of_set bound

/-- The requests of one installation: a bare one for each place in the list of the configuration
whose path makes a URL. -/
def listed (worker : Worker) : List FetchRequest :=
  worker.config.precache.filterMap fun path => (worker.urlFor path).toOption.map .get

/-- The requests that a move demands. -/
def Move.demands (worker : Worker) : Move → List FetchRequest
  | .whole (.fetch request) => [request]
  | .whole .install | .install => worker.listed
  | _ => []

/-- The request that is handed to the network. -/
def Event.handed? : Event → Option FetchRequest
  | asked call => some call.request
  | _ => none

/-- The request that is answered by the network. -/
def Event.answered? : Event → Option FetchRequest
  | answered request _ => some request
  | _ => none

/-- All requests handed to the network, in order. -/
def handedRequests (history : List Event) : List FetchRequest := history.filterMap Event.handed?

/-- All requests that the network answered, in order. -/
def answeredRequests (history : List Event) : List FetchRequest := history.filterMap Event.answered?

/-- The request whose answer a slot awaits. -/
def Slot.awaited? (slot : Slot) : Option FetchRequest :=
  match slot.warming with
  | .asked request => some request
  | _ => none

theorem Slot.awaited?_start (worker : Worker) (path : String) :
    (start worker path).awaited? = (worker.urlFor path).toOption.map .get := by
  unfold start
  split
  · next url joined => rw [joined]; rfl
  · next failure fails => rw [fails]; rfl

theorem Slot.awaited?_settle (slot : Slot) (answer : Except Failure FetchResponse) :
    (slot.settle answer).awaited? = none := by
  have settled := slot.warming_settle_ne answer
  unfold awaited?
  split
  · next request asked => exact absurd asked (settled request)
  · rfl

theorem Slot.isWaiting_eq (slot : Slot) : slot.isWaiting = slot.awaited?.isSome := by
  unfold isWaiting awaited?
  cases slot.warming <;> rfl

namespace Installation

/-- The requests whose answers an installation awaits. -/
def awaited (stage : Installation) : List FetchRequest := stage.calls.map (·.2)

/-- The requests that an installation has not made yet. -/
def unmade (worker : Worker) : Installation → List FetchRequest
  | starting | marking | opening => worker.listed
  | _ => []

theorem awaited_warming (store : Handle) (slots : List Slot) :
    (warming store slots).awaited = slots.filterMap Slot.awaited? := by
  have pairs : (warming store slots).awaited =
      (slots.zipIdx.map Prod.fst).filterMap Slot.awaited? := by
    rw [awaited, calls, List.map_filterMap, List.filterMap_map]
    congr 1
    funext pair
    obtain ⟨slot, position⟩ := pair
    simp only [Slot.awaited?, Function.comp_apply]
    cases slot.warming <;> rfl
  rw [pairs, List.zipIdx_map_fst]

theorem awaited_opened (worker : Worker) (store : Handle) :
    (warming store (worker.config.precache.map (Slot.start worker))).awaited = worker.listed := by
  rw [awaited_warming, List.filterMap_map, listed]
  congr 1
  funext path
  exact Slot.awaited?_start worker path

theorem awaited_returned (store : Handle) {slots : List Slot}
    (returned : slots.any Slot.isWaiting = false) : (warming store slots).awaited = [] := by
  rw [awaited_warming, List.filterMap_eq_nil_iff]
  intro slot member
  have settled := List.any_eq_false.mp returned slot member
  rwa [Slot.isWaiting_eq, Bool.not_eq_true, Option.isSome_eq_false_iff, Option.isNone_iff_eq_none]
    at settled

/-- A step only ever makes requests that were to be made. -/
theorem outstanding_step (worker : Worker) (state : State) (stage : Installation) :
    (stage.step worker state).next.awaited ++ (stage.step worker state).next.unmade worker =
      stage.awaited ++ stage.unmade worker := by
  cases stage with
  | opening =>
    simp only [step, Turn.quiet, awaited_opened, unmade, List.append_nil]
    rfl
  | warming store slots =>
    simp only [step]
    split
    · rfl
    · next returned =>
      rw [awaited_returned store (Bool.eq_false_iff.mpr returned)]
      rfl
  | looking report =>
    simp only [step]
    split <;> rfl
  | activating report activation => cases activation <;> rfl
  | _ => rfl

theorem outstanding_run (worker : Worker) (state : State) (stage : Installation) :
    (stage.run worker state).next.awaited ++ (stage.run worker state).next.unmade worker =
      stage.awaited ++ stage.unmade worker :=
  run_induction worker (motive := fun _ later =>
    later.awaited ++ later.unmade worker = stage.awaited ++ stage.unmade worker)
    (fun state later kept => (outstanding_step worker state later).trans kept) rfl

/-- Where answers are awaited a step changes nothing. -/
theorem calls_step (worker : Worker) (state : State) (stage : Installation) :
    (stage.step worker state).next.calls = stage.calls ∨ stage.calls = [] := by
  cases stage with
  | warming store slots =>
    cases waiting : slots.any Slot.isWaiting with
    | true =>
      left
      simp only [step, waiting, if_true, Turn.quiet]
    | false => exact Or.inr (List.map_eq_nil_iff.mp (awaited_returned store waiting))
  | _ => exact Or.inr rfl

theorem calls_run (worker : Worker) (state : State) (stage : Installation) :
    (stage.run worker state).next.calls = stage.calls ∨ stage.calls = [] :=
  run_induction worker
    (motive := fun _ later => later.calls = stage.calls ∨ stage.calls = [])
    (fun state later kept => by
      rcases kept with same | none
      · rcases calls_step worker state later with kept | none
        · exact Or.inl (kept.trans same)
        · exact Or.inr (same.symm.trans none)
      · exact Or.inr none) (Or.inl rfl)

end Installation

namespace Task

/-- The requests whose answers a task awaits. -/
def awaited (task : Task) : List FetchRequest := task.calls.map (·.2)

/-- The requests that a task has not made yet. -/
def unmade (worker : Worker) : Task → List FetchRequest
  | installation stage => stage.unmade worker
  | _ => []

/-- A task goes on to another without an answer: no request is dropped, and those that come to be
made were to be made. -/
structure GoesOn (worker : Worker) (before after : Task) : Prop where
  outstanding : after.awaited ++ after.unmade worker = before.awaited ++ before.unmade worker
  calls : after.calls = before.calls ∨ before.calls = []

theorem goesOn_step (worker : Worker) (state : State) (task : Task) :
    GoesOn worker task (task.step worker state).next := by
  cases task with
  | installation stage =>
    exact ⟨stage.outstanding_step worker state, stage.calls_step worker state⟩
  | _ => exact ⟨rfl, Or.inl rfl⟩

theorem goesOn_proceed (worker : Worker) (state : State) (task : Task) :
    GoesOn worker task (task.proceed worker state).next := by
  cases task with
  | installation stage => exact ⟨stage.outstanding_run worker state, stage.calls_run worker state⟩
  | _ => exact ⟨rfl, Or.inl rfl⟩

/-- The requests that a task makes when it goes on to another. -/
def made (before after : Task) : List FetchRequest :=
  (after.calls.filter fun call => (before.calls.lookup call.1).isNone).map (·.2)

theorem GoesOn.made_append {before after : Task} (goesOn : GoesOn worker before after) :
    after.awaited = before.awaited ++ before.made after ∧
      before.made after ++ after.unmade worker = before.unmade worker := by
  have outstanding := goesOn.outstanding
  rcases goesOn.calls with same | none
  · have awaits : after.awaited = before.awaited := by rw [awaited, same, awaited]
    have nothing : before.made after = [] := by
      rw [made, same, List.map_eq_nil_iff, List.filter_eq_nil_iff]
      intro call member new
      have absent := List.lookup_eq_none_iff.mp (Option.isNone_iff_eq_none.mp new) call member
      simp at absent
    rw [awaits] at outstanding
    rw [awaits, nothing, List.append_nil, List.nil_append]
    exact ⟨rfl, List.append_cancel_left outstanding⟩
  · have idle : before.awaited = [] := List.map_eq_nil_iff.mpr none
    have all : before.made after = after.awaited := by
      simp only [made, none, List.lookup_nil, Option.isNone_none, List.filter_true]
      rfl
    rw [idle, List.nil_append] at outstanding
    rw [idle, all, List.nil_append]
    exact ⟨rfl, outstanding⟩

/-- The request that is answered is awaited no longer, and all others are. -/
theorem awaited_receive (worker : Worker) {position : Nat} {request : FetchRequest}
    (answer : Except Failure FetchResponse) (now : Timestamp) (state : State) {task : Task}
    (asked : task.calls.lookup position = some request) :
    task.awaited.Perm
      (request :: (task.receive worker position answer now state).next.awaited) := by
  have called := mem_calls_of_lookup asked
  cases task with
  | installation stage =>
    rcases Installation.receive_cases position answer now state stage with ⟨none, _⟩ |
      ⟨store, slots, slot, other, storage, rfl, present, warming, settled, _⟩
    · exact absurd called (none request)
    · have awaits : (position, other) ∈ (Installation.warming store slots).calls :=
        Installation.mem_calls_warming.mpr ⟨slot, present, warming⟩
      obtain rfl : other = request := Installation.calls_unique awaits called
      obtain ⟨before, after, whole, _, changed⟩ :=
        exists_parts_of_getElem? present (slot.settle answer)
      have waits : slot.awaited? = some other := by rw [Slot.awaited?, warming]
      have left : (installation (.warming store slots)).awaited =
          before.filterMap Slot.awaited? ++ other :: after.filterMap Slot.awaited? := by
        refine (Installation.awaited_warming store slots).trans ?_
        rw [whole, List.filterMap_append, List.filterMap_cons_some waits]
      have right :
          (installation (.warming store (slots.set position (slot.settle answer)))).awaited =
            before.filterMap Slot.awaited? ++ after.filterMap Slot.awaited? := by
        refine (Installation.awaited_warming store _).trans ?_
        rw [changed, List.filterMap_append, List.filterMap_cons_none (slot.awaited?_settle answer)]
      simp only [receive, settled, Turn.quiet, Turn.map]
      rw [left, right]
      exact List.perm_middle
  | exchange stage =>
    simp only [calls, Option.mem_toList, Option.map_eq_some_iff, Prod.mk.injEq] at called
    obtain ⟨found, awaits, _, rfl⟩ := called
    simp only [awaited, calls, receive, Turn.map, Exchange.call?_receive, awaits]
    exact .refl _
  | refresh pending =>
    obtain ⟨_, rfl⟩ := Prod.mk.inj (List.mem_singleton.mp called)
    exact .refl _
  | refreshed => cases called

theorem unmade_receive (worker : Worker) (position : Nat) (answer : Except Failure FetchResponse)
    (now : Timestamp) (state : State) (task : Task) :
    (task.receive worker position answer now state).next.unmade worker = task.unmade worker := by
  cases task with
  | installation stage =>
    rcases Installation.receive_cases position answer now state stage with ⟨_, idle⟩ |
      ⟨_, _, _, _, _, rfl, _, _, settled, _⟩
    · rw [receive, idle]
      rfl
    · rw [receive, settled]
      rfl
  | _ => rfl

theorem of_isEnded (worker : Worker) {task : Task} (ended : task.isEnded) :
    task.awaited = [] ∧ task.unmade worker = [] := by
  cases task with
  | installation stage =>
    cases stage with
    | ended report => exact ⟨rfl, rfl⟩
    | _ => cases ended
  | exchange stage =>
    cases stage with
    | ended result => exact ⟨rfl, rfl⟩
    | _ => cases ended
  | refresh pending => cases ended
  | refreshed => exact ⟨rfl, rfl⟩

end Task

namespace System

variable {system : System}

/-- The requests whose answers are awaited. -/
def awaited (system : System) : Multiset FetchRequest := system.tasks.flatMap Task.awaited

/-- The requests that are still to be made. -/
def unmade (worker : Worker) (system : System) : Multiset FetchRequest :=
  system.tasks.flatMap (Task.unmade worker)

/-- The fetches that are under way later and were not before. -/
def newCalls (before after : System) : List Call :=
  after.calls.filter fun call => (before.call? call.number call.position).isNone

theorem not_isNone_call?_of_mem {call : Call} (underWay : call ∈ system.calls) :
    ¬ (system.call? call.number call.position).isNone := by
  obtain ⟨task, present, asked⟩ := mem_calls.mp underWay
  rw [call?, present, Option.bind_some, Option.isNone_iff_eq_none, List.lookup_eq_none_iff]
  intro absent
  simpa using absent _ asked

theorem newCalls_eq_nil {after : System} (old : ∀ call ∈ after.calls, call ∈ system.calls) :
    system.newCalls after = [] :=
  List.filter_eq_nil_iff.mpr fun call underWay => not_isNone_call?_of_mem (old call underWay)

/-- The fetches of tasks that have the numbers from some number on. -/
def callsFrom (first : Nat) (tasks : List Task) : List Call :=
  (tasks.zipIdx first).flatMap fun pair =>
    pair.1.calls.map fun call => ⟨pair.2, call.1, call.2⟩

theorem callsFrom_append_cons (before after : List Task) (task : Task) :
    callsFrom 0 (before ++ task :: after) =
      callsFrom 0 before ++ (task.calls.map fun call => ⟨before.length, call.1, call.2⟩) ++
        callsFrom (before.length + 1) after := by
  simp only [callsFrom, List.zipIdx_append, List.zipIdx_cons, List.flatMap_append,
    List.flatMap_cons, Nat.zero_add, List.append_assoc]

/-- Where one task goes on, the new fetches are its own. -/
theorem newCalls_set {number : Nat} {task next : Task} (state : State)
    (present : system.task? number = some task) :
    (system.newCalls ⟨state, system.tasks.set number next⟩).map Call.request =
      task.made next := by
  obtain ⟨before, after, whole, length, changed⟩ := exists_parts_of_getElem? present next
  have known : system.calls = callsFrom 0 (before ++ task :: after) := by
    rw [← whole]
    rfl
  have later : (⟨state, before ++ next :: after⟩ : System).calls =
      callsFrom 0 (before ++ next :: after) := rfl
  -- Every fetch of another task was under way before.
  have others : ∀ call ∈ callsFrom 0 before ++ callsFrom (number + 1) after,
      ¬ (system.call? call.number call.position).isNone := by
    intro call member
    have underWay : call ∈ system.calls := by
      rw [known, callsFrom_append_cons, length]
      rcases List.mem_append.mp member with first | last
      · exact List.mem_append_left _ (List.mem_append_left _ first)
      · exact List.mem_append_right _ last
    exact not_isNone_call?_of_mem underWay
  have own (position : Nat) : system.call? number position = task.calls.lookup position := by
    rw [call?, present, Option.bind_some]
  have first := List.filter_eq_nil_iff.mpr fun call member =>
    others call (List.mem_append_left _ member)
  have last := List.filter_eq_nil_iff.mpr fun call member =>
    others call (List.mem_append_right _ member)
  rw [newCalls, changed, later, callsFrom_append_cons, length, List.filter_append,
    List.filter_append, first, last, List.filter_map, List.nil_append, List.append_nil,
    List.map_map]
  simp only [Function.comp_def, own]
  rfl

theorem map_request_calls (system : System) :
    system.calls.map Call.request = system.tasks.flatMap Task.awaited := by
  have numbered (first : Nat) (tasks : List Task) :
      (callsFrom first tasks).map Call.request = tasks.flatMap Task.awaited := by
    induction tasks generalizing first with
    | nil => rfl
    | cons task rest ih =>
      have own : (task.calls.map fun call => (⟨first, call.1, call.2⟩ : Call)).map Call.request =
          task.awaited := by
        rw [List.map_map]
        rfl
      rw [List.flatMap_cons, ← ih (first + 1), ← own, ← List.map_append]
      rfl
  exact numbered 0 system.tasks

theorem unmade_of_isQuiet (worker : Worker) (quiet : system.tasks.all Task.isEnded) :
    system.awaited = 0 ∧ system.unmade worker = 0 := by
  have ended (task : Task) (member : task ∈ system.tasks) :=
    Task.of_isEnded worker (List.all_eq_true.mp quiet task member)
  exact ⟨congrArg _ (List.flatMap_eq_nil_iff.mpr fun task member => (ended task member).1),
    congrArg _ (List.flatMap_eq_nil_iff.mpr fun task member => (ended task member).2)⟩

/-- What a change of the tasks accounts for: requests that come to be made were demanded, or were
still to be made; and requests that were awaited are answered, or are awaited still. -/
structure Balance (worker : Worker) (before after : System)
    (demanded answered : List FetchRequest) : Prop where
  outgoing : ((before.newCalls after).map Call.request : Multiset FetchRequest) +
    after.unmade worker = before.unmade worker + demanded
  incoming : (answered : Multiset FetchRequest) + after.awaited =
    before.awaited + ((before.newCalls after).map Call.request : Multiset FetchRequest)

namespace Balance

variable {after : System}

theorem of_tasks (same : after.tasks = system.tasks) : Balance worker system after [] [] := by
  have calls : after.calls = system.calls := by rw [calls, calls, same]
  have none : system.newCalls after = [] := newCalls_eq_nil fun call underWay => calls ▸ underWay
  refine ⟨?_, ?_⟩
  · simp [none, unmade, same]
  · simp [none, awaited, same]

/-- A task that is begun makes what it was begun for, or is to make it. -/
theorem of_add (task : Task) (tasks : after.tasks = system.tasks ++ [task]) :
    Balance worker system after (task.awaited ++ task.unmade worker) [] := by
  have calls : after.calls = (system.add task).calls := by rw [calls, calls, tasks]; rfl
  have new : (system.newCalls after).map Call.request = task.awaited := by
    rw [newCalls, calls, calls_add, List.filter_append,
      List.filter_eq_nil_iff.mpr fun call underWay => not_isNone_call?_of_mem underWay,
      List.filter_eq_self.mpr, List.nil_append, List.map_map]
    · rfl
    · intro call member
      obtain ⟨own, _, rfl⟩ := List.mem_map.mp member
      rw [call?_eq_none (Nat.le_refl _)]
      rfl
  refine ⟨?_, ?_⟩
  · simp only [new, unmade, tasks, List.flatMap_append, List.flatMap_singleton, ← Multiset.coe_add]
    rw [add_left_comm]
  · simp [new, awaited, tasks]

theorem of_goesOn {number : Nat} {task next : Task} (present : system.task? number = some task)
    (goesOn : task.GoesOn worker next) (tasks : after.tasks = system.tasks.set number next) :
    Balance worker system after [] [] := by
  obtain ⟨first, last, whole, _, changed⟩ := exists_parts_of_getElem? present next
  have new : (system.newCalls after).map Call.request = task.made next := by
    rw [← newCalls_set after.state present, newCalls, newCalls, calls, tasks, calls]
  rw [changed] at tasks
  obtain ⟨awaits, makes⟩ := goesOn.made_append
  refine ⟨?_, ?_⟩
  · simp only [new, unmade, tasks, whole, ← makes, List.flatMap_append,
      List.flatMap_cons, ← Multiset.coe_add, Multiset.coe_nil]
    abel
  · simp only [new, awaited, tasks, whole, awaits, List.flatMap_append,
      List.flatMap_cons, ← Multiset.coe_add, Multiset.coe_nil]
    abel

end Balance

/-- Taking an answer in asks nothing. -/
theorem newCalls_answer (worker : Worker) (system : System) (number position : Nat)
    (answer : Except Failure FetchResponse) (now : Timestamp) :
    system.newCalls (system.perform worker (.answer number position answer now)) = [] := by
  refine newCalls_eq_nil fun call underWay => ?_
  obtain ⟨task, present, awaits⟩ := mem_calls.mp underWay
  cases becomes_of_task? present with
  | kept old => exact mem_calls.mpr ⟨task, old, awaits⟩
  | answered old _ => exact mem_calls.mpr ⟨_, old, Task.mem_calls_receive awaits⟩

/-- An answer that is taken in takes its request out, and no other. -/
theorem balance_answer {number position : Nat} {request : FetchRequest}
    (underWay : system.call? number position = some request)
    (answer : Except Failure FetchResponse) (now : Timestamp) :
    Balance worker system (system.perform worker (.answer number position answer now)) []
      [request] := by
  obtain ⟨task, present, asked⟩ := Option.bind_eq_some_iff.mp underWay
  obtain ⟨first, last, whole, _, changed⟩ := exists_parts_of_getElem? present
    (task.receive worker position answer now system.state).next
  have none := newCalls_answer worker system number position answer now
  have tasks : (system.perform worker (.answer number position answer now)).tasks =
      first ++ (task.receive worker position answer now system.state).next :: last := by
    simp only [perform, underWay]
    exact (tasks_advance present).trans changed
  have unmade := task.unmade_receive worker position answer now system.state
  have perm := Multiset.coe_eq_coe.mpr
    (task.awaited_receive worker answer now system.state asked)
  rw [← Multiset.cons_coe, ← Multiset.singleton_add] at perm
  refine ⟨?_, ?_⟩
  · simp only [none, System.unmade, tasks, whole, unmade, List.flatMap_append,
      List.flatMap_cons, List.map_nil, Multiset.coe_nil, zero_add, add_zero]
  · simp only [none, awaited, tasks, whole, perm, List.flatMap_append, List.flatMap_cons,
      ← Multiset.coe_add, Multiset.coe_singleton, Multiset.coe_nil, List.map_nil]
    abel

/-- A request that is taken is made once, at once or by the fetch in the background. -/
theorem balance_fetch (worker : Worker) (request : FetchRequest) (system : System) :
    Balance worker system (system.fetch worker request).1 [request] [] := by
  obtain ⟨number, new, calls⟩ := calls_fetch worker request system
  have made : (system.newCalls (system.fetch worker request).1).map Call.request = [request] := by
    have unknown : system.call? number 0 = none := call?_eq_none new 0
    rw [newCalls, calls, List.filter_append,
      List.filter_eq_nil_iff.mpr fun call underWay => not_isNone_call?_of_mem underWay]
    simp [unknown]
  have awaits : (system.fetch worker request).1.awaited = system.awaited + {request} := by
    rw [awaited, awaited, ← map_request_calls, ← map_request_calls, calls, List.map_append,
      ← Multiset.coe_add]
    rfl
  have unmade : (system.fetch worker request).1.unmade worker = system.unmade worker := by
    simp only [fetch]
    split <;> simp [System.unmade, add, Task.unmade]
  refine ⟨?_, ?_⟩
  · rw [made, unmade, add_comm]
  · rw [made, awaits, Multiset.coe_nil, zero_add, Multiset.coe_singleton]

/-- The request that an operation answers. -/
def answers (system : System) : Operation → List FetchRequest
  | .answer number position _ _ => (system.call? number position).toList
  | _ => []

theorem balance_perform (worker : Worker) (system : System) (operation : Operation) :
    Balance worker system (system.perform worker operation)
      ((Move.whole operation).demands worker) (system.answers operation) := by
  cases operation with
  | install =>
    have makes := Installation.outstanding_run worker system.state .starting
    have begun : Balance worker system (system.perform worker .install)
        ((Installation.starting.run worker system.state).next.awaited ++
          (Installation.starting.run worker system.state).next.unmade worker) [] :=
      .of_add (.installation (Installation.starting.run worker system.state).next) rfl
    rwa [makes] at begun
  | fetch request => exact balance_fetch worker request system
  | answer number position answer now =>
    cases underWay : system.call? number position with
    | none =>
      have same : system.perform worker (.answer number position answer now) = system := by
        simp only [perform, underWay]
      rw [same]
      simp only [answers, underWay, Option.toList_none]
      exact .of_tasks rfl
    | some request =>
      simp only [answers, underWay, Option.toList_some]
      exact balance_answer underWay answer now
  | proceed number =>
    cases present : system.task? number with
    | none =>
      have same : system.perform worker (.proceed number) = system := by
        simp only [perform, System.proceed, advance, present]
      rw [same]
      exact .of_tasks rfl
    | some task =>
      exact .of_goesOn present (task.goesOn_proceed worker system.state) (tasks_advance present)
  | _ => exact .of_tasks rfl

end System

theorem handedRequests_append (first second : List Event) :
    handedRequests (first ++ second) = handedRequests first ++ handedRequests second :=
  List.filterMap_append

theorem answeredRequests_append (first second : List Event) :
    answeredRequests (first ++ second) = answeredRequests first ++ answeredRequests second :=
  List.filterMap_append

theorem handedRequests_asked (calls : List Call) :
    handedRequests (calls.map Event.asked) = calls.map Call.request := by
  rw [handedRequests, List.filterMap_map, ← List.filterMap_eq_map]
  rfl

theorem answeredRequests_asked (calls : List Call) :
    answeredRequests (calls.map Event.asked) = [] := by
  rw [answeredRequests, List.filterMap_map]
  exact List.filterMap_eq_nil_iff.mpr fun _ _ => rfl

theorem handedRequests_replies (system : System) (number : Nat) (request : FetchRequest) :
    handedRequests (system.replies number request) = [] := by
  unfold System.replies
  split <;> rfl

theorem answeredRequests_replies (system : System) (number : Nat) (request : FetchRequest) :
    answeredRequests (system.replies number request) = [] := by
  unfold System.replies
  split <;> rfl

theorem handedRequests_events (worker : Worker) (system : System) (operation : Operation) :
    handedRequests (system.events worker operation) =
      (system.newCalls (system.perform worker operation)).map Call.request := by
  unfold System.events
  rw [handedRequests_append, handedRequests_asked]
  refine (congrArg (· ++ _) ?_).trans (List.nil_append _)
  cases operation with
  | fetch request => exact handedRequests_replies ..
  | answer number position answer now =>
    cases underWay : system.call? number position with
    | none => simp only [underWay]; rfl
    | some request =>
      simp only [underWay]
      exact handedRequests_replies ..
  | _ => rfl

theorem answeredRequests_events (worker : Worker) (system : System) (operation : Operation) :
    answeredRequests (system.events worker operation) = system.answers operation := by
  unfold System.events
  rw [answeredRequests_append, answeredRequests_asked, List.append_nil]
  cases operation with
  | fetch request => exact answeredRequests_replies ..
  | answer number position answer now =>
    cases underWay : system.call? number position with
    | none => simp only [System.answers, underWay]; rfl
    | some request =>
      simp only [System.answers, underWay]
      exact congrArg (request :: ·) (answeredRequests_replies ..)
  | _ => rfl

namespace Interleaving

variable {now : Interleaving}

/-- The request that a move answers. -/
def answers (now : Interleaving) : Move → List FetchRequest
  | .whole operation => now.system.answers operation
  | _ => []

/-- What a move hands to the network, and what is answered in it, are seen. -/
theorem history_next (worker : Worker) (now : Interleaving) (move : Move) :
    handedRequests (now.next worker move).run.history = handedRequests now.run.history ++
        (now.system.newCalls (now.next worker move).system).map Call.request ∧
      answeredRequests (now.next worker move).run.history =
        answeredRequests now.run.history ++ now.answers move := by
  have goOn (system : System) :
      handedRequests (now.goOn system).run.history = handedRequests now.run.history ++
          (now.system.newCalls system).map Call.request ∧
        answeredRequests (now.goOn system).run.history =
          answeredRequests now.run.history ++ [] := by
    simp only [Interleaving.goOn, handedRequests_append, answeredRequests_append,
      handedRequests_asked, answeredRequests_asked]
    exact ⟨rfl, trivial⟩
  have idle {system : System} (tasks : system.tasks = now.system.tasks) :
      handedRequests now.run.history = handedRequests now.run.history ++
          (now.system.newCalls system).map Call.request ∧
        answeredRequests now.run.history = answeredRequests now.run.history ++ [] := by
    have none : now.system.newCalls system = [] :=
      System.newCalls_eq_nil fun call underWay => by rwa [System.calls, tasks] at underWay
    rw [none, List.map_nil, List.append_nil, List.append_nil]
    exact ⟨rfl, rfl⟩
  cases move with
  | whole operation =>
    simp only [next, Run.next, handedRequests_append, answeredRequests_append,
      handedRequests_events, answeredRequests_events]
    exact ⟨trivial, rfl⟩
  | install => exact goOn _
  | step place =>
    cases place with
    | task number => exact goOn _
    | thread number =>
      cases present : now.threads[number]? with
      | none =>
        simp only [next, present]
        exact idle rfl
      | some thread =>
        simp only [next, present]
        exact idle rfl
  | _ => exact idle rfl

theorem balance_next (worker : Worker) (now : Interleaving) (move : Move) :
    System.Balance worker now.system (now.next worker move).system (move.demands worker)
      (now.answers move) := by
  cases move with
  | whole operation => exact System.balance_perform worker now.system operation
  | install => exact .of_add (.installation .starting) rfl
  | step place =>
    cases place with
    | task number =>
      cases present : now.system.task? number with
      | none =>
        have same : (now.system.advance number (Task.step worker)).1 = now.system := by
          simp only [System.advance, present]
        simp only [next, goOn, same]
        exact .of_tasks rfl
      | some task =>
        exact .of_goesOn present (task.goesOn_step worker now.state)
          (System.tasks_advance present)
    | thread number =>
      cases present : now.threads[number]? with
      | none =>
        simp only [next, present]
        exact .of_tasks rfl
      | some thread =>
        simp only [next, present]
        exact .of_tasks rfl
  | _ => exact .of_tasks rfl

/-- What was demanded so far has been handed to the network or is still to be made, and what was
handed to it has been answered or is awaited. -/
structure Accounted (worker : Worker) (now : Interleaving) (moves : List Move) : Prop where
  outgoing : (handedRequests now.run.history : Multiset FetchRequest) + now.system.unmade worker =
    moves.flatMap (Move.demands worker)
  incoming : (answeredRequests now.run.history : Multiset FetchRequest) + now.system.awaited =
    handedRequests now.run.history

theorem Accounted.next {moves : List Move} (accounted : now.Accounted worker moves) (move : Move) :
    (now.next worker move).Accounted worker (moves ++ [move]) where
  outgoing := by
    have balance := (now.balance_next worker move).outgoing
    rw [(history_next worker now move).1, List.flatMap_append, List.flatMap_singleton,
      ← Multiset.coe_add, ← Multiset.coe_add, add_assoc, balance, ← add_assoc, accounted.outgoing]
  incoming := by
    have balance := (now.balance_next worker move).incoming
    rw [(history_next worker now move).1, (history_next worker now move).2, ← Multiset.coe_add,
      ← Multiset.coe_add, add_assoc, balance, ← add_assoc, accounted.incoming]

theorem accounted_of (worker : Worker) (storage : Storage) (moves : List Move) :
    (of worker storage moves).Accounted worker moves := by
  induction moves using List.reverseRecOn with
  | nil => exact ⟨rfl, rfl⟩
  | append_singleton moves move ih =>
    rw [of, after_append]
    exact ih.next move

end Interleaving

/-- Whatever is done in whatever order, once nothing is under way any more the network was handed
exactly the requests that were demanded, each as often as it was: the request of every fetch, and
one for each path of an installation that makes a URL. It has answered each of them once. -/
theorem handed_eq_demanded (worker : Worker) (storage : Storage) (moves : List Move)
    (quiet : (Interleaving.of worker storage moves).isQuiet) :
    let history := (Interleaving.of worker storage moves).run.history
    (handedRequests history : Multiset FetchRequest) = moves.flatMap (Move.demands worker) ∧
      (answeredRequests history : Multiset FetchRequest) = moves.flatMap (Move.demands worker) := by
  intro history
  have accounted := Interleaving.accounted_of worker storage moves
  obtain ⟨tasks, _⟩ := Bool.and_eq_true_iff.mp quiet
  obtain ⟨awaited, unmade⟩ := System.unmade_of_isQuiet worker tasks
  have outgoing := accounted.outgoing
  have incoming := accounted.incoming
  rw [unmade, add_zero] at outgoing
  rw [awaited, add_zero] at incoming
  exact ⟨outgoing, incoming.trans outgoing⟩

namespace Errands

def page : Url := ⟨"http", some ⟨"", "", .name "site", none⟩, .pieces ["page"], none, none⟩

def busy : Worker := ⟨{ version := "v1", precache := ["/page", "http://[", "/page"] }, page⟩

def anchored : FetchRequest := .get { page with fragment := some "top" }

def form : FetchRequest := ⟨"POST", page, .document, [("accept", "*/*")], "name=x".toUTF8⟩

def elsewhere : FetchRequest := { FetchRequest.get { page with query := some "q" } with
  destination := .document }

def given : Except Failure FetchResponse := .ok ⟨200, [], "x".toUTF8⟩

def down : Except Failure FetchResponse := .error (.network "offline")

def moves : List Move :=
  .install :: List.replicate 3 (.step (.task 0)) ++
    [.whole (.answer 0 2 down default), .whole (.answer 0 0 given default)] ++
    List.replicate 8 (.step (.task 0)) ++
    [.whole (.fetch anchored), .whole (.fetch form), .whole (.fetch elsewhere),
      .whole (.answer 4 0 down default), .whole (.answer 2 0 down default),
      .whole (.answer 3 0 given default)]

theorem listed_eq : busy.listed = [.get page, .get page] := by
  have joins : (busy.urlFor "/page").toOption = some page := by decide +kernel
  have fails : (busy.urlFor "http://[").toOption = none := by decide +kernel
  have paths : busy.config.precache = ["/page", "http://[", "/page"] := rfl
  simp [listed, paths, joins, fails]

end Errands

open Errands in
/-- An installation with a path that comes twice and one that makes no URL, and then one request of
each kind: answered from the cache, handed on, and looked for in vain while the network is down. -/
theorem five_requests_handed :
    let now := Interleaving.of busy .empty moves
    now.isQuiet ∧ (handedRequests now.run.history : Multiset FetchRequest) =
      [.get page, .get page, anchored, form, elsewhere] := by
  have quiet : (Interleaving.of busy .empty moves).isQuiet := by decide +kernel
  have demanded : moves.flatMap (Move.demands busy) =
      [.get page, .get page, anchored, form, elsewhere] := by
    simp [moves, Move.demands, listed_eq, List.replicate_succ]
  refine ⟨quiet, ?_⟩
  rw [(handed_eq_demanded busy .empty moves quiet).1, demanded]

end OfflineSite.Worker
