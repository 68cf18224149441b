import OfflineSite.Proofs.Worker.Steps

namespace OfflineSite.Worker

open Cache (Key)
open Cache.Storage (Changes Evolves)

/-- What may happen to a worker next. -/
inductive Operation where
  | install
  | activate
  | fetch (request : FetchRequest)
  | message (message : ControlMessage)
  | rawMessage (raw : ByteArray)
  /-- The fetches in the background were waited for. -/
  | settle
  | retire
  /-- The network answers the fetch of a task at a position. -/
  | answer (number position : Nat) (answer : Except Failure FetchResponse) (now : Timestamp)
  /-- A task goes on as far as it can. -/
  | proceed (number : Nat)

/-- The messages that clear the cache. -/
def Operation.Clears : Operation → Prop
  | .message sent => sent = .clearCache
  | .rawMessage raw => ControlMessage.parse raw = .ok .clearCache
  | _ => False

/-- A fetch, with the number of its task and its position there. -/
structure Call where
  number : Nat
  position : Nat
  request : FetchRequest

/-- What is seen of a run: what is handed to the network, what it answers, and the replies. -/
inductive Event where
  | asked (call : Call)
  | answered (request : FetchRequest) (answer : Except Failure FetchResponse)
  | replied (request : FetchRequest) (result : Except Failure Reply)

namespace System

/-- The fetches that are under way. -/
def calls (system : System) : List Call :=
  system.tasks.zipIdx.flatMap fun (task, number) =>
    task.calls.map fun (position, request) => ⟨number, position, request⟩

def call? (system : System) (number position : Nat) : Option FetchRequest :=
  (system.task? number).bind fun task => task.calls.lookup position

theorem mem_calls {system : System} {call : Call} :
    call ∈ system.calls ↔
      ∃ task, system.task? call.number = some task ∧
        (call.position, call.request) ∈ task.calls := by
  simp only [calls, List.mem_flatMap, List.mem_zipIdx_iff_getElem?, List.mem_map, Prod.exists]
  constructor
  · rintro ⟨task, number, present, position, request, asked, rfl⟩
    exact ⟨task, present, asked⟩
  · rintro ⟨task, present, asked⟩
    exact ⟨task, call.number, present, call.position, call.request, asked, rfl⟩

/-- An answer to a fetch that is not under way is none. -/
def perform (worker : Worker) (system : System) : Operation → System
  | .install => (system.install worker).1
  | .activate => (system.act worker.activate).2.1
  | .fetch request => (system.fetch worker request).1
  | .message message => (system.act (worker.handle message)).2.1
  | .rawMessage raw => (system.act (worker.handleRaw raw)).2.1
  | .settle => system
  | .retire => (system.act worker.retire).2.1
  | .answer number position answer now =>
    match system.call? number position with
    | some _ => (system.receive worker number position answer now).1
    | none => system
  | .proceed number => (system.proceed worker number).1

/-- What an operation hands to the network: the fetches that are under way after it and were not
before. -/
def asked (worker : Worker) (system : System) (operation : Operation) : List Call :=
  (system.perform worker operation).calls.filter fun call =>
    (system.call? call.number call.position).isNone

/-- The reply to a request, once its task has one. -/
def replies (system : System) (number : Nat) (request : FetchRequest) : List Event :=
  match system.task? number with
  | some (.exchange (.ended result)) => [.replied request result]
  | _ => []

def events (worker : Worker) (system : System) (operation : Operation) : List Event :=
  let after := system.perform worker operation
  (match operation with
    | .fetch request => after.replies system.next request
    | .answer number position answer _ =>
      match system.call? number position with
      | some request => .answered request answer :: after.replies number request
      | none => []
    | _ => []) ++ (system.asked worker operation).map .asked

/-- The system after operations with nothing else in between. -/
def after (worker : Worker) (system : System) (operations : List Operation) : System :=
  operations.foldl (perform worker) system

theorem after_append (worker : Worker) (system : System) (first second : List Operation) :
    system.after worker (first ++ second) = (system.after worker first).after worker second :=
  List.foldl_append

/-- Taking an answer in and going on at once are two operations of a run. -/
theorem deliver_eq_perform (worker : Worker) (system : System) {number position : Nat}
    {request : FetchRequest} (underWay : system.call? number position = some request)
    (answer : Except Failure FetchResponse) (now : Timestamp) :
    (system.deliver worker number position answer now).1 =
      (system.perform worker (.answer number position answer now)).perform worker
        (.proceed number) := by
  simp only [deliver, perform, underWay]

/-- What a task is that is there after an operation. -/
inductive Becomes (worker : Worker) (system : System) : Operation → Nat → Task → Prop
  | kept {operation : Operation} {number : Nat} {task : Task}
      (present : system.task? number = some task) : Becomes worker system operation number task
  | answered {number position : Nat} {answer : Except Failure FetchResponse} {now : Timestamp}
      {task : Task} {request : FetchRequest} (present : system.task? number = some task)
      (asked : task.calls.lookup position = some request) :
      Becomes worker system (.answer number position answer now) number
        (task.receive worker position answer now system.state).next
  | proceeded {number : Nat} {task : Task} (present : system.task? number = some task) :
      Becomes worker system (.proceed number) number (task.proceed worker system.state).next
  | installation :
      Becomes worker system .install system.next
        (.installation (Installation.starting.run worker system.state).next)
  | exchange (request : FetchRequest) :
      Becomes worker system (.fetch request) system.next
        (.exchange (Exchange.start worker request system.state).next.1)
  | refresh {request : FetchRequest} {pending : Refresh}
      (begun : (Exchange.start worker request system.state).next.2 = some pending) :
      Becomes worker system (.fetch request) (system.next + 1) (.refresh pending)

theorem task?_add {system : System} {task found : Task} {number : Nat}
    (present : (system.add task).task? number = some found) :
    system.task? number = some found ∨ number = system.next ∧ found = task := by
  simp only [task?, add, List.getElem?_append] at present
  split at present
  · exact Or.inl present
  · next past =>
    obtain ⟨bound, same⟩ := List.getElem?_eq_some_iff.mp present
    simp only [List.length_singleton, next] at bound past ⊢
    simp only [List.getElem_singleton] at same
    exact Or.inr ⟨by omega, same.symm⟩

theorem task?_add_of_lt {system : System} {task : Task} {number : Nat}
    (begun : number < system.next) : (system.add task).task? number = system.task? number :=
  List.getElem?_append_left begun

theorem task?_advance {system : System} {number other : Nat}
    {step : State → Task → Turn Task} {found : Task}
    (present : (system.advance number step).1.task? other = some found) :
    system.task? other = some found ∨
      number = other ∧ ∃ task, system.task? number = some task ∧
        found = (step system.state task).next := by
  unfold advance at present
  split at present
  · next task there =>
    simp only [task?, List.getElem?_set] at present
    split at present
    · next same =>
      split at present
      · exact Or.inr ⟨same, task, there, (Option.some.inj present).symm⟩
      · simp at present
    · exact Or.inl present
  · exact Or.inl present

theorem task?_advance_self {system : System} {number : Nat} {step : State → Task → Turn Task}
    {task : Task} (present : system.task? number = some task) :
    (system.advance number step).1.task? number = some (step system.state task).next := by
  obtain ⟨bound, _⟩ := List.getElem?_eq_some_iff.mp present
  simp only [advance, present]
  exact List.getElem?_set_self bound

theorem task?_advance_of_ne {system : System} {number other : Nat}
    {step : State → Task → Turn Task} (different : number ≠ other) :
    (system.advance number step).1.task? other = system.task? other := by
  unfold advance
  split
  · exact List.getElem?_set_ne different
  · rfl

theorem becomes_of_task? {worker : Worker} {system : System} {operation : Operation}
    {number : Nat} {task : Task}
    (present : (system.perform worker operation).task? number = some task) :
    Becomes worker system operation number task := by
  cases operation with
  | install =>
    rcases task?_add present with old | ⟨rfl, rfl⟩
    · exact .kept old
    · exact .installation
  | fetch request =>
    simp only [perform, fetch] at present
    split at present
    · next pending begun =>
      rcases task?_add present with before | ⟨rfl, rfl⟩
      · rcases task?_add before with old | ⟨rfl, rfl⟩
        · exact .kept old
        · exact .exchange request
      · simp only [next, add, List.length_append, List.length_singleton]
        exact .refresh begun
    · rcases task?_add present with old | ⟨rfl, rfl⟩
      · exact .kept old
      · exact .exchange request
  | answer other position answer now =>
    simp only [perform] at present
    split at present
    · next request underWay =>
      rcases task?_advance present with old | ⟨rfl, before, there, rfl⟩
      · exact .kept old
      · exact .answered there (by simpa [call?, there] using underWay)
    · exact .kept present
  | proceed other =>
    rcases task?_advance present with old | ⟨rfl, before, there, rfl⟩
    · exact .kept old
    · exact .proceeded there
  | _ => exact .kept present

/-- What holds of a task, and is kept by its answers and by what it does itself, holds of it
whatever happens. -/
theorem kept_perform {kept : Task → Prop} {worker : Worker} (system : System)
    {operation : Operation} {number : Nat}
    (receive : ∀ {position answer now state task}, kept task →
      kept (task.receive worker position answer now state).next)
    (proceed : ∀ {state task}, kept task → kept (task.proceed worker state).next)
    (begun : number < system.next)
    (keeps : ∀ task, system.task? number = some task → kept task) {task : Task}
    (present : (system.perform worker operation).task? number = some task) : kept task := by
  cases becomes_of_task? present with
  | kept old => exact keeps task old
  | answered old _ => exact receive (keeps _ old)
  | proceeded old => exact proceed (keeps _ old)
  | refresh _ => omega
  | _ => exact absurd begun (Nat.lt_irrefl _)

theorem next_le_perform (worker : Worker) (system : System) (operation : Operation) :
    system.next ≤ (system.perform worker operation).next := by
  cases operation with
  | install => simp [perform, install, add, next]
  | fetch request =>
    simp only [perform, fetch]
    split <;> simp [add, next]
  | answer number position answer now =>
    simp only [perform, receive, advance]
    repeat' split
    all_goals simp [next]
  | proceed number =>
    simp only [perform, System.proceed, advance]
    split <;> simp [next]
  | _ => exact Nat.le_refl _

theorem state_advance {system : System} {number : Nat} {step : State → Task → Turn Task}
    {task : Task} (present : system.task? number = some task) :
    (system.advance number step).1.state = (step system.state task).state := by
  simp only [advance, present]

theorem tasks_advance {system : System} {number : Nat} {step : State → Task → Turn Task}
    {task : Task} (present : system.task? number = some task) :
    (system.advance number step).1.tasks =
      system.tasks.set number (step system.state task).next := by
  simp only [advance, present]

theorem state_fetch (worker : Worker) (request : FetchRequest) (system : System) :
    (system.perform worker (.fetch request)).state =
      (Exchange.start worker request system.state).state := by
  simp only [perform, fetch]
  split <;> rfl

/-- The storage changes by opening the current store, by deleting others or the current one where
the cache is cleared, and by storing what the network answers to a task that stores its answers. -/
theorem perform_changes {deletes : String → Prop} {puts : Key → FetchResponse → Prop}
    {worker : Worker} {system : System} {operation : Operation}
    (others : ∀ name, name ≠ worker.version → deletes name)
    (clears : operation.Clears → deletes worker.version)
    (may : ∀ number task, system.task? number = some task → ∀ activation,
      task.activation? = some activation → ∀ name ∈ activation.targets, deletes name)
    (admitted : ∀ number position now task request response,
      operation = .answer number position (.ok response) now →
      system.task? number = some task → task.calls.lookup position = some request →
      task.stores → response.isStorable → puts request.key response) :
    Changes worker.version deletes puts system.state.storage
      (system.perform worker operation).state.storage := by
  cases operation with
  | install => exact Installation.run_changes others system.state fun _ under => by cases under
  | activate => exact activate_changes others system.state
  | fetch request =>
    rw [state_fetch]
    exact Exchange.start_changes worker request system.state
  | message message => exact handle_changes others clears system.state
  | rawMessage raw => exact handleRaw_changes others clears system.state
  | settle => exact .refl _
  | retire => exact .refl _
  | answer number position answer now =>
    simp only [perform]
    split
    · next request underWay =>
      obtain ⟨task, present, asked⟩ := Option.bind_eq_some_iff.mp underWay
      rw [receive, state_advance present]
      refine Task.receive_changes asked fun response stores answered storable => ?_
      subst answered
      exact admitted number position now task request response rfl present asked stores storable
    · exact .refl _
  | proceed number =>
    cases present : system.task? number with
    | some task =>
      rw [perform, System.proceed, state_advance present]
      exact Task.proceed_changes others system.state (may number task present)
    | none =>
      simp only [perform, System.proceed, advance, present]
      exact .refl _

/-- Names and entries evolve whatever is deleted. -/
theorem perform_evolves {allowed : Key → FetchResponse → Prop} (worker : Worker)
    (system : System) (operation : Operation)
    (admitted : ∀ number position now task request response,
      operation = .answer number position (.ok response) now →
      system.task? number = some task → task.calls.lookup position = some request →
      task.stores → response.isStorable → allowed request.key response) :
    Evolves allowed system.state.storage (system.perform worker operation).state.storage := by
  have changes : Changes worker.version (fun _ => True) allowed system.state.storage
      (system.perform worker operation).state.storage :=
    perform_changes (fun _ _ => trivial) (fun _ => trivial) (fun _ _ _ _ _ _ _ => trivial) admitted
  exact changes.evolves

theorem task?_fetch (worker : Worker) (request : FetchRequest) (system : System) :
    (system.perform worker (.fetch request)).task? system.next =
      some (.exchange (Exchange.start worker request system.state).next.1) := by
  simp only [perform, fetch]
  split <;> simp [task?, add, next]

theorem task?_fetch_of_lt {worker : Worker} {request : FetchRequest} {system : System}
    {number : Nat} (begun : number < system.next) :
    (system.perform worker (.fetch request)).task? number = system.task? number := by
  have first : number < (system.tasks ++
      [Task.exchange (Exchange.start worker request system.state).next.1]).length := by
    rw [List.length_append]
    exact Nat.lt_add_right _ begun
  simp only [perform, fetch]
  split
  · exact (List.getElem?_append_left first).trans (List.getElem?_append_left begun)
  · exact List.getElem?_append_left begun

theorem task?_fetch_refresh {worker : Worker} {request : FetchRequest} (system : System)
    {pending : Refresh}
    (begun : (Exchange.start worker request system.state).next.2 = some pending) :
    (system.perform worker (.fetch request)).task? (system.next + 1) = some (.refresh pending) := by
  simp only [perform, fetch, begun]
  simp [task?, add, next]

theorem call?_eq_none {system : System} {number : Nat} (new : system.next ≤ number)
    (position : Nat) : system.call? number position = none := by
  simp [call?, task?, List.getElem?_eq_none new]

theorem mem_asked_of_new {worker : Worker} {system : System} {operation : Operation} {call : Call}
    (new : system.next ≤ call.number) {task : Task}
    (present : (system.perform worker operation).task? call.number = some task)
    (awaited : (call.position, call.request) ∈ task.calls) :
    call ∈ system.asked worker operation := by
  refine List.mem_filter.mpr ⟨mem_calls.mpr ⟨task, present, awaited⟩, ?_⟩
  simp [call?_eq_none new]

/-- Every request that is taken is handed to the network, by its own task or in the background. -/
theorem exists_asked_fetch (worker : Worker) (request : FetchRequest) (system : System) :
    ∃ call ∈ system.asked worker (.fetch request), system.next ≤ call.number ∧
      call.number < (system.perform worker (.fetch request)).next ∧ call.request = request := by
  have taken := task?_fetch worker request system
  obtain ⟨bound, _⟩ := List.getElem?_eq_some_iff.mp taken
  rcases Exchange.start_cases worker request system.state with ⟨_, passes⟩ |
    ⟨_, _, ⟨_, misses⟩ | ⟨response, _, hits⟩⟩
  · rw [passes] at taken
    exact ⟨⟨system.next, 0, request⟩, mem_asked_of_new (Nat.le_refl _) taken
      (List.mem_singleton_self _), Nat.le_refl _, bound, rfl⟩
  · rw [misses] at taken
    exact ⟨⟨system.next, 0, request⟩, mem_asked_of_new (Nat.le_refl _) taken
      (List.mem_singleton_self _), Nat.le_refl _, bound, rfl⟩
  · have begun := task?_fetch_refresh system (congrArg (·.next.2) hits)
    obtain ⟨bound, _⟩ := List.getElem?_eq_some_iff.mp begun
    exact ⟨⟨system.next + 1, 0, request⟩, mem_asked_of_new (Nat.le_succ _) begun
      (List.mem_singleton_self _), Nat.le_succ _, bound, rfl⟩

theorem calls_add (system : System) (task : Task) :
    (system.add task).calls =
      system.calls ++ task.calls.map fun call => ⟨system.next, call.1, call.2⟩ := by
  simp [calls, add, next, List.zipIdx_append]

/-- A request that is taken is handed to the network once, by its own task or, where it was
answered from the cache, by the task after it. -/
theorem calls_fetch (worker : Worker) (request : FetchRequest) (system : System) :
    ∃ number, system.next ≤ number ∧
      (system.fetch worker request).1.calls = system.calls ++ [⟨number, 0, request⟩] := by
  rcases Exchange.start_cases worker request system.state with ⟨_, passes⟩ |
    ⟨_, _, ⟨_, misses⟩ | ⟨response, _, hits⟩⟩
  · refine ⟨system.next, Nat.le_refl _, ?_⟩
    simp only [fetch, passes, Turn.quiet, calls_add]
    rfl
  · refine ⟨system.next, Nat.le_refl _, ?_⟩
    simp only [fetch, misses, Turn.quiet, calls_add]
    rfl
  · refine ⟨system.next + 1, Nat.le_succ _, ?_⟩
    simp only [fetch, hits, calls_add]
    simp [Task.calls, Exchange.call?, add, next, calls]

theorem task?_answer (worker : Worker) {system : System} {number position : Nat}
    {request : FetchRequest} (underWay : system.call? number position = some request)
    (answer : Except Failure FetchResponse) (now : Timestamp) :
    ∃ task, system.task? number = some task ∧ task.calls.lookup position = some request ∧
      (system.perform worker (.answer number position answer now)).task? number =
        some (task.receive worker position answer now system.state).next := by
  obtain ⟨task, present, asked⟩ := Option.bind_eq_some_iff.mp underWay
  refine ⟨task, present, asked, ?_⟩
  simp only [perform, underWay]
  exact task?_advance_self present

/-- With the reply that comes of an answer the answer is seen. -/
theorem answered_of_replied {worker : Worker} {system : System} {number position : Nat}
    {answer : Except Failure FetchResponse} {now : Timestamp} {request : FetchRequest}
    {result : Except Failure Reply}
    (replied : Event.replied request result ∈
      system.events worker (.answer number position answer now)) :
    Event.answered request answer ∈ system.events worker (.answer number position answer now) := by
  have notAsked (calls : List Call) : Event.replied request result ∉ calls.map Event.asked := by
    simp
  refine List.mem_append_left _ ?_
  have given := (List.mem_append.mp replied).resolve_right (notAsked _)
  dsimp only at given ⊢
  split at given
  · have reply := (List.mem_cons.mp given).resolve_left (by simp)
    unfold replies at reply
    split at reply
    · obtain ⟨rfl, _⟩ := Event.replied.inj (List.mem_singleton.mp reply)
      exact List.mem_cons_self ..
    · cases reply
  · cases given

/-- A reply is given at once to a request that is taken, or when the answer to it comes in. -/
theorem replied_cases {worker : Worker} {system : System} {operation : Operation}
    {request : FetchRequest} {result : Except Failure Reply}
    (replied : Event.replied request result ∈ system.events worker operation) :
    operation = .fetch request ∧
        (Exchange.start worker request system.state).next.1 = .ended result ∨
      ∃ number position answer now stage, operation = .answer number position answer now ∧
        system.task? number = some (.exchange stage) ∧ stage.call? = some request ∧
        (stage.receive worker answer now system.state).next = .ended result := by
  have notAsked : Event.replied request result ∉
      (system.asked worker operation).map Event.asked := by simp
  simp only [events, List.mem_append, notAsked, or_false] at replied
  cases operation with
  | fetch other =>
    simp only [replies, task?_fetch] at replied
    split at replied
    · next found ended =>
      obtain ⟨rfl, rfl⟩ := Event.replied.inj (List.mem_singleton.mp replied)
      exact Or.inl ⟨rfl, Task.exchange.inj (Option.some.inj ended)⟩
    · simp at replied
  | answer number position answer now =>
    cases underWay : system.call? number position with
    | none => simp [underWay] at replied
    | some asked =>
      obtain ⟨task, present, called, after⟩ := task?_answer worker underWay answer now
      simp only [underWay, replies, after, List.mem_cons, reduceCtorEq, false_or] at replied
      split at replied
      · next found ended =>
        obtain ⟨rfl, rfl⟩ := Event.replied.inj (List.mem_singleton.mp replied)
        refine Or.inr ⟨number, position, answer, now, ?_⟩
        cases task with
        | exchange stage =>
          refine ⟨stage, rfl, present, ?_, Task.exchange.inj (Option.some.inj ended)⟩
          have underWay := Task.mem_calls_of_lookup called
          simp only [Task.calls, Option.mem_toList, Option.map_eq_some_iff] at underWay
          obtain ⟨asked, same, equal⟩ := underWay
          rw [same, (Prod.mk.inj equal).2]
        | _ => cases Option.some.inj ended
      · simp at replied
  | _ => simp at replied

/-- How a reply was come by. -/
inductive Obtained (worker : Worker) (system : System) (operation : Operation)
    (request : FetchRequest) : Reply → Prop
  | stored {response : FetchResponse}
      (found : system.state.storage.matchRequest request.key = some response) :
      Obtained worker system operation request ⟨.cache, response⟩
  | fetched {response : FetchResponse}
      (answered : .answered request (.ok response) ∈ system.events worker operation) :
      Obtained worker system operation request ⟨.network, response⟩
  | stoodIn {url : Url} {response : FetchResponse}
      (joined : worker.urlFor worker.config.offlineFallback = .ok url)
      (found : system.state.storage.matchRequest (.get url) = some response) :
      Obtained worker system operation request ⟨.fallback, response⟩

theorem obtained_of_replied {worker : Worker} {system : System} {operation : Operation}
    {request : FetchRequest} {reply : Reply}
    (replied : .replied request (.ok reply) ∈ system.events worker operation) :
    Obtained worker system operation request reply := by
  obtain ⟨source, response⟩ := reply
  rcases replied_cases replied with ⟨_, ended⟩ |
    ⟨number, position, answer, now, stage, rfl, _, underWay, ended⟩
  · rcases Exchange.start_cases worker request system.state with ⟨_, passes⟩ |
      ⟨_, _, ⟨_, misses⟩ | ⟨stored, found, hits⟩⟩
    · rw [passes] at ended
      cases ended
    · rw [misses] at ended
      cases ended
    · rw [hits] at ended
      cases ended
      exact .stored found
  · rcases Exchange.reply_cases underWay ended with ⟨rfl, rfl⟩ | ⟨rfl, _, page⟩
    · exact .fetched (answered_of_replied replied)
    · unfold fallbackPage? at page
      split at page
      · next url joined => exact .stoodIn joined page
      · cases page

end System

structure Run where
  system : System
  history : List Event

namespace Run

def next (worker : Worker) (run : Run) (operation : Operation) : Run :=
  ⟨run.system.perform worker operation, run.history ++ run.system.events worker operation⟩

/-- The run of a new worker over a storage. -/
def of (worker : Worker) (storage : Cache.Storage) (operations : List Operation) : Run :=
  operations.foldl (next worker) ⟨.initial storage, []⟩

/-- What every operation of a run keeps holds of the run. -/
theorem of_induction_mem {worker : Worker} {storage : Cache.Storage} {motive : Run → Prop}
    {operations : List Operation} (start : motive ⟨.initial storage, []⟩)
    (step : ∀ run, ∀ operation ∈ operations, motive run → motive (run.next worker operation)) :
    motive (of worker storage operations) := by
  suffices onward : ∀ run, motive run → motive (operations.foldl (next worker) run) from
    onward _ start
  induction operations with
  | nil => exact fun _ holds => holds
  | cons operation rest ih =>
    intro run holds
    exact ih (fun run later listed => step run later (List.mem_cons_of_mem _ listed)) _
      (step run operation (List.mem_cons_self ..) holds)

theorem of_induction {worker : Worker} {storage : Cache.Storage} {motive : Run → Prop}
    (start : motive ⟨.initial storage, []⟩)
    (step : ∀ run operation, motive run → motive (run.next worker operation))
    (operations : List Operation) : motive (of worker storage operations) :=
  of_induction_mem start fun run operation _ => step run operation

end Run

end OfflineSite.Worker
