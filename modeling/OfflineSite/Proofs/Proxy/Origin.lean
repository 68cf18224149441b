import OfflineSite.Proofs.Worker.Run
import OfflineSite.Proxy.Routing

namespace OfflineSite

theorem Url.sameOrigin_iff {url other : Url} :
    url.sameOrigin other ↔ ∃ origin, url.origin? = some origin ∧ other.origin? = some origin := by
  unfold Url.sameOrigin
  split
  · next a b one two =>
    rw [beq_iff_eq]
    constructor
    · rintro rfl
      exact ⟨a, one, two⟩
    · rintro ⟨origin, same, sameToo⟩
      exact Option.some.inj ((one.symm.trans same).trans (two.symm.trans sameToo).symm)
  · next none =>
    constructor
    · exact nofun
    · rintro ⟨origin, one, two⟩
      exact absurd two (none origin origin one)

namespace Proxy

open Worker (Operation System Task)

/-- What a request to the proxy makes the worker do. -/
def operation? (worker : Worker) (request : Http.Request) : Option Operation :=
  match decide worker request with
  | .refuse _ _ => none
  | .message message => some (.message message)
  | .fetch request => some (.fetch request)

theorem sameOrigin_of_decideFetch {worker : Worker} {request : Http.Request}
    {fetch : FetchRequest} (decided : decideFetch worker request = .fetch fetch) :
    fetch.url.sameOrigin worker.origin := by
  unfold decideFetch at decided
  split at decided
  · cases decided
  · next url joined =>
    split at decided
    · next same =>
      obtain rfl := Decision.fetch.inj decided
      exact same
    · cases decided

theorem sameOrigin_of_decide {worker : Worker} {request : Http.Request} {fetch : FetchRequest}
    (decided : decide worker request = .fetch fetch) : fetch.url.sameOrigin worker.origin := by
  unfold decide at decided
  split at decided
  · cases decided
  · split at decided
    · cases decided
    · split at decided
      · unfold decideMessage at decided
        split at decided <;> cases decided
      · exact sameOrigin_of_decideFetch decided

theorem operation?_cases {worker : Worker} {request : Http.Request} {operation : Operation}
    (makes : operation? worker request = some operation) :
    (∃ message, operation = .message message) ∨
      ∃ fetch, operation = .fetch fetch ∧ fetch.url.sameOrigin worker.origin := by
  unfold operation? at makes
  split at makes
  · cases makes
  · next message _ => exact Or.inl ⟨message, (Option.some.inj makes).symm⟩
  · next fetch decided =>
    exact Or.inr ⟨fetch, (Option.some.inj makes).symm, sameOrigin_of_decide decided⟩

/-- What may happen next to a worker behind a proxy. -/
inductive Happening where
  /-- A client sends a request. -/
  | request (request : Http.Request)
  /-- Anything else: what the host does, what the network answers, how tasks go on. -/
  | apart (operation : Operation)

/-- A worker behind a proxy, and what came of the requests of clients. -/
structure Traffic where
  system : System
  /-- The numbers of the tasks that the requests began. -/
  begun : List Nat
  /-- What these tasks handed to the network. -/
  handed : List FetchRequest

namespace Traffic

/-- A worker, whatever it does already, before the first request of a client. -/
def initial (system : System) : Traffic := ⟨system, [], []⟩

def started (worker : Worker) (system : System) (operation : Operation) : List Nat :=
  List.range' system.next ((system.perform worker operation).next - system.next)

/-- Performs an operation, `begun` being the tasks that requests have begun with it. -/
def perform (worker : Worker) (traffic : Traffic) (operation : Operation) (begun : List Nat) :
    Traffic where
  system := traffic.system.perform worker operation
  begun := begun
  handed := traffic.handed ++
    ((traffic.system.asked worker operation).filter (begun.contains ·.number)).map (·.request)

def next (worker : Worker) (traffic : Traffic) : Happening → Traffic
  | .request request =>
    match operation? worker request with
    | some operation =>
      traffic.perform worker operation
        (traffic.begun ++ started worker traffic.system operation)
    | none => traffic
  | .apart operation => traffic.perform worker operation traffic.begun

def after (worker : Worker) (traffic : Traffic) (happenings : List Happening) : Traffic :=
  happenings.foldl (next worker) traffic

/-- A request that the proxy lets through is handed to the network. -/
theorem mem_handed {worker : Worker} {request : Http.Request} {fetch : FetchRequest}
    (makes : operation? worker request = some (.fetch fetch)) (traffic : Traffic) :
    fetch ∈ (traffic.next worker (.request request)).handed := by
  obtain ⟨call, asked, new, bound, rfl⟩ :=
    System.exists_asked_fetch worker fetch traffic.system
  simp only [next, makes, perform]
  refine List.mem_append_right _ (List.mem_map_of_mem (List.mem_filter.mpr ⟨asked, ?_⟩))
  have listed : call.number ∈ started worker traffic.system (.fetch call.request) :=
    List.mem_range'_1.mpr ⟨new, by omega⟩
  simp [listed]

end Traffic

/-- A task that is no installation and fetches from one origin only. -/
structure KeepsToOrigin (worker : Worker) (task : Task) : Prop where
  noInstallation (stage : Worker.Installation) : task ≠ .installation stage
  calls {position : Nat} {request : FetchRequest} (asked : (position, request) ∈ task.calls) :
    request.url.sameOrigin worker.origin

theorem KeepsToOrigin.receive {worker : Worker} {position : Nat}
    {answer : Except Failure FetchResponse} {now : Timestamp} {state : Worker.State} {task : Task}
    (keeps : KeepsToOrigin worker task) :
    KeepsToOrigin worker (task.receive worker position answer now state).next where
  noInstallation stage := by
    cases task with
    | installation stage => exact absurd rfl (keeps.noInstallation stage)
    | _ =>
      intro same
      cases same
  calls asked := keeps.calls (Task.mem_calls_receive asked)

theorem KeepsToOrigin.proceed {worker : Worker} {state : Worker.State} {task : Task}
    (keeps : KeepsToOrigin worker task) :
    KeepsToOrigin worker (task.proceed worker state).next := by
  cases task with
  | installation stage => exact absurd rfl (keeps.noInstallation stage)
  | _ => exact keeps

/-- Traffic in which the requests of clients led to no other origin so far. -/
structure OnOrigin (worker : Worker) (traffic : Traffic) : Prop where
  begun {number : Nat} (listed : number ∈ traffic.begun) : number < traffic.system.next
  keeps {number : Nat} {task : Task} (listed : number ∈ traffic.begun)
    (present : traffic.system.task? number = some task) : KeepsToOrigin worker task
  handed {request : FetchRequest} (listed : request ∈ traffic.handed) :
    request.url.sameOrigin worker.origin

theorem keepsToOrigin_perform {worker : Worker} {system : System} {operation : Operation}
    {number : Nat} (old : number < system.next)
    (keeps : ∀ task, system.task? number = some task → KeepsToOrigin worker task) {task : Task}
    (present : (system.perform worker operation).task? number = some task) :
    KeepsToOrigin worker task := by
  cases System.becomes_of_task? present with
  | kept there => exact keeps task there
  | answered there _ => exact (keeps _ there).receive
  | proceeded there => exact (keeps _ there).proceed
  | refresh _ => omega
  | _ => exact absurd old (Nat.lt_irrefl _)

theorem keepsToOrigin_started {worker : Worker} {system : System} {request : Http.Request}
    {operation : Operation} (makes : operation? worker request = some operation) {number : Nat}
    (new : system.next ≤ number) {task : Task}
    (present : (system.perform worker operation).task? number = some task) :
    KeepsToOrigin worker task := by
  have absent {task : Task} : system.task? number ≠ some task := by
    simp [System.task?, List.getElem?_eq_none new]
  have fetches : ∀ fetch, operation = .fetch fetch → fetch.url.sameOrigin worker.origin := by
    rintro fetch rfl
    rcases operation?_cases makes with ⟨_, other⟩ | ⟨_, same, onOrigin⟩
    · cases other
    · cases same
      exact onOrigin
  cases System.becomes_of_task? present with
  | kept there => exact absurd there absent
  | answered there _ => exact absurd there absent
  | proceeded there => exact absurd there absent
  | installation => rcases operation?_cases makes with ⟨_, other⟩ | ⟨_, other, _⟩ <;> cases other
  | exchange fetch =>
    refine ⟨fun _ => by simp, fun asked => ?_⟩
    obtain rfl : _ = fetch := Task.request_of_calls_start asked
    exact fetches _ rfl
  | @refresh fetch pending begun =>
    refine ⟨fun _ => by simp, fun asked => ?_⟩
    obtain rfl := (Prod.mk.inj (List.mem_singleton.mp asked)).2
    rw [(Worker.Exchange.request_of_start begun).1]
    exact fetches fetch rfl

theorem OnOrigin.perform {worker : Worker} {traffic : Traffic} (onOrigin : OnOrigin worker traffic)
    (operation : Operation) {begun : List Nat}
    (keeps : ∀ number ∈ begun, number < (traffic.system.perform worker operation).next ∧
      ∀ task, (traffic.system.perform worker operation).task? number = some task →
        KeepsToOrigin worker task) :
    OnOrigin worker (traffic.perform worker operation begun) where
  begun listed := (keeps _ listed).1
  keeps listed present := (keeps _ listed).2 _ present
  handed listed := by
    rcases List.mem_append.mp listed with old | new
    · exact onOrigin.handed old
    · obtain ⟨call, asked, rfl⟩ := List.mem_map.mp new
      obtain ⟨handed, listed⟩ := List.mem_filter.mp asked
      obtain ⟨task, present, awaited⟩ := System.mem_calls.mp (List.mem_filter.mp handed).1
      exact ((keeps call.number (by simpa using listed)).2 task present).calls awaited

theorem OnOrigin.next {worker : Worker} {traffic : Traffic} (onOrigin : OnOrigin worker traffic)
    (happening : Happening) : OnOrigin worker (traffic.next worker happening) := by
  have old (operation : Operation) : ∀ number ∈ traffic.begun,
      number < (traffic.system.perform worker operation).next ∧
        ∀ task, (traffic.system.perform worker operation).task? number = some task →
          KeepsToOrigin worker task := by
    intro number listed
    have bound := onOrigin.begun listed
    refine ⟨Nat.lt_of_lt_of_le bound (System.next_le_perform worker _ operation), ?_⟩
    intro task present
    exact keepsToOrigin_perform bound (fun _ there => onOrigin.keeps listed there) present
  cases happening with
  | apart operation => exact onOrigin.perform operation (old operation)
  | request request =>
    simp only [Traffic.next]
    split
    · next operation makes =>
      refine onOrigin.perform operation fun number listed => ?_
      rcases List.mem_append.mp listed with before | new
      · exact old operation number before
      · obtain ⟨new, bound⟩ := List.mem_range'_1.mp new
        exact ⟨by omega, fun _ present => keepsToOrigin_started makes new present⟩
    · exact onOrigin

theorem Traffic.onOrigin (worker : Worker) (system : System) (happenings : List Happening) :
    OnOrigin worker ((initial system).after worker happenings) := by
  suffices onward : ∀ traffic, OnOrigin worker traffic →
      OnOrigin worker (traffic.after worker happenings) from
    onward _ ⟨nofun, nofun, nofun⟩
  induction happenings with
  | nil => exact fun _ holds => holds
  | cons happening rest ih => exact fun traffic holds => ih _ (holds.next happening)

/-- Whatever clients ask a proxy for and whatever else happens to its worker, all that the network
is asked for on their account is of the worker's origin; and if that is none, it is asked for
nothing. -/
theorem handed_on_origin (worker : Worker) (system : System) (happenings : List Happening) :
    let traffic := (Traffic.initial system).after worker happenings
    (∀ request ∈ traffic.handed, request.url.origin? = worker.origin.origin?) ∧
      (worker.origin.origin? = none → traffic.handed = []) := by
  intro traffic
  have onOrigin : OnOrigin worker traffic := Traffic.onOrigin worker system happenings
  refine ⟨fun request listed => ?_, fun opaqueOrigin => ?_⟩
  · obtain ⟨origin, one, two⟩ := Url.sameOrigin_iff.mp (onOrigin.handed listed)
    rw [one, two]
  · refine List.eq_nil_iff_forall_not_mem.mpr fun request listed => ?_
    obtain ⟨origin, _, present⟩ := Url.sameOrigin_iff.mp (onOrigin.handed listed)
    rw [opaqueOrigin] at present
    cases present

end Proxy

end OfflineSite
