import OfflineSite.Proofs.Worker.Run

namespace OfflineSite.Worker

open Cache (Key Storage)

/-- An answer with status 200 that the network gave to a `GET` for a URL that is that of the key up
to its fragment. -/
def Fetched (history : List Event) (key : Key) (response : FetchResponse) : Prop :=
  key.method = "GET" ∧ response.status = 200 ∧
    ∃ request, .answered request (.ok response) ∈ history ∧ request.method = "GET" ∧
      request.url.withoutFragment.text = key.url

/-- A response that an entry under the key held at the start, or that was fetched for the key. -/
def Vouched (storage : Storage) (history : List Event) (key : Key) (response : FetchResponse) :
    Prop :=
  (∃ name entry, storage.held? name key = some entry ∧ entry.response = response) ∨
    Fetched history key response

theorem Fetched.append {history : List Event} {key : Key} {response : FetchResponse}
    (fetched : Fetched history key response) (later : List Event) :
    Fetched (history ++ later) key response := by
  obtain ⟨get, status, request, answered, method, url⟩ := fetched
  exact ⟨get, status, request, List.mem_append_left later answered, method, url⟩

/-- A task that asks only for what may be stored, if it stores its answers at all. -/
def Task.GetsOnly (task : Task) : Prop :=
  task.stores → ∀ call ∈ task.calls, call.2.method = "GET"

theorem method_of_isCacheable {request : FetchRequest} (cacheable : request.isCacheable) :
    request.method = "GET" := by
  simp only [FetchRequest.isCacheable, Bool.and_eq_true, beq_iff_eq] at cacheable
  exact cacheable.1

theorem Precached.method {worker : Worker} {request : FetchRequest}
    (precached : Precached worker request) : request.method = "GET" := by
  cases precached
  rfl

/-- The state of a run in which every entry is accounted for. -/
structure Sound (storage : Storage) (run : Run) : Prop where
  evolves : Storage.Evolves (Fetched run.history) storage run.system.state.storage
  getsOnly {number : Nat} {task : Task} (present : run.system.task? number = some task) :
    task.GetsOnly

theorem Task.GetsOnly.receive {worker : Worker} {position : Nat}
    {answer : Except Failure FetchResponse} {now : Timestamp} {state : State} {task : Task}
    (before : task.GetsOnly) : (task.receive worker position answer now state).next.GetsOnly := by
  intro _ call asked
  have underWay := Task.mem_calls_receive asked
  cases task with
  | exchange stage =>
    simp only [Task.receive, Turn.map, Task.calls, Exchange.call?_receive] at asked
    simp at asked
  | _ => exact before rfl call underWay

theorem Task.GetsOnly.proceed {worker : Worker} {state : State} {task : Task}
    (before : task.GetsOnly) : (task.proceed worker state).next.GetsOnly := by
  cases task with
  | installation stage =>
    intro _ call asked
    rcases Task.mem_calls_proceed asked with underWay | precached
    · exact before rfl call underWay
    · exact precached.method
  | _ => exact before

theorem getsOnly_starting : (Task.installation .starting).GetsOnly := by
  intro _ call asked
  simp [Task.calls, Installation.calls] at asked

theorem getsOnly_exchange (worker : Worker) (request : FetchRequest) (state : State) :
    (Task.exchange (Exchange.start worker request state).next.1).GetsOnly := by
  intro stores call asked
  rcases Exchange.start_cases worker request state with ⟨_, passes⟩ |
    ⟨_, cacheable, ⟨_, misses⟩ | ⟨_, _, hits⟩⟩
  · rw [passes] at stores
    cases stores
  · rw [misses] at asked
    obtain rfl := List.mem_singleton.mp asked
    exact method_of_isCacheable cacheable
  · rw [hits] at asked
    cases asked

theorem getsOnly_refresh {worker : Worker} {request : FetchRequest} {state : State}
    {pending : Refresh} (begun : (Exchange.start worker request state).next.2 = some pending) :
    (Task.refresh pending).GetsOnly := by
  intro _ call asked
  obtain ⟨rfl, cacheable⟩ := Exchange.request_of_start begun
  obtain rfl := List.mem_singleton.mp asked
  exact method_of_isCacheable cacheable

theorem Sound.start (storage : Storage) : Sound storage ⟨.initial storage, []⟩ where
  evolves := .refl storage
  getsOnly present := by simp [System.task?, System.initial] at present

theorem Sound.next {worker : Worker} {storage : Storage} {run : Run} (sound : Sound storage run)
    (operation : Operation) : Sound storage (run.next worker operation) where
  evolves := by
    have before := sound.evolves.mono fun key response fetched =>
      fetched.append (run.system.events worker operation)
    refine before.trans (System.perform_evolves worker run.system operation ?_)
    intro number position now task request response answers present asked stores storable
    subst answers
    have called := Task.mem_calls_of_lookup asked
    have method : request.method = "GET" := sound.getsOnly present stores _ called
    have underWay : run.system.call? number position = some request := by
      simp only [System.call?, present, Option.bind_some, asked]
    refine ⟨method, FetchResponse.isStorable_iff.mp storable, request, ?_, method, rfl⟩
    simp [System.events, underWay]
  getsOnly present := by
    cases System.becomes_of_task? present with
    | kept old => exact sound.getsOnly old
    | answered old _ => exact (sound.getsOnly old).receive
    | proceeded old => exact (sound.getsOnly old).proceed
    | installation => exact getsOnly_starting.proceed
    | exchange request => exact getsOnly_exchange worker request run.system.state
    | refresh begun => exact getsOnly_refresh begun

theorem Run.sound (worker : Worker) (storage : Storage) (operations : List Operation) :
    Sound storage (.of worker storage operations) :=
  of_induction (.start storage) (fun _ operation sound => sound.next operation) operations

theorem Sound.vouched_of_matchRequest {storage : Storage} {run : Run} (sound : Sound storage run)
    {key : Key} {response : FetchResponse}
    (found : run.system.state.storage.matchRequest key = some response) :
    Vouched storage run.history key response := by
  obtain ⟨name, entry, held, rfl⟩ := Storage.exists_held_of_matchRequest found
  rcases sound.evolves.held_or_allowed held with old | fetched
  · exact Or.inl ⟨name, entry, old, rfl⟩
  · exact Or.inr fetched

theorem vouched_of_start {worker : Worker} {storage : Storage} {run : Run}
    (sound : Sound storage run) {request : FetchRequest} {reply : Reply}
    (ended : (Exchange.start worker request run.system.state).next.1 = .ended (.ok reply)) :
    reply.source = .cache ∧ Vouched storage run.history request.key reply.response := by
  rcases Exchange.start_cases worker request run.system.state with ⟨_, passes⟩ |
    ⟨_, _, ⟨_, misses⟩ | ⟨response, found, hits⟩⟩
  · rw [passes] at ended
    cases ended
  · rw [misses] at ended
    cases ended
  · rw [hits] at ended
    cases ended
    exact ⟨rfl, sound.vouched_of_matchRequest found⟩

theorem reply_of_receive {worker : Worker} {stage : Exchange}
    {answer : Except Failure FetchResponse} {now : Timestamp} {state : State} {reply : Reply}
    {request : FetchRequest} (underWay : stage.call? = some request)
    (ended : (stage.receive worker answer now state).next = .ended (.ok reply)) :
    reply.source = .network ∨
      reply.source = .fallback ∧ worker.fallbackPage? state = some reply.response := by
  rcases Exchange.reply_cases underWay ended with ⟨network, _⟩ | ⟨fallback, _, page⟩
  · exact Or.inl network
  · exact Or.inr ⟨fallback, page⟩

/-- Throughout every run each entry of the storage was there under its name and key at the start, or
is an answer with status 200 that the network gave to a `GET` for its key; and what is served from
the storage, as the stored response or as the fallback page, is such an entry for its key. -/
theorem cache_sound (worker : Worker) (storage : Storage) (operations : List Operation) :
    let run := Run.of worker storage operations
    (∀ name key entry, run.system.state.storage.held? name key = some entry →
      storage.held? name key = some entry ∨ Fetched run.history key entry.response) ∧
    ∀ operation request reply,
      Event.replied request (.ok reply) ∈ run.system.events worker operation →
      (reply.source = .cache → Vouched storage run.history request.key reply.response) ∧
      (reply.source = .fallback → ∃ url,
        worker.urlFor worker.config.offlineFallback = .ok url ∧
          Vouched storage run.history (.get url) reply.response) := by
  intro run
  have sound : Sound storage run := Run.sound worker storage operations
  refine ⟨fun name key entry held => sound.evolves.held_or_allowed held, ?_⟩
  intro operation request reply replied
  rcases System.replied_cases replied with ⟨_, ended⟩ |
    ⟨number, position, answer, now, stage, _, _, underWay, ended⟩
  · obtain ⟨source, vouched⟩ := vouched_of_start sound ended
    exact ⟨fun _ => vouched, fun fallback => by simp [source] at fallback⟩
  · rcases reply_of_receive underWay ended with network | ⟨fallback, page⟩
    · exact ⟨fun cache => by simp [network] at cache, fun fallback => by simp [network] at fallback⟩
    · refine ⟨fun cache => by simp [fallback] at cache, fun _ => ?_⟩
      unfold fallbackPage? at page
      split at page
      · next url joined => exact ⟨url, joined, sound.vouched_of_matchRequest page⟩
      · cases page

end OfflineSite.Worker
