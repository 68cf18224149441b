import OfflineSite.Worker.Basic

namespace OfflineSite.Worker

/-- Where the answer to a request stands. Stored responses are served at once and fetched again in
the background; what is not stored comes from the network and is stored; when the network fails, a
stored document stands in for a navigation. -/
inductive Exchange where
  /-- The network's answer is awaited and will be handed on. -/
  | passing (request : FetchRequest)
  /-- The network's answer is awaited and may be stored. -/
  | missing (request : FetchRequest)
  | ended (result : Except Failure Reply)

/-- A fetch in the background, for the store that was current when the stored response was
served. -/
structure Refresh where
  store : Cache.Handle
  request : FetchRequest

/-- Takes in the network's answer to a background fetch. -/
def Refresh.receive (refresh : Refresh) (answer : Except Failure FetchResponse) (now : Timestamp)
    (state : State) : Turn Unit :=
  let key := refresh.request.key
  match answer with
  | .ok response =>
    if response.isStorable then
      .quiet () { state with storage := state.storage.put refresh.store key response now }
    else ⟨(), state, [.refreshAnswered key.url response.status]⟩
  | .error cause => ⟨(), state, [.refreshFailed key.url cause]⟩

/-- The stored document that stands in for a navigation. -/
def fallbackPage? (worker : Worker) (state : State) : Option FetchResponse :=
  match worker.urlFor worker.config.offlineFallback with
  | .ok url => state.storage.matchRequest (.get url)
  | .error _ => none

namespace Exchange

/-- Takes a request: where its answer stands then, and the fetch to make in the background. -/
def start (worker : Worker) (request : FetchRequest) (state : State) :
    Turn (Exchange × Option Refresh) :=
  if state.phase ≠ .activated ∨ !request.isCacheable then .quiet (passing request, none) state
  else match state.storage.matchRequest request.key with
    | some response =>
      let (store, state) := worker.openCurrent state
      ⟨(ended (.ok ⟨.cache, response⟩), some ⟨store, request⟩), state, [.hit request.key.url]⟩
    | none => .quiet (missing request, none) state

/-- The request whose answer is awaited. -/
def call? : Exchange → Option FetchRequest
  | passing request => some request
  | missing request => some request
  | ended _ => none

/-- Takes in the network's answer. -/
def receive (worker : Worker) (answer : Except Failure FetchResponse) (now : Timestamp)
    (state : State) : Exchange → Turn Exchange
  | passing _ => .quiet (ended (answer.map (⟨.network, ·⟩))) state
  | missing request =>
    match answer with
    | .ok response =>
      if response.isStorable then
        let (store, state) := worker.openCurrent state
        .quiet (ended (.ok ⟨.network, response⟩))
          { state with storage := state.storage.put store request.key response now }
      else .quiet (ended (.ok ⟨.network, response⟩)) state
    | .error cause =>
      if request.destination = .document then
        match worker.fallbackPage? state with
        | some page =>
          ⟨ended (.ok ⟨.fallback, page⟩), state, [.fallbackServed request.key.url]⟩
        | none => .quiet (ended (.error cause)) state
      else .quiet (ended (.error cause)) state
  | ended result => .quiet (ended result) state

/-- The reply, once there is one. -/
def result? : Exchange → Option (Except Failure Reply)
  | ended result => some result
  | _ => none

end Exchange

end OfflineSite.Worker
