import OfflineSite.Proxy.Reception
import OfflineSite.Proxy.Relay

namespace OfflineSite.Rehearsal

/-- What the scripted network has under a URL. -/
inductive Page where
  | respond (response : FetchResponse)
  | fail (reason : String)

/-- A fetch that is held at the gate: its task, its position there, and what it asks for. -/
structure Call where
  task : Nat
  position : Nat
  request : FetchRequest

/-- A network that is scripted. While its gate is shut, fetches queue up in order of arrival, and
each is answered by what the script says when it is let through. -/
structure Network where
  pages : List (String × Page)
  online : Bool
  /-- Whether the gate is shut. -/
  held : Bool
  queue : List Call

/-- The response to a URL that has no page. -/
def noPage : FetchResponse := ⟨404, [], "<h1>404 - Not Found</h1>".toUTF8⟩

/-- What the network answers. The whole URL counts, its fragment too; nothing else does. -/
def Network.answer (network : Network) (request : FetchRequest) : Except Failure FetchResponse :=
  if network.online then
    match network.pages.lookup request.url.text with
    | some (.respond response) => .ok response
    | some (.fail reason) => .error (.io (.described reason))
    | none => .ok noPage
  else .error (.io (.described "offline"))

/-- A store to be filled, with its entries in the order in which they are put. -/
structure Seed where
  store : String
  entries : List (Cache.Key × FetchResponse)

/-- One step of a script. -/
inductive Step where
  | install
  | activate
  | retire
  | settle
  | fetch (request : Except Failure FetchRequest)
  | fetchPath (path : String) (request : Url → FetchRequest)
  | http (request : Http.Request)
  | message (message : ControlMessage)
  | rawMessage (raw : ByteArray)
  | urlFor (path : String)
  | lookUp (key : Except Failure Cache.Key)
  | seed (seeds : List Seed)
  | drop (name : String)
  | page (url : String) (page : Page)
  | online (value : Bool)
  | hold
  | release
  | openGate
  /-- Asks for the result of an earlier step. -/
  | finish (step : Nat)

/-- What a step came to. -/
inductive Result where
  | nothing
  | report (report : Worker.InstallReport)
  | names (names : List String)
  | reply (result : Except Failure Worker.Reply)
  | response (response : Http.Response)
  | url (url : Url)
  | stored (response : Option FetchResponse)
  | truth (value : Bool)
  | count (number : Nat)
  | failed (cause : Failure)

/-- What is done with the outcome of a task. -/
inductive Watch where
  | report
  | reply
  /-- The reply goes through the proxy, in answer to a method and a target. -/
  | proxied (method target : String)

structure Stage where
  worker : Worker
  system : Worker.System
  network : Network
  /-- The steps that wait for a task, with the number of the task. -/
  watches : List (Nat × Nat × Watch)
  /-- The steps that wait for the fetches in the background. -/
  settling : List Nat
  /-- The results of the steps that are done. -/
  results : List (Nat × Result)
  /-- How many steps were taken. -/
  taken : Nat
  /-- The fetches that arrived in this step. -/
  arrived : List FetchRequest
  /-- What was logged in this step. -/
  log : List LogRecord

abbrev Play := StateM Stage

/-- The time of everything that happens. -/
abbrev Clock := Timestamp

def note (records : List LogRecord) : Play Unit :=
  modify fun stage => { stage with log := stage.log ++ records }

def noteWorker (notices : List Worker.Notice) : Play Unit := note (notices.map (·.record))

def record (step : Nat) (result : Result) : Play Unit :=
  modify fun stage => { stage with results := (step, result) :: stage.results }

/-- The outcome of a task, if it has one, as its watch shows it. -/
def outcome? (task : Worker.Task) (watch : Watch) : Option (Result × List LogRecord) :=
  match task, watch with
  | .installation stage, .report => stage.result?.map fun report => (.report report, [])
  | .exchange stage, .reply => stage.result?.map fun result => (.reply result, [])
  | .exchange stage, .proxied method target =>
    stage.result?.map fun result =>
      let (response, notices) := Proxy.answer target result
      (.response (response.framed method), notices.map (·.record))
  | _, _ => none

/-- Records the outcome of a task for the step that waits for it. -/
def conclude (number : Nat) : Play Unit := do
  let stage ← get
  match stage.watches.lookup number, stage.system.task? number with
  | some (step, watch), some task =>
    match outcome? task watch with
    | some (result, records) =>
      note records
      record step result
      modify fun stage => { stage with watches := stage.watches.filter (·.1 != number) }
    | none => return
  | _, _ => return

/-- Answers a fetch by what the network says now. -/
def deliver (clock : Clock) (call : Call) : Play Unit := do
  let stage ← get
  let (system, notices) := stage.system.deliver stage.worker call.task call.position
    (stage.network.answer call.request) clock
  set { stage with system }
  noteWorker notices
  conclude call.task

/-- Lets a fetch arrive at the network. -/
def arrive (clock : Clock) (call : Call) : Play Unit := do
  modify fun stage => { stage with arrived := stage.arrived ++ [call.request] }
  if (← get).network.held then
    modify fun stage =>
      { stage with network := { stage.network with queue := stage.network.queue ++ [call] } }
  else deliver clock call

/-- Lets the fetches of a new task arrive, and records its outcome if it needs none. -/
def attend (clock : Clock) (number : Nat) : Play Unit := do
  match (← get).system.task? number with
  | some task =>
    conclude number
    task.calls.forM fun (position, request) => arrive clock ⟨number, position, request⟩
  | none => return

/-- Records that the fetches in the background are done, for the steps that wait for that. -/
def settle : Play Unit := do
  let stage ← get
  if !stage.system.isRefreshing then
    stage.settling.forM fun step => record step .nothing
    modify fun stage => { stage with settling := [] }

/-- Lets the oldest fetch at the gate through. -/
def release (clock : Clock) : Play Bool := do
  match (← get).network.queue with
  | [] => return false
  | call :: queue =>
    modify fun stage => { stage with network := { stage.network with queue } }
    deliver clock call
    settle
    return true

/-- Goes on with a system that may have new tasks, the first of which is watched for a step. -/
def follow (clock : Clock) (step : Nat) (watch : Watch) (system : Worker.System)
    (records : List LogRecord) : Play Unit := do
  let stage ← get
  let first := stage.system.next
  set { stage with system, watches := (first, step, watch) :: stage.watches }
  note records
  (List.range (system.next - first)).forM fun offset => attend clock (first + offset)

/-- Begins tasks and attends to them. -/
def begin (clock : Clock) (step : Nat) (watch : Watch)
    (start : Worker.System → Worker.System × List Worker.Notice) : Play Unit := do
  let (system, notices) := start (← get).system
  follow clock step watch system (notices.map (·.record))

/-- Does something that waits for nothing. -/
def act {α : Type} (turn : Worker → Worker.State → Worker.Turn α) : Play α := do
  let stage ← get
  let (result, system, notices) := stage.system.act (turn stage.worker)
  set { stage with system }
  noteWorker notices
  return result

def onStorage (change : Cache.Storage → Cache.Storage) : Play Unit :=
  act fun _ state => .quiet () { state with storage := change state.storage }

def onNetwork (change : Network → Network) : Play Unit :=
  modify fun stage => { stage with network := change stage.network }

/-- Opens a store and fills it. -/
def plant (clock : Clock) (storage : Cache.Storage) (seed : Seed) : Cache.Storage :=
  let (handle, storage) := storage.openStore seed.store
  seed.entries.foldl (fun storage (key, response) => storage.put handle key response clock) storage

/-- Answers a request to the proxy. -/
def serve (clock : Clock) (step : Nat) (request : Http.Request) : Play Unit := do
  let stage ← get
  let reception := Proxy.receive stage.worker request stage.system
  match reception.response? with
  | some response =>
    set { stage with system := reception.system }
    note reception.log
    record step (.response (response.framed request.method))
  | none =>
    follow clock step (.proxied request.method request.target.text) reception.system
      reception.log

/-- Fetches a request, or records why there is none. -/
def fetch (clock : Clock) (step : Nat) (request : Except Failure FetchRequest) : Play Unit := do
  match request with
  | .ok request =>
    let worker := (← get).worker
    begin clock step .reply (·.fetch worker request)
  | .error cause => record step (.failed cause)

/-- Takes a step. It may leave no result, if it has to wait for the network. -/
def perform (clock : Clock) (number : Nat) (step : Step) : Play Unit := do
  let worker := (← get).worker
  match step with
  | .install => begin clock number .report (·.install worker)
  | .activate => record number (.names (← act fun worker state => worker.activate state))
  | .retire => act (·.retire); record number .nothing
  | .settle => modify fun stage => { stage with settling := stage.settling ++ [number] }
  | .fetch request => fetch clock number request
  | .fetchPath path request => fetch clock number ((worker.urlFor path).map request)
  | .http request => serve clock number request
  | .message message => act (·.handle message); record number .nothing
  | .rawMessage raw => act (·.handleRaw raw); record number .nothing
  | .urlFor path =>
    record number (match worker.urlFor path with
      | .ok url => .url url
      | .error cause => .failed cause)
  | .lookUp (.ok key) => record number (.stored ((← get).system.state.storage.matchRequest key))
  | .lookUp (.error cause) => record number (.failed cause)
  | .seed seeds =>
    onStorage fun storage => seeds.foldl (plant clock) storage
    record number .nothing
  | .drop name =>
    record number (.truth ((← get).system.state.storage.contains name))
    onStorage (·.delete name)
  | .page url page =>
    onNetwork fun network => { network with pages := (url, page) :: network.pages }
    record number .nothing
  | .online online => onNetwork ({ · with online }); record number .nothing
  | .hold => onNetwork ({ · with held := true }); record number .nothing
  | .release => record number (.truth (← release clock))
  | .openGate =>
    let count := (← get).network.queue.length
    onNetwork ({ · with held := false })
    (List.range count).forM fun _ => discard (release clock)
    record number (.count count)
  | .finish earlier =>
    match (← get).results.lookup earlier with
    | some result => record number result
    | none => return

/-- Takes the next step of a script, and tells what it came to if it is done. -/
def play (clock : Clock) (step : Step) : Play (Option Result) := do
  let number := (← get).taken
  modify fun stage => { stage with taken := number + 1, arrived := [], log := [] }
  perform clock number step
  settle
  return (← get).results.lookup number

/-- The stage before the first step. -/
def Stage.initial (worker : Worker) (pages : List (String × Page)) (storage : Cache.Storage) :
    Stage where
  worker := worker
  system := .initial storage
  network := ⟨pages, true, false, []⟩
  watches := []
  settling := []
  results := []
  taken := 0
  arrived := []
  log := []

end OfflineSite.Rehearsal
