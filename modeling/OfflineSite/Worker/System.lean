import OfflineSite.Worker.Exchange
import OfflineSite.Worker.Handling
import OfflineSite.Worker.Installation

namespace OfflineSite.Worker

/-- An operation that makes fetches. -/
inductive Task where
  | installation (stage : Installation)
  | exchange (stage : Exchange)
  | refresh (pending : Refresh)
  /-- A fetch in the background that was answered. -/
  | refreshed

namespace Task

/-- The fetches whose answers a task awaits, each at its position. -/
def calls : Task → List (Nat × FetchRequest)
  | installation stage => stage.calls
  | exchange stage => (stage.call?.map (0, ·)).toList
  | refresh pending => [(0, pending.request)]
  | refreshed => []

def isRefresh : Task → Bool
  | refresh _ => true
  | _ => false

/-- Takes in the network's answer to the fetch at a position. -/
def receive (worker : Worker) (position : Nat) (answer : Except Failure FetchResponse)
    (now : Timestamp) (state : State) : Task → Turn Task
  | installation stage => (stage.receive position answer now state).map installation
  | exchange stage => (stage.receive worker answer now state).map exchange
  | refresh pending => (pending.receive answer now state).map fun _ => refreshed
  | refreshed => .quiet refreshed state

/-- Goes on as far as no answer is awaited. Only an installation has more to do than to take its
answers in. -/
def proceed (worker : Worker) (state : State) : Task → Turn Task
  | installation stage => (stage.run worker state).map installation
  | task => .quiet task state

end Task

/-- The state of a worker and its tasks, the place of each in the list being its number. Answers may
come in in any order, and any operation may begin in between. -/
structure System where
  state : State
  tasks : List Task

namespace System

def initial (storage : Cache.Storage) : System := ⟨.initial storage, []⟩

/-- The number of the next task. -/
def next (system : System) : Nat := system.tasks.length

/-- Adds a task. -/
def add (system : System) (task : Task) : System :=
  { system with tasks := system.tasks ++ [task] }

def task? (system : System) (number : Nat) : Option Task := system.tasks[number]?

/-- Whether a fetch in the background awaits its answer. -/
def isRefreshing (system : System) : Bool := system.tasks.any Task.isRefresh

/-- Begins an installation. -/
def install (worker : Worker) (system : System) : System × List Notice :=
  let turn := Installation.starting.run worker system.state
  ({ system with state := turn.state }.add (.installation turn.next), turn.notices)

/-- Takes a request. Where a stored response answers it, a fetch in the background begins after
it. -/
def fetch (worker : Worker) (request : FetchRequest) (system : System) : System × List Notice :=
  let turn := Exchange.start worker request system.state
  let system := { system with state := turn.state }.add (.exchange turn.next.1)
  (match turn.next.2 with
    | some refresh => system.add (.refresh refresh)
    | none => system, turn.notices)

/-- Lets a task take a step. -/
def advance (number : Nat) (step : State → Task → Turn Task) (system : System) :
    System × List Notice :=
  match system.task? number with
  | some task =>
    let turn := step system.state task
    (⟨turn.state, system.tasks.set number turn.next⟩, turn.notices)
  | none => (system, [])

/-- Takes in the network's answer to a fetch of a task. -/
def receive (worker : Worker) (number position : Nat) (answer : Except Failure FetchResponse)
    (now : Timestamp) (system : System) : System × List Notice :=
  system.advance number (Task.receive worker position answer now)

/-- Lets a task go on as far as no answer is awaited. -/
def proceed (worker : Worker) (number : Nat) (system : System) : System × List Notice :=
  system.advance number (Task.proceed worker)

/-- Takes in the network's answer to a fetch of a task, which goes on at once. -/
def deliver (worker : Worker) (number position : Nat) (answer : Except Failure FetchResponse)
    (now : Timestamp) (system : System) : System × List Notice :=
  let (system, received) := system.receive worker number position answer now
  let (system, further) := system.proceed worker number
  (system, received ++ further)

/-- Does something that waits for nothing. -/
def act {α : Type} (turn : State → Turn α) (system : System) : α × System × List Notice :=
  let turn := turn system.state
  (turn.next, { system with state := turn.state }, turn.notices)

end System

end OfflineSite.Worker
