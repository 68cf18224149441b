import OfflineSite.Worker.Activation

namespace OfflineSite.Worker

/-- What became of a path that is to be stored. -/
inductive Warming where
  /-- Its fetch is under way. -/
  | asked (request : FetchRequest)
  | stored
  | failed (reason : String)

/-- A path that is to be stored, and what became of it. -/
structure Slot where
  path : String
  warming : Warming

namespace Slot

def isWaiting (slot : Slot) : Bool :=
  match slot.warming with
  | .asked _ => true
  | _ => false

/-- The slot of a path whose fetch starts now, or fails because the path makes no URL. -/
def start (worker : Worker) (path : String) : Slot :=
  match worker.urlFor path with
  | .ok url => ⟨path, .asked (.get url)⟩
  | .error failure => ⟨path, .failed failure.text⟩

/-- What becomes of a slot when the network answers. -/
def settle (slot : Slot) (answer : Except Failure FetchResponse) : Slot :=
  { slot with
    warming := match answer with
      | .ok response =>
        if response.isStorable then .stored else .failed s!"status {response.status.toNat}"
      | .error failure => .failed failure.text }

end Slot

/-- The report on slots that are all settled. -/
def InstallReport.ofSlots (slots : List Slot) : InstallReport where
  cached := slots.filterMap fun slot =>
    match slot.warming with
    | .stored => some slot.path
    | _ => none
  failed := slots.filterMap fun slot =>
    match slot.warming with
    | .failed reason => some (slot.path, reason)
    | _ => none

/-- What is logged of a report. -/
def InstallReport.notices (report : InstallReport) (worker : Worker) : List Notice :=
  report.failed.map (fun (path, reason) => .pathFailed path reason) ++
    [.pathsCached report.cached.length worker.config.precache.length worker.version]

/-- Where an installation stands. All paths are fetched at once, and one that fails does no harm.
When all answers are in, the worker waits, or goes on to be activated. -/
inductive Installation where
  | starting
  | marking
  | opening
  /-- Storing what the network answers, in the store opened at the start. -/
  | warming (store : Cache.Handle) (slots : List Slot)
  /-- To look whether the worker skips waiting. -/
  | looking (report : InstallReport)
  | activating (report : InstallReport) (activation : Activation)
  | ended (report : InstallReport)

namespace Installation

/-- The slots whose fetches are under way, by position. -/
def calls : Installation → List (Nat × FetchRequest)
  | warming _ slots => slots.zipIdx.filterMap fun (slot, position) =>
    match slot.warming with
    | .asked request => some (position, request)
    | _ => none
  | _ => []

/-- Whether only the network can take the installation further. -/
def isWaiting : Installation → Bool
  | warming _ slots => slots.any Slot.isWaiting
  | _ => false

/-- The next step. There is none while answers are awaited. -/
def step (worker : Worker) (state : State) : Installation → Turn Installation
  | starting => ⟨marking, { state with phase := .installing }, [.installing worker.version]⟩
  | marking =>
    .quiet opening
      { state with skipsWaiting := state.skipsWaiting || worker.config.skipWaitingOnInstall }
  | opening =>
    let (store, state) := worker.openCurrent state
    .quiet (warming store (worker.config.precache.map (Slot.start worker))) state
  | warming store slots =>
    if slots.any Slot.isWaiting then .quiet (warming store slots) state
    else
      let report := InstallReport.ofSlots slots
      ⟨looking report, { state with phase := .installed }, report.notices worker⟩
  | looking report =>
    if state.skipsWaiting then .quiet (activating report .starting) state
    else ⟨ended report, state, [.waiting worker.version]⟩
  | activating report (.ended _) => .quiet (ended report) state
  | activating report activation => (activation.step worker state).map (activating report)
  | ended report => .quiet (ended report) state

/-- Takes in the network's answer to the fetch of one slot. -/
def receive (position : Nat) (answer : Except Failure FetchResponse) (now : Timestamp)
    (state : State) (installation : Installation) : Turn Installation :=
  match installation with
  | warming store slots =>
    match slots[position]? with
    | some slot =>
      match slot.warming, answer with
      | .asked request, .ok response =>
        let storage :=
          if response.isStorable then state.storage.put store request.key response now
          else state.storage
        .quiet (warming store (slots.set position (slot.settle answer))) { state with storage }
      | .asked _, .error _ =>
        .quiet (warming store (slots.set position (slot.settle answer))) state
      | _, _ => .quiet installation state
    | none => .quiet installation state
  | _ => .quiet installation state

/-- How many kinds of steps are still to come. -/
def rank : Installation → Nat
  | starting => 6
  | marking => 5
  | opening => 4
  | warming _ _ => 3
  | looking _ => 2
  | activating _ _ => 1
  | ended _ => 0

/-- Takes steps with nothing in between, up to the end or to where the network is awaited. -/
def run (worker : Worker) (state : State) (installation : Installation) : Turn Installation :=
  match installation with
  | activating report activation => (activation.run worker state).map fun _ => ended report
  | ended report => .quiet (ended report) state
  | installation =>
    if (installation.step worker state).next.rank < installation.rank then
      (run worker (installation.step worker state).state
        (installation.step worker state).next).after (installation.step worker state).notices
    else installation.step worker state
  termination_by installation.rank

/-- The report, once the installation has ended. -/
def result? : Installation → Option InstallReport
  | ended report => some report
  | _ => none

end Installation

end OfflineSite.Worker
