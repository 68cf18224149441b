import OfflineSite.Cache.Storage
import OfflineSite.Config
import OfflineSite.Failure
import OfflineSite.Fetch.Request
import OfflineSite.Log

namespace OfflineSite

/-- Settings and the origin that paths are relative to. -/
structure Worker where
  config : OfflineConfig
  origin : Url

namespace Worker

inductive Phase where
  /-- Made, and not yet installed. -/
  | parsed
  /-- Filling the store. -/
  | installing
  /-- Waiting to be activated. -/
  | installed
  /-- Deleting the stores of other versions. -/
  | activating
  /-- Answering requests. -/
  | activated
  /-- Replaced, and out of use. -/
  | redundant
  deriving Repr, DecidableEq

def Phase.name : Phase → String
  | parsed => "Parsed"
  | installing => "Installing"
  | installed => "Installed"
  | activating => "Activating"
  | activated => "Activated"
  | redundant => "Redundant"

/-- What the steps of a worker change. -/
structure State where
  phase : Phase
  /-- Whether the worker is to be activated without waiting. -/
  skipsWaiting : Bool
  /-- Whether the worker has taken over the open pages. -/
  controlsClients : Bool
  storage : Cache.Storage

/-- The state of a new worker over a storage. -/
def State.initial (storage : Cache.Storage) : State := ⟨.parsed, false, false, storage⟩

/-- Where a response came from. -/
inductive Source where
  | cache
  | network
  /-- The document that stands in for a navigation that failed. -/
  | fallback
  deriving Repr, DecidableEq

def Source.name : Source → String
  | cache => "cache"
  | network => "network"
  | fallback => "fallback"

/-- A response and where it came from. -/
structure Reply where
  source : Source
  response : FetchResponse

/-- The outcome of an installation: the paths that were stored, and those that were not, with the
reason. -/
structure InstallReport where
  cached : List String
  failed : List (String × String)
  deriving Repr, DecidableEq

def InstallReport.isComplete (report : InstallReport) : Bool := report.failed.isEmpty

/-- What a worker logs. -/
inductive Notice where
  | installing (version : String)
  | pathFailed (path reason : String)
  | pathsCached (count total : Nat) (version : String)
  | waiting (version : String)
  | activating (version : String)
  | storeDeleted (name : String)
  | hit (url : String)
  | fallbackServed (url : String)
  | refreshAnswered (url : String) (status : UInt16)
  | refreshFailed (url : String) (cause : Failure)
  | redundant (version : String)
  | cleared (version : String)
  | messageIgnored (cause : Failure)
  deriving DecidableEq

def Notice.record : Notice → LogRecord
  | installing version => ⟨.info, s!"Installing offline cache {version}"⟩
  | pathFailed path reason => ⟨.warn, s!"Failed to cache {path}: {reason}"⟩
  | pathsCached count total version =>
    ⟨.info, s!"Cached {count}/{total} files into {version}"⟩
  | waiting version => ⟨.info, s!"Offline cache {version} installed, waiting"⟩
  | activating version => ⟨.info, s!"Activating offline cache {version}"⟩
  | storeDeleted name => ⟨.info, s!"Deleted old cache {name}"⟩
  | hit url => ⟨.debug, s!"Cache hit: {url}"⟩
  | fallbackServed url => ⟨.info, s!"Offline, serving fallback for {url}"⟩
  | refreshAnswered url status =>
    ⟨.debug, s!"Background refresh of {url} returned {status.toNat}"⟩
  | refreshFailed url cause => ⟨.debug, s!"Background refresh of {url} failed: {cause.text}"⟩
  | redundant version => ⟨.info, s!"Offline cache worker {version} is redundant"⟩
  | cleared version => ⟨.info, s!"Cleared cache {version}"⟩
  | messageIgnored cause => ⟨.debug, s!"Ignoring message: {cause.text}"⟩

/-- The state and the log after a step, and what the step leads to. Each step is atomic. Between two
steps of one operation others may come, and where an operation waits for the network anything may.
-/
structure Turn (α : Type) where
  next : α
  state : State
  notices : List Notice

/-- A step that only decides what comes next. -/
def Turn.quiet {α : Type} (next : α) (state : State) : Turn α := ⟨next, state, []⟩

/-- The turn with what comes next seen as part of something larger. -/
def Turn.map {α β : Type} (f : α → β) (turn : Turn α) : Turn β :=
  ⟨f turn.next, turn.state, turn.notices⟩

/-- The turn with an earlier log in front. -/
def Turn.after {α : Type} (turn : Turn α) (notices : List Notice) : Turn α :=
  { turn with notices := notices ++ turn.notices }

/-- The worker of some settings, if their origin is a URL. -/
def ofConfig (config : OfflineConfig) : Except Failure Worker :=
  match Url.parse config.origin with
  | .ok origin => .ok ⟨config, origin⟩
  | .error cause => .error (.invalidUrl config.origin cause)

/-- The URL of a path on the origin. -/
def urlFor (worker : Worker) (path : String) : Except Failure Url :=
  (worker.origin.join path).mapError (.invalidUrl path)

/-- The name of the current store. -/
def version (worker : Worker) : String := worker.config.version

/-- Opens the current store. -/
def openCurrent (worker : Worker) (state : State) : Cache.Handle × State :=
  let (handle, storage) := state.storage.openStore worker.version
  (handle, { state with storage })

/-- Takes the worker out of use. -/
def retire (worker : Worker) (state : State) : Turn Unit :=
  ⟨(), { state with controlsClients := false, phase := .redundant }, [.redundant worker.version]⟩

end Worker

end OfflineSite
