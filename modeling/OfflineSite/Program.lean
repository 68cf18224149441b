import OfflineSite.Cache.Persistence
import OfflineSite.Machine
import OfflineSite.Script

namespace OfflineSite.Machine

variable {m : Type → Type} [Monad m]

/-- Listens on an address. -/
def listener (machine : Machine m) (host : String) (port : Nat) :
    ExceptT Failure m machine.Listener :=
  ExceptT.mk do return (← machine.listen host port).mapError (.bind (bindAddress host port))

/-- Serves assets until the machine tells it to stop. -/
def runAssets (machine : Machine m) (config : ServerConfig) : ExceptT Failure m Unit := do
  let listener ← machine.listener config.host config.port
  attempt (machine.serveAssets (.ofConfig config) listener)

/-- Runs the proxy until the machine tells it to stop, with a storage that outlives it in a file.
The storage is loaded, the worker is made, and only then is the address listened on; whichever of
these fails first is reported. -/
def runProxy (machine : Machine m) (config : OfflineConfig) : ExceptT Failure m Unit := do
  let path := config.snapshotPath machine.environment
  let storage ← Cache.Storage.loadOrEmpty machine.files path
  let worker ← ExceptT.mk (pure (Worker.ofConfig config))
  let listener ← machine.listener config.host config.port
  let state ← attempt (machine.serveProxy worker (.initial storage) listener)
  let _ ← state.storage.save machine.files path (← machine.now)
  machine.log ⟨.info, s!"Saved offline cache to {path}"⟩

/-- Does what a command line asks for. The result is the text that is printed. -/
def perform (machine : Machine m) (invocation : Invocation) : ExceptT Failure m String := do
  let config ← AppConfig.load machine.files invocation.configPath
  match invocation.mode with
  | .assets => machine.runAssets config.server; return ""
  | .proxy => machine.runProxy config.offline; return ""
  | .script => return Script.text config.offline

/-- Runs the program. -/
def run (machine : Machine m) (arguments : List String) : m Ending := do
  match Command.ofArguments arguments with
  | .help => return .helped
  | .misuse fault => return .misused fault
  | .run invocation =>
    match ← (machine.perform invocation).run with
    | .ok output => return .finished output
    | .error cause => return .failed cause

end OfflineSite.Machine
