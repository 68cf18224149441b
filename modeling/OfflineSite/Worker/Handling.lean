import OfflineSite.Control.Message
import OfflineSite.Worker.Activation

namespace OfflineSite.Worker

/-- Where the handling of a message stands. A message to skip waiting first leaves its mark and then
looks whether the worker waits already; an installation looks for the mark only after it has begun
to wait, so one of the two always sees the other. -/
inductive Handling where
  /-- To leave the mark that the worker skips waiting. -/
  | marking
  /-- To look whether the worker waits. -/
  | looking
  | activating (activation : Activation)
  | clearing
  | ended
  deriving Repr, DecidableEq

namespace Handling

def ofMessage : ControlMessage → Handling
  | .skipWaiting => marking
  | .clearCache => clearing

/-- The next step. -/
def step (worker : Worker) (state : State) : Handling → Turn Handling
  | marking => .quiet looking { state with skipsWaiting := true }
  | looking => .quiet (if state.phase = .installed then activating .starting else ended) state
  | activating (.ended _) => .quiet ended state
  | activating activation => (activation.step worker state).map activating
  | clearing =>
    ⟨ended, { state with storage := state.storage.delete worker.version },
      [.cleared worker.version]⟩
  | ended => .quiet ended state

/-- Looks whether the worker waits, and activates it if it does. -/
def look (worker : Worker) (state : State) : Turn Unit :=
  if state.phase = .installed then (activate worker state).map fun _ => () else .quiet () state

/-- Takes the steps that are left with nothing in between. -/
def run (worker : Worker) (state : State) : Handling → Turn Unit
  | marking => look worker (marking.step worker state).state
  | looking => look worker state
  | activating activation => (activation.run worker state).map fun _ => ()
  | clearing => (clearing.step worker state).map fun _ => ()
  | ended => .quiet () state

end Handling

/-- Handles a message from the page. -/
def handle (worker : Worker) (message : ControlMessage) (state : State) : Turn Unit :=
  (Handling.ofMessage message).run worker state

/-- Handles a message as it was sent. One that cannot be read is ignored. -/
def handleRaw (worker : Worker) (raw : ByteArray) (state : State) : Turn Unit :=
  match ControlMessage.parse raw with
  | .ok message => worker.handle message state
  | .error cause => ⟨(), state, [.messageIgnored (.message cause)]⟩

end OfflineSite.Worker
