import OfflineSite.Worker.Installation

namespace OfflineSite.Worker

/-- Answers the fetch of one slot, and goes on as far as that leads. -/
def Installation.answer (worker : Worker) (network : FetchRequest → Except Failure FetchResponse)
    (now : Timestamp) (turn : Turn Installation) (call : Nat × FetchRequest) :
    Turn Installation :=
  let received := turn.next.receive call.1 (network call.2) now turn.state
  ((received.next.run worker received.state).after received.notices).after turn.notices

/-- Installs a worker: every fetch is answered, in order. -/
def install (worker : Worker) (network : FetchRequest → Except Failure FetchResponse)
    (now : Timestamp) (state : State) : Turn Installation :=
  let turn := Installation.starting.run worker state
  turn.next.calls.foldl (Installation.answer worker network now) turn

end OfflineSite.Worker
