import OfflineSite.Proxy.Routing
import OfflineSite.Worker.System

namespace OfflineSite.Proxy

/-- What comes of a request at once. -/
structure Reception where
  /-- The answer, unless the worker has to make one. -/
  response? : Option Http.Response
  system : Worker.System
  log : List LogRecord

/-- Takes a request in. One that is refused does not reach the worker. -/
def receive (worker : Worker) (request : Http.Request) (system : Worker.System) : Reception :=
  match decide worker request with
  | .refuse response notices => ⟨some response, system, notices.map (·.record)⟩
  | .message message =>
    let (_, system, notices) := system.act (worker.handle message)
    ⟨some messageHandled, system,
      (Notice.received message).record :: notices.map (·.record)⟩
  | .fetch fetch =>
    let (system, notices) := system.fetch worker fetch
    ⟨none, system, notices.map (·.record)⟩

end OfflineSite.Proxy
