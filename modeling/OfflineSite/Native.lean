import OfflineSite.Fetch.Framing
import OfflineSite.Fetch.Redirect
import OfflineSite.Machine
import OfflineSite.Net.Bind
import OfflineSite.Proxy.Relay
import OfflineSite.Worker.Exchange
import OfflineSite.Worker.Handling
import OfflineSite.Worker.Installation
import Std.Async
import Std.Sync.CancellationToken
import Std.Time.DateTime.Timestamp

namespace OfflineSite.Native

open Std.Async

def failure : IO.Error → IoFailure
  | .noFileOrDirectory _ _ _ => .notFound
  | .alreadyExists _ _ _ => .alreadyExists
  | .resourceBusy code _ => if code == 16 then .busy else .addressInUse
  | cause => .described (toString cause)

/-- Runs an operation of the system. -/
def attempted {α : Type} (act : Async α) : Async (Except IoFailure α) := do
  try return .ok (← act)
  catch cause => return .error (failure cause)

def files : Files Async where
  isPresent path := (System.mkFilePath [path]).pathExists
  read path := attempted (IO.FS.readBinFile path)
  makeDirectories path := attempted (IO.FS.createDirAll path)
  write path data := attempted (IO.FS.writeBinFile path data)
  rename source target := attempted (IO.FS.rename source target)

def now : Async Timestamp := do
  let time ← Std.Time.Timestamp.now
  return .ofUnix time.val.second.toInt.toNat time.val.nano.val.toNat

/-- Writes a record to standard error, if the setting of the environment lets it through. -/
def log (record : LogRecord) : Async Unit := do
  if record.level.rank < LogLevel.ranksShown (← IO.getEnv "RUST_LOG") then
    IO.eprintln s!"[{(← now).text} {record.level.name}] {record.text}"

/-- The addresses of a host. -/
def addresses (host : String) (port : Nat) : Async (List Std.Net.SocketAddress) := do
  let bare := match host.toList with
    | '[' :: rest => String.ofList rest.dropLast
    | _ => host
  return ((← DNS.getAddrInfo bare (toString port)).map fun address =>
    match address with
    | .v4 address => .v4 ⟨address, port.toUInt16⟩
    | .v6 address => .v6 ⟨address, port.toUInt16⟩).toList

/-- Listens on the first address of a host. -/
def listen (host : String) (port : Nat) : Async (Except IoFailure TCP.Socket.Server) := do
  if host.toList.contains '\x00' then return .error .nulInName
  match ← attempted (addresses host port) with
  | .ok (address :: _) => attempted do
    let socket ← TCP.Socket.Server.mk
    socket.bind address
    socket.listen 1024
    return socket
  | _ => return .error Net.unknownHost

/-- The largest head of a message that is read. -/
def headLimit : Nat := 65536

/-- Reads a message whose body ends where `extent` says, or as soon as it is larger than a limit. -/
def receive (socket : TCP.Socket.Client) (extent : Http.Head → Http.Extent) (limit : Option Nat) :
    Async (Option (Http.Head × ByteArray)) := do
  let mut data := ByteArray.empty
  let mut head? : Option Http.Head := none
  repeat
    if head?.isNone then
      match Http.Head.size? data with
      | some size =>
        head? := Http.Head.parse? (data.extract 0 size)
        data := data.extract size data.size
        if head?.isNone then return none
      | none => if data.size > headLimit then return none
    if let some head := head? then
      let (body, isWhole) := (extent head).body data
      if isWhole || limit.any (· < body.size) then return some (head, body)
    match ← socket.recv? 65536 with
    | some more => data := data ++ more
    | none =>
      return head?.bind fun head => if extent head = .closing then some (head, data) else none
  return none

/-- Answers the request that comes on a connection, and closes it. -/
def converse (socket : TCP.Socket.Client) (limit : Option Nat)
    (answer : Http.Request → Async Http.Response) : Async Unit := do
  try
    let request? := (← receive socket (·.extent (.length 0)) limit).bind fun (head, body) =>
      Http.Request.ofHead? head body
    let response ← match request? with
      | some request => answer request
      | none => pure (Http.Response.text 400 "")
    socket.send response.written
    socket.shutdown
  catch _ => return

/-- Waits in the background for a signal that tells the program to stop. -/
def stopOn (token : Std.CancellationToken) (signal : Signal) (name : String) : Async Unit := do
  let waiter ← Signal.Waiter.mk signal false
  background do
    let _ ← await (← waiter.wait)
    log ⟨.info, s!"Received {name}"⟩
    token.cancel

/-- Answers the requests to a listener until the program is told to stop. -/
def serve (listener : TCP.Socket.Server) (limit : Option Nat)
    (answer : Http.Request → Async Http.Response) : Async Unit := do
  let token ← Std.CancellationToken.new
  stopOn token .sigint "SIGINT"
  stopOn token .sigterm "SIGTERM"
  repeat
    let socket? ← Selectable.one #[
      .case listener.acceptSelector fun socket => pure (some socket),
      .case token.selector fun _ => pure none]
    match socket? with
    | some socket => background (converse socket limit answer)
    | none => return

def portOf (listener : TCP.Socket.Server) : Async Nat := do
  match ← listener.getSockName with
  | .v4 address => return address.port.toNat
  | .v6 address => return address.port.toNat

/-- The files as they are now. -/
def disk : Asset.Disk Async where
  presence path := return if ← files.isPresent path then .present else .absent
  read path := do
    match ← files.read path with
    | .ok data => return .data data
    | .error cause => return .failure cause

/-- Answers a request for an asset. -/
def answerAsset (settings : Asset.Settings) (request : Http.Request) : Async Http.Response := do
  let (response, notices) := Asset.settle (← Asset.consult settings disk request.target.text)
  notices.forM fun notice => log notice.record
  return response.framed request.method

/-- The addresses of the machine, each with the name of its interface. -/
def interfaces : Async (List (String × IpAddress)) := do
  return (← Std.Net.interfaceAddresses).toList.map fun interface =>
    (interface.name, match interface.address with
      | .v4 address =>
        .v4 ⟨address.octets[0], address.octets[1], address.octets[2], address.octets[3]⟩
      | .v6 address => .v6 (address.segments.toList.map (·.toNat)))

def serveAssets (settings : Asset.Settings) (listener : TCP.Socket.Server) :
    Async (Except IoFailure Unit) := attempted do
  let port ← portOf listener
  log ⟨.info, s!"Serving {settings.root} on port {port}"⟩
  (Asset.banner port (lanHost (← interfaces))).forM fun line => IO.println line
  (← IO.getStdout).flush
  serve listener none (answerAsset settings)
  log ⟨.info, "Server stopped"⟩

/-- Sends one request and reads its response. -/
def exchange (request : FetchRequest) : Async (Except Failure FetchResponse) := do
  match request.url.scheme, request.url.authority with
  | "http", some authority =>
    let port := authority.port.getD 80
    match ← attempted (addresses authority.host.text port) with
    | .ok (address :: _) =>
      let response ← attempted do
        let socket ← TCP.Socket.Client.mk
        socket.connect address
        socket.send request.written
        let isBodyless (head : Http.Head) : Bool :=
          request.method == "HEAD" || !Http.hasBody (head.status?.getD 0)
        receive socket (fun head => if isBodyless head then .length 0 else head.extent .closing)
          none
      match response with
      | .ok (some (head, body)) => return .ok (.ofHead head body)
      | .ok none => return .error (.network "no response")
      | .error cause => return .error (.network cause.message)
    | _ => return .error (.network Net.unknownHost.message)
  | scheme, _ => return .error (.network s!"no transport for {scheme}")

/-- Sends a request, and wherever its response sends it on to. -/
def fetch (request : FetchRequest) : Async (Except Failure FetchResponse) := do
  let mut request := request
  for _ in List.range (FetchRequest.redirectLimit + 1) do
    match ← exchange request with
    | .error cause => return .error cause
    | .ok response =>
      match request.redirected? response with
      | some next => request := next
      | none => return .ok response
  return .error (.network "too many redirects")

/-- A worker at work: its state, and its fetches in the background. -/
structure Running where
  worker : Worker
  state : IO.Ref Worker.State
  refreshes : IO.Ref (List (AsyncTask Unit))

namespace Running

/-- Takes a step that nothing can interrupt. -/
def step {α : Type} (running : Running) (turn : Worker.State → Worker.Turn α) : Async α := do
  let (next, notices) ← running.state.modifyGet fun state =>
    let turn := turn state
    ((turn.next, turn.notices), turn.state)
  notices.forM fun notice => log notice.record
  return next

/-- Fetches a request in the background. -/
def refresh (running : Running) (refresh : Worker.Refresh) : Async Unit := do
  let task ← async (t := AsyncTask) do
    let answer ← Native.fetch refresh.request
    let time ← now
    running.step (refresh.receive answer time)
  running.refreshes.modify (task :: ·)

/-- Answers a request. -/
def fetch (running : Running) (request : FetchRequest) :
    Async (Except Failure Worker.Reply) := do
  let (exchange, refresh?) ← running.step (Worker.Exchange.start running.worker request)
  if let some refresh := refresh? then running.refresh refresh
  let ended ← match exchange.call? with
    | none => pure exchange
    | some request => do
      let answer ← Native.fetch request
      let time ← now
      running.step fun state => exchange.receive running.worker answer time state
  return ended.result?.getD (.error (.network "no response"))

/-- Installs the worker. All fetches are under way at once; the last answer ends it. -/
def install (running : Running) : Async Worker.InstallReport := do
  let worker := running.worker
  let installation ← IO.mkRef
    (← running.step fun state => Worker.Installation.starting.run worker state)
  let tasks ← (← installation.get).calls.mapM fun (position, request) =>
    async (t := AsyncTask) do return (position, ← Native.fetch request)
  tasks.forM fun task => do
    let (position, answer) ← await task
    let time ← now
    let current ← installation.get
    installation.set <| ← running.step fun state =>
      let turn := current.receive position answer time state
      (turn.next.run worker turn.state).after turn.notices
  return (← installation.get).result?.getD ⟨[], []⟩

/-- Answers a request to the proxy. -/
def answer (running : Running) (request : Http.Request) : Async Http.Response := do
  let response ← match Proxy.decide running.worker request with
    | .refuse response notices =>
      notices.forM fun notice => log notice.record
      pure response
    | .message message =>
      log (Proxy.Notice.received message).record
      running.step (running.worker.handle message)
      pure Proxy.messageHandled
    | .fetch fetch =>
      let (response, notices) := Proxy.answer request.target.text (← running.fetch fetch)
      notices.forM fun notice => log notice.record
      pure response
  return response.framed request.method

end Running

def serveProxy (worker : Worker) (state : Worker.State) (listener : TCP.Socket.Server) :
    Async (Except IoFailure Worker.State) := attempted do
  let running : Running := ⟨worker, ← IO.mkRef state, ← IO.mkRef []⟩
  let report ← running.install
  if !report.isComplete then
    log ⟨.warn, s!"{report.failed.length} files could not be cached"⟩
  log ⟨.info, s!"Offline proxy for {worker.origin.text} on port {← portOf listener}"⟩
  serve listener worker.config.maxBodyBytes running.answer
  log ⟨.info, "Offline proxy stopped"⟩
  running.step worker.retire
  (← running.refreshes.get).forM fun task => await task
  running.state.get

/-- The machine, with the surroundings of this process. -/
def machine (environment : CacheEnvironment) : Machine Async where
  files := files
  environment := environment
  now := now
  log := log
  Listener := TCP.Socket.Server
  listen := listen
  serveAssets := serveAssets
  serveProxy := serveProxy

/-- What the environment says about caches. -/
def environment : Async CacheEnvironment := do
  return ⟨← IO.getEnv "XDG_CACHE_HOME", ← IO.getEnv "HOME", none⟩

end OfflineSite.Native
