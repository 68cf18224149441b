import OfflineSite.Asset.ContentType
import OfflineSite.Asset.Target
import OfflineSite.Config
import OfflineSite.Http.Message
import OfflineSite.IoFailure
import OfflineSite.Log

namespace OfflineSite.Asset

/-- The answer to the question whether a path exists. -/
inductive Presence where
  | present
  | absent
  /-- The question itself crashed. -/
  | crash
  deriving Repr, DecidableEq

/-- The result of reading a file. -/
inductive Reading where
  | data (bytes : ByteArray)
  | failure (cause : IoFailure)
  | crash

/-- The file system as the server uses it. -/
structure FileSystem where
  presence : String → Presence
  read : String → Reading

/-- A file system that is asked at the time of need. -/
structure Disk (m : Type → Type) where
  presence : String → m Presence
  read : String → m Reading

/-- How a request was answered. -/
inductive Outcome where
  | ok
  | notFound
  | readFailure
  deriving Repr, DecidableEq

def Outcome.label : Outcome → String
  | ok => "OK"
  | notFound => "404"
  | readFailure => "500"

def Outcome.status : Outcome → Nat
  | ok => 200
  | notFound => 404
  | readFailure => 500

def notFoundBody : String := "<h1>404 - Not Found</h1>"

def readFailureBody : String := "500 - Server Error"

/-- An answer before it becomes an HTTP response. Only a file that was read has a type. -/
structure Answer where
  outcome : Outcome
  contentType : Option String
  body : ByteArray

namespace Answer

def ok (contentType : String) (body : ByteArray) : Answer := ⟨.ok, some contentType, body⟩

def notFound : Answer := ⟨.notFound, none, notFoundBody.toUTF8⟩

def readFailure : Answer := ⟨.readFailure, none, readFailureBody.toUTF8⟩

/-- The fields of the response. A configured type that is no field value is left out. -/
def fields (answer : Answer) : Http.Fields :=
  match answer.outcome with
  | .ok =>
    ((answer.contentType.bind Http.fieldValue?).map ("content-type", ·)).toList ++
      [("cache-control", "no-cache".toUTF8), ("access-control-allow-origin", "*".toUTF8)]
  | .notFound => [("content-type", "text/html".toUTF8)]
  | .readFailure => []

def toResponse (answer : Answer) : Http.Response :=
  ⟨answer.outcome.status, answer.fields, answer.body⟩

end Answer

/-- What the server logs about a request. -/
inductive Notice where
  | served (file : String)
  | rejected (path : String)
  | missing (file : String)
  | unreadable (file : String) (cause : IoFailure)
  | crashed
  deriving Repr, DecidableEq

def Notice.record : Notice → LogRecord
  | served file => ⟨.info, s!"OK: {file}"⟩
  | rejected path => ⟨.warn, s!"Rejected path outside content root: {path}"⟩
  | missing file => ⟨.info, s!"404: {file}"⟩
  | unreadable file cause => ⟨.error, s!"500: {file} ({cause.message})"⟩
  | crashed => ⟨.error, "500: request handler panicked"⟩

/-- Settings of a server. -/
structure Settings where
  root : String
  defaultDocument : String
  types : ContentTypes

def Settings.ofConfig (config : ServerConfig) : Settings :=
  ⟨config.root, config.defaultDocument, ContentTypes.base.withExtra config.contentTypes⟩

/-- Serves one target. There is no answer when the file system crashed. -/
def respond (settings : Settings) (files : FileSystem) (target : String) :
    Option Answer × List Notice :=
  let path := requestPath target
  match resolve settings.root path settings.defaultDocument with
  | none => (some .notFound, [.rejected path])
  | some file =>
    match files.presence file with
    | .crash => (none, [])
    | .absent => (some .notFound, [.missing file])
    | .present =>
      match files.read file with
      | .crash => (none, [])
      | .failure cause => (some .readFailure, [.unreadable file cause])
      | .data bytes => (some (.ok (settings.types.lookup file) bytes), [.served file])

/-- Serves one target as `respond` does, from a disk that is asked only for what is needed. -/
def consult {m : Type → Type} [Monad m] (settings : Settings) (disk : Disk m) (target : String) :
    m (Option Answer × List Notice) := do
  let path := requestPath target
  match resolve settings.root path settings.defaultDocument with
  | none => return (some .notFound, [.rejected path])
  | some file =>
    match ← disk.presence file with
    | .crash => return (none, [])
    | .absent => return (some .notFound, [.missing file])
    | .present =>
      match ← disk.read file with
      | .crash => return (none, [])
      | .failure cause => return (some .readFailure, [.unreadable file cause])
      | .data bytes => return (some (.ok (settings.types.lookup file) bytes), [.served file])

/-- The response to a target once it is served; a crash becomes a plain failure. -/
def settle : Option Answer × List Notice → Http.Response × List Notice
  | (some answer, notices) => (answer.toResponse, notices)
  | (none, notices) => (Answer.readFailure.toResponse, notices ++ [.crashed])

/-- Answers a request whatever its method. -/
def route (settings : Settings) (files : FileSystem) (target : Http.Target) :
    Http.Response × List Notice :=
  settle (respond settings files target.text)

/-- The response to a request as it leaves the server. -/
def handle (settings : Settings) (files : FileSystem) (request : Http.Request) :
    Http.Response × List Notice :=
  let (response, notices) := route settings files request.target
  (response.framed request.method, notices)

/-- What is printed when a server starts. -/
def banner (port : Nat) (host : String) : List String :=
  [s!"Local:   http://localhost:{port}", s!"Network: http://{host}:{port}", "Press Ctrl+C to stop"]

end OfflineSite.Asset
