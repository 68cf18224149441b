import OfflineSite.Control.Message
import OfflineSite.Http.Message
import OfflineSite.Proxy.Headers
import OfflineSite.Worker.Basic

namespace OfflineSite.Proxy

/-- The path that takes control messages. -/
def messagePath : String := "/__worker/message"

/-- What the proxy logs. -/
inductive Notice where
  | received (message : ControlMessage)
  | offOrigin (url : Url)
  | badGateway (target : String) (cause : Failure)
  | unrelayable (source : Worker.Source) (fault : String)

def Notice.record : Notice → LogRecord
  | received message => ⟨.info, s!"Control message: {message.name}"⟩
  | offOrigin url => ⟨.warn, s!"Refusing to proxy off-origin target {url.text}"⟩
  | badGateway target cause => ⟨.warn, s!"502: {target} ({cause.text})"⟩
  | unrelayable source fault => ⟨.error, s!"Failed to relay {source.name} response: {fault}"⟩

/-- What is done with a request. -/
inductive Decision where
  | refuse (response : Http.Response) (notices : List Notice)
  | message (message : ControlMessage)
  | fetch (request : FetchRequest)

/-- The answer to a body that is larger than the limit. -/
def tooLarge : Http.Response :=
  .text 413 "Failed to buffer the request body: length limit exceeded"

/-- The answer to any method but `POST` on the message path. -/
def onlyPost : Http.Response := ⟨405, [("allow", "POST".toUTF8)], .empty⟩

/-- Whether a request goes to the message path. -/
def isMessage (request : Http.Request) : Bool := request.target.pathText == messagePath

/-- What is done with the body of a message. -/
def decideMessage (body : ByteArray) : Decision :=
  match ControlMessage.parse body with
  | .ok message => .message message
  | .error cause => .refuse (.text 400 (Failure.message cause).text) []

/-- What is done with any other request: its target must lead to the origin. -/
def decideFetch (worker : Worker) (request : Http.Request) : Decision :=
  match worker.urlFor request.target.text with
  | .error failure => .refuse (.text 400 failure.text) []
  | .ok url =>
    if url.sameOrigin worker.origin then
      .fetch ⟨request.method, url, destination request.fields, forwarded request.fields,
        request.body⟩
    else .refuse (.text 400 "off-origin request") [.offOrigin url]

/-- What is done with a request. A body is looked at only where it is read, and then its length is
checked before anything else. -/
def decide (worker : Worker) (request : Http.Request) : Decision :=
  if isMessage request && request.method != "POST" then .refuse onlyPost []
  else if request.body.size > worker.config.maxBodyBytes then .refuse tooLarge []
  else if isMessage request then decideMessage request.body
  else decideFetch worker request

/-- The answer to a message that was handled. -/
def messageHandled : Http.Response := .json 200 "\x7b\"ok\":true\x7d"

end OfflineSite.Proxy
