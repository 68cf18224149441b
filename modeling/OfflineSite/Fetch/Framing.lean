import OfflineSite.Fetch.Request
import OfflineSite.Fetch.Response
import OfflineSite.Http.Framing

namespace OfflineSite

namespace FetchRequest

/-- The host and port that a request goes to. -/
def hostText (request : FetchRequest) : String :=
  match request.url.authority with
  | some authority => Url.Authority.text { authority with username := "", password := "" }
  | none => ""

/-- The fields of a request. A body states its length. -/
def fields (request : FetchRequest) : Http.Fields :=
  let given := request.headers.map fun (name, value) => (name, value.toUTF8)
  let accept := if given.any fun field => Http.sameName field.1 "accept" then []
    else [("accept", "*/*".toUTF8)]
  let length := if request.body.isEmpty then []
    else [("content-length", (toString request.body.size).toUTF8)]
  ("host", request.hostText.toUTF8) :: given ++ accept ++ length ++
    [("connection", "close".toUTF8)]

/-- A request as the last one on its connection. -/
def written (request : FetchRequest) : ByteArray :=
  Http.written s!"{request.method} {request.url.resource} HTTP/1.1" request.fields request.body

end FetchRequest

/-- The response that a message makes. Fields whose values are no text are left out. -/
def FetchResponse.ofHead (head : Http.Head) (body : ByteArray) : FetchResponse where
  status := (head.status?.getD 0).toUInt16
  headers := head.fields.filterMap fun (name, value) => (Http.fieldText? value).map (name, ·)
  body := body

end OfflineSite
