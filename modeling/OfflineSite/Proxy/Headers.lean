import OfflineSite.Fetch.Request
import OfflineSite.Http.Header

namespace OfflineSite.Proxy

/-- The fields that concern one connection only. -/
def hopByHop : List String :=
  ["connection", "content-length", "host", "keep-alive", "proxy-connection", "te", "trailer",
    "transfer-encoding", "upgrade"]

def isHopByHop (name : String) : Bool := hopByHop.any (Http.sameName name)

/-- The fields of a request that go to the network: those not bound to the connection, values
that are no text left out, fields of one name brought together. -/
def forwarded (fields : Http.Fields) : List (String × String) :=
  (fields.grouped.filter fun field => !isHopByHop field.1).filterMap fun (name, value) =>
    (Http.fieldText? value).map (name, ·)

/-- Whether a text holds another. -/
def holds (part : List Char) : List Char → Bool
  | [] => part.isEmpty
  | c :: rest => part.isPrefixOf (c :: rest) || holds part rest

/-- A request is a navigation when the browser says so, or when it accepts HTML. -/
def destination (fields : Http.Fields) : Destination :=
  let text? (name : String) : Option String := (fields.get? name).bind Http.fieldText?
  if text? "sec-fetch-dest" == some "document" ||
      (text? "accept").any (fun accept => holds "text/html".toList accept.toList) then .document
  else .other

end OfflineSite.Proxy
