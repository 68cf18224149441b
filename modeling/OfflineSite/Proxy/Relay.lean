import OfflineSite.Proxy.Routing

namespace OfflineSite.Proxy

/-- The field that says where a response came from. -/
def sourceField : String := "x-cache-source"

/-- The answer when the network failed and nothing stood in, or a reply cannot be passed on. -/
def badGateway : Http.Response := .text 502 "502 - Bad Gateway"

/-- A stored header as a field, or what is wrong with it. -/
def field (header : String × String) : Except String (String × ByteArray) :=
  match Http.fieldName? header.1 with
  | none => .error "invalid HTTP header name"
  | some name =>
    match Http.fieldValue? header.2 with
    | none => .error "failed to parse header value"
    | some value => .ok (name, value)

/-- The status of a response; a number that is no status becomes 502. -/
def status (number : UInt16) : Nat :=
  if 100 ≤ number ∧ number ≤ 999 then number.toNat else 502

/-- The response to a reply, with its source in a field of its own at the end. A reply with a header
that HTTP does not allow is not passed on at all. -/
def relay (reply : Worker.Reply) : Http.Response × List Notice :=
  let headers := reply.response.headers.filter fun header => !isHopByHop header.1
  match headers.mapM field with
  | .ok fields =>
    (⟨status reply.response.status, fields ++ [(sourceField, reply.source.name.toUTF8)],
      reply.response.body⟩, [])
  | .error fault => (badGateway, [.unrelayable reply.source fault])

/-- The response to what the worker made of a request. -/
def answer (target : String) (result : Except Failure Worker.Reply) :
    Http.Response × List Notice :=
  match result with
  | .ok reply => relay reply
  | .error cause => (badGateway, [.badGateway target cause])

end OfflineSite.Proxy
