import OfflineSite.Http.Header
import OfflineSite.Http.Target

namespace OfflineSite.Http

structure Request where
  method : String
  target : Target
  fields : Fields
  body : ByteArray

structure Response where
  status : Nat
  fields : Fields
  body : ByteArray

namespace Response

def text (status : Nat) (body : String) : Response :=
  ⟨status, [("content-type", "text/plain; charset=utf-8".toUTF8)], body.toUTF8⟩

def json (status : Nat) (body : String) : Response :=
  ⟨status, [("content-type", "application/json".toUTF8)], body.toUTF8⟩

def isSuccess (response : Response) : Bool := 200 ≤ response.status && response.status < 300

/-- The response as it is sent in answer to `method`. It states the length of its body; the body
of an answer to `HEAD` stays away but its length is stated. A tunnel that was granted has
neither. -/
def framed (response : Response) (method : String) : Response :=
  if method == "CONNECT" && response.isSuccess then
    { response with fields := response.fields.filter (·.1 != "content-length"), body := .empty }
  else
    let fields :=
      if response.fields.contains "content-length" then response.fields
      else response.fields ++ [("content-length", (toString response.body.size).toUTF8)]
    { response with fields, body := if method == "HEAD" then .empty else response.body }

end Response

end OfflineSite.Http
