import OfflineSite.Fetch.Request
import OfflineSite.Fetch.Response

namespace OfflineSite.FetchRequest

/-- The most often that one request is sent on. -/
def redirectLimit : Nat := 10

/-- The fields that are not for any server but the one a request was made to. -/
def isPrivate (name : String) : Bool :=
  ["authorization", "cookie", "proxy-authorization", "www-authenticate"].any (Http.sameName name)

/-- The request that asks for the same at another URL. -/
def sentTo (request : FetchRequest) (url : Url) : FetchRequest :=
  { request with
    url
    headers := if url.sameOrigin request.url then request.headers
      else request.headers.filter fun header => !isPrivate header.1 }

/-- The request that follows where a response says that its receiver should ask elsewhere. Some of
these responses want the method and the body kept, others only ask for a resource. -/
def redirected? (request : FetchRequest) (response : FetchResponse) : Option FetchRequest := do
  let url ← (request.url.join (← response.header? "location")).toOption
  if [307, 308].contains response.status then return request.sentTo url
  else if [301, 302, 303].contains response.status then
    let method := if request.method == "HEAD" then "HEAD" else "GET"
    return { request.sentTo url with method, body := .empty }
  else none

end OfflineSite.FetchRequest
