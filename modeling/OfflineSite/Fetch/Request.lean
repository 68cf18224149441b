import OfflineSite.Url.Parser

namespace OfflineSite

/-- What a page wants a resource for. -/
inductive Destination where
  /-- To show it as a page. -/
  | document
  | other
  deriving Repr, DecidableEq

def Destination.name : Destination → String
  | document => "document"
  | other => "other"

/-- A request that passes through the worker. -/
structure FetchRequest where
  method : String
  url : Url
  destination : Destination
  headers : List (String × String)
  body : ByteArray

namespace FetchRequest

/-- A bare request for a resource. -/
def get (url : Url) : FetchRequest := ⟨"GET", url, .other, [], .empty⟩

/-- Whether the cache may answer: only `GET` requests to web servers. -/
def isCacheable (request : FetchRequest) : Bool := request.method == "GET" && request.url.isWeb

end FetchRequest

end OfflineSite
