import OfflineSite.Fetch.Request

namespace OfflineSite.Cache

/-- What identifies a stored response: the method and the URL up to its fragment. -/
structure Key where
  method : String
  url : String
  deriving Repr, DecidableEq, Inhabited

namespace Key

/-- Keys are ordered by method, then by URL. -/
instance : Ord Key where
  compare a b := compareLex (compareOn Key.method) (compareOn Key.url) a b

def of (method : String) (url : Url) : Key := ⟨method, url.withoutFragment.text⟩

def get (url : Url) : Key := of "GET" url

end Key

end OfflineSite.Cache

namespace OfflineSite

/-- The key under which the response to a request is stored. -/
def FetchRequest.key (request : FetchRequest) : Cache.Key := .of request.method request.url

end OfflineSite
