import OfflineSite.Http.Header

namespace OfflineSite

/-- A response as the worker sees it, with the whole body at hand. -/
structure FetchResponse where
  status : UInt16
  /-- Header names and values, in order of arrival. -/
  headers : List (String × String)
  body : ByteArray
  deriving Inhabited

namespace FetchResponse

/-- The first value of a header, the case of ASCII letters in its name not counting. -/
def header? (response : FetchResponse) (name : String) : Option String :=
  (response.headers.find? fun header => Http.sameName header.1 name).map (·.2)

/-- Only responses with status 200 are stored. -/
def isStorable (response : FetchResponse) : Bool := response.status == 200

end FetchResponse

end OfflineSite
