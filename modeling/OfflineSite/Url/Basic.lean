import OfflineSite.Url.Host

namespace OfflineSite

namespace Url

/-- Who and where: the part of a URL after `//`. A password that is empty counts as none. -/
structure Authority where
  username : String
  password : String
  host : Host
  port : Option Nat
  deriving Repr, DecidableEq

/-- The path of a URL. -/
inductive Path where
  /-- Text that is kept as it is and that nothing can be relative to. -/
  | opaqueText (text : String)
  /-- Pieces, each after a slash. -/
  | pieces (list : List String)
  deriving Repr, DecidableEq

end Url

structure Url where
  scheme : String
  authority : Option Url.Authority
  path : Url.Path
  query : Option String
  fragment : Option String
  deriving Repr, DecidableEq

namespace Url

/-- The port that a scheme uses where none is given. -/
def defaultPort? (scheme : String) : Option Nat :=
  if scheme = "http" ∨ scheme = "ws" then some 80
  else if scheme = "https" ∨ scheme = "wss" then some 443
  else if scheme = "ftp" then some 21
  else none

/-- The schemes whose URLs name a server and a path on it. -/
def isSpecial (scheme : String) : Bool := (defaultPort? scheme).isSome || scheme == "file"

namespace Authority

def userinfo (authority : Authority) : String :=
  if authority.username.isEmpty && authority.password.isEmpty then ""
  else if authority.password.isEmpty then authority.username ++ "@"
  else authority.username ++ ":" ++ authority.password ++ "@"

def text (authority : Authority) : String :=
  authority.userinfo ++ authority.host.text ++
    match authority.port with
    | some port => ":" ++ toString port
    | none => ""

end Authority

namespace Path

def text : Path → String
  | opaqueText text => text
  | pieces list => String.join (list.map ("/" ++ ·))

def isOpaque : Path → Bool
  | opaqueText _ => true
  | pieces _ => false

end Path

/-- The text before the path. Without an authority, a path that begins with two slashes gets a dot
in front, so that it is not read as one. -/
def front (url : Url) : String :=
  url.scheme ++ ":" ++
    match url.authority, url.path with
    | some authority, _ => "//" ++ authority.text
    | none, .pieces ("" :: _ :: _) => "/."
    | none, _ => ""

def queryText (url : Url) : String :=
  match url.query with
  | some query => "?" ++ query
  | none => ""

/-- The URL as text. -/
def text (url : Url) : String :=
  url.front ++ url.path.text ++ url.queryText ++
    match url.fragment with
    | some fragment => "#" ++ fragment
    | none => ""

/-- Path and query, as a server is asked for them. -/
def resource (url : Url) : String := url.path.text ++ url.queryText

/-- An opaque path without the spaces at its end. -/
def Path.trimmed : Path → Path
  | .opaqueText text =>
    .opaqueText (String.ofList (text.toList.reverse.dropWhile (· == ' ')).reverse)
  | .pieces list => .pieces list

/-- The URL without its fragment. Spaces at the end of an opaque path go with it, unless a query
follows them. -/
def withoutFragment (url : Url) : Url :=
  { url with
    fragment := none
    path := if url.query.isNone then url.path.trimmed else url.path }

/-- Scheme, host and port. -/
structure Origin where
  scheme : String
  host : Host
  port : Option Nat
  deriving Repr, DecidableEq

/-- The origin that the authority gives. Schemes without rules of their own, and files, have
none. -/
def serverOrigin? (url : Url) : Option Origin :=
  match defaultPort? url.scheme, url.authority with
  | some port, some authority =>
    some ⟨url.scheme, authority.host, some (authority.port.getD port)⟩
  | _, _ => none

/-- Whether requests with this URL go to a web server. -/
def isWeb (url : Url) : Bool := url.scheme == "http" || url.scheme == "https"

end Url

end OfflineSite
