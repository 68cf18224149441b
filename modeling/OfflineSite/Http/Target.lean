import OfflineSite.Text.Split

namespace OfflineSite.Http

/-- What a request asks for. -/
inductive Target where
  /-- A path with its query, from a target that begins with `/` or names a scheme and a host. The
  host is not looked at. -/
  | resource (path : String) (query : Option String)
  /-- The lone `*`. -/
  | asterisk
  /-- A host and port alone. -/
  | authority
  deriving Repr, DecidableEq

namespace Target

/-- The path alone; empty for a bare authority. -/
def pathText : Target → String
  | resource path _ => path
  | asterisk => "*"
  | authority => ""

/-- Path and query as they were sent. A target with neither asks for `/`. -/
def text : Target → String
  | resource path none => if path.isEmpty then "/" else path
  | resource path (some query) => path ++ "?" ++ query
  | asterisk => "*"
  | authority => "/"

/-- A path, a query after the first `?`; the fragment is not part of a target. -/
def ofPathText (text : List Char) : Target :=
  let text := text.takeWhile (· != '#')
  match Split.first? (· == '?') text with
  | some (path, query) => .resource (String.ofList path) (some (String.ofList query))
  | none => .resource (String.ofList text) none

/-- What follows a scheme and `://`. Whether the scheme is a good one is not looked at; it may be
missing, if something follows. -/
def afterScheme? (text : List Char) : Option (List Char) :=
  let isSchemeChar (c : Char) : Bool := c.isAlphanum || "+-.~".toList.contains c
  match text.dropWhile isSchemeChar with
  | ':' :: '/' :: '/' :: after => if text.length > 3 then some after else none
  | _ => none

/-- Reads a target. Without a leading `/` it is `*`, a URL whose host is skipped, or a bare
authority. -/
def parse (text : String) : Target :=
  match text.toList with
  | ['*'] => .asterisk
  | '/' :: rest => ofPathText ('/' :: rest)
  | chars =>
    match afterScheme? chars with
    | some after =>
      ofPathText (after.dropWhile fun c => c != '/' && c != '?' && c != '#')
    | none => .authority

end Target

end OfflineSite.Http
