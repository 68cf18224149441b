import OfflineSite.Url.Basic
import OfflineSite.Url.Draft

namespace OfflineSite.Url

/-- A text without the control characters and spaces around it. -/
def trimmed (text : String) : List Char :=
  let isOuter (c : Char) : Bool := c.toNat ≤ 0x20
  ((text.toList.dropWhile isOuter).reverse.dropWhile isOuter).reverse

def isSchemeChar (c : Char) : Bool := c.isAlphanum || c == '+' || c == '-' || c == '.'

/-- Splits off a scheme and its colon. -/
def splitScheme? : List Char → Option (String × List Char)
  | c :: rest =>
    if c.isAlpha then
      match (c :: rest).dropWhile isSchemeChar with
      | ':' :: after =>
        some (String.ofList (((c :: rest).takeWhile isSchemeChar).map Char.toLower), after)
      | _ => none
    else none
  | [] => none

/-- The characters that end an authority or a path. -/
def endsPath (c : Char) : Bool := c == '?' || c == '#'

/-- Query and fragment, read from a text that begins with their mark. -/
def tail (special : Bool) (text : List Char) : Option String × Option String :=
  let fragment? (text : List Char) : Option String :=
    match text with
    | '#' :: fragment => some (escaped isReservedInFragment fragment)
    | _ => none
  match text with
  | '?' :: rest =>
    let reserved := if special then isReservedInSpecialQuery else isReservedInQuery
    (some (escaped reserved (rest.takeWhile (· != '#'))), fragment? (rest.dropWhile (· != '#')))
  | text => (none, fragment? text)

/-- Whether a path to a file begins with the name of a drive. -/
def beginsWithDrive : List Char → Bool
  | c :: d :: rest => isDrive [c, d] && rest.head?.all fun e => isAnySlash e || endsPath e
  | _ => false

/-- Adds the pieces of a text in which the slash before the first of them is left out. -/
def Draft.read (scheme : String) (draft : Draft) (text : List Char) : Draft :=
  let add := if scheme == "file" then Draft.addToFile else Draft.add false
  draft.addAll add (Split.pieces (isSlash (isSpecial scheme)) text)

/-- Paths to files do not begin with empty pieces. -/
def withoutEmptyFront (pieces : List String) : List String :=
  match pieces.dropWhile String.isEmpty with
  | [] => [""]
  | rest => rest

/-- The path that a draft has become. -/
def Draft.path (scheme : String) (draft : Draft) : Path :=
  .pieces (if scheme == "file" then withoutEmptyFront draft.pieces else draft.pieces)

/-- A URL whose path is a draft and the pieces of the text, with the text's query and fragment. -/
def withPath (scheme : String) (authority : Option Authority) (draft : Draft)
    (text : List Char) : Url :=
  let path := (draft.read scheme (text.takeWhile (!endsPath ·))).path scheme
  let (query, fragment) := tail (isSpecial scheme) (withoutGaps (text.dropWhile (!endsPath ·)))
  ⟨scheme, authority, path, query, fragment⟩

/-- What follows an authority: a path, which may be missing where the scheme has no rules. -/
def afterAuthority (scheme : String) (authority : Authority) (text : List Char) : Url :=
  match text with
  | c :: rest =>
    if isSlash (isSpecial scheme) c then withPath scheme (some authority) .root rest
    else if !isSpecial scheme && endsPath c then
      let (query, fragment) := tail false text
      ⟨scheme, some authority, .pieces [], query, fragment⟩
    else withPath scheme (some authority) .root text
  | [] => ⟨scheme, some authority, .pieces (if isSpecial scheme then [""] else []), none, none⟩

/-- User name and password. -/
def credentials (text : List Char) : String × String :=
  let name := text.takeWhile (· != ':')
  (escaped isReservedInUserinfo name,
    escaped isReservedInUserinfo (text.drop (name.length + 1)))

/-- Reads a port. A text that is no number is refused; the default port counts as none. -/
def port? (scheme : String) (text : List Char) : Except UrlFailure (Option Nat × List Char) :=
  let digits := text.takeWhile Char.isDigit
  let rest := text.drop digits.length
  let number := Hex.ofDigits 10 (digits.filterMap Hex.value?)
  if number > 65535 then .error .port
  else if rest.head?.all fun c => isAnySlash c || endsPath c then
    .ok (if digits.isEmpty || defaultPort? scheme == some number then none else some number, rest)
  else .error .port

/-- How long the host is that a text begins with: up to a slash, a mark or a colon that stands in
no bracket. -/
def hostLength (special : Bool) : Bool → List Char → Nat
  | _, [] => 0
  | bracketed, c :: rest =>
    if isSlash special c || endsPath c || (c == ':' && !bracketed) then 0
    else hostLength special (c == '[' || (bracketed && c != ']')) rest + 1

/-- Reads an authority and what follows, after its two slashes. -/
def withAuthority (scheme : String) (text : List Char) : Except UrlFailure Url := do
  let special := isSpecial scheme
  let front := text.takeWhile fun c => !(isSlash special c || endsPath c)
  let (userinfo, text) := match Split.last? (· == '@') front with
    | some (userinfo, _) => (some userinfo, text.drop (userinfo.length + 1))
    | none => (none, text)
  if userinfo == some [] && text.head?.any fun c => isSlash special c || endsPath c then
    throw .emptyHost
  let (username, password) := credentials (userinfo.getD [])
  let hostText := text.take (hostLength special false text)
  if special && hostText.isEmpty then throw .emptyHost
  let host ← if special then Host.parse hostText else Host.parseOpaque hostText
  let rest := text.drop hostText.length
  if host.isEmpty && rest.head? == some ':' then throw .emptyHost
  let (port, rest) ← match rest with
    | ':' :: rest => port? scheme rest
    | rest => .ok (none, rest)
  if host.isEmpty && !(username.isEmpty && password.isEmpty) then throw .emptyHost
  return afterAuthority scheme ⟨username, password, host, port⟩ rest

/-- The URL with another fragment and all else kept. -/
def withFragment (url : Url) (text : List Char) : Url :=
  { url with fragment := (tail false text).2 }

/-- Reads what a scheme without rules has after its colon. -/
def withoutRules (scheme : String) : List Char → Except UrlFailure Url
  | '/' :: '/' :: rest => withAuthority scheme rest
  | '/' :: rest => .ok (withPath scheme none .root rest)
  | text =>
    let (query, fragment) := tail false (text.dropWhile (!endsPath ·))
    .ok ⟨scheme, none, .opaqueText (escaped isControl (text.takeWhile (!endsPath ·))), query,
      fragment⟩

/-- The pieces of a path, none for an opaque one. -/
def Path.list : Path → List String
  | .opaqueText _ => []
  | .pieces list => list

/-- The authority of a file on the own machine. -/
def localMachine : Authority := ⟨"", "", .name "", none⟩

/-- A file on the own machine. -/
def localFile (draft : Draft) (text : List Char) : Url :=
  withPath "file" (some localMachine) draft text

/-- Reads the host of a file and the path that follows. The own machine has no name, and a path
that begins with a drive is on no other. -/
def fileOnHost (text : List Char) : Except UrlFailure Url := do
  let hostText := text.takeWhile fun c => !(isAnySlash c || endsPath c)
  let name := withoutGaps hostText
  if isDrive name then return localFile .root text
  let host ← if name.isEmpty then .ok (.name "") else Host.parse name
  let path := match text.drop hostText.length with
    | c :: rest => if isAnySlash c then rest else c :: rest
    | [] => []
  let draft := Draft.root.read "file" (path.takeWhile (!endsPath ·))
  if host = .name "localhost" || draft.hasDrive then return localFile .root path
  else return withPath "file" (some { localMachine with host }) .root path

/-- Reads a path to a file that begins with one slash, which is left out. A file that it is
relative to gives the drive, or else the host. -/
def fileBelow (base : Option Url) (text : List Char) : Url :=
  match base with
  | none => localFile .root text
  | some base =>
    if beginsWithDrive (withoutGaps text) then localFile .root text
    else match base.path.list.head? with
      | some drive =>
        if isNormalDrive drive then localFile (Draft.ofPieces [drive]).closed text
        else withPath "file" base.authority .root text
      | none => withPath "file" base.authority .root text

/-- Reads a text that begins with no slash, relative to a file. -/
def fileBeside (base : Url) (text : List Char) : Url :=
  match withoutGaps text with
  | [] => { base with fragment := none }
  | '?' :: rest =>
    let (query, fragment) := tail true ('?' :: rest)
    { base with query, fragment }
  | '#' :: rest => base.withFragment ('#' :: rest)
  | plain =>
    if beginsWithDrive plain then localFile .root text
    else withPath "file" base.authority ((Draft.ofPieces base.path.list).emptied true) text

/-- Reads what follows the scheme of files, relative to another file if there is one. -/
def fileUrl (base : Option Url) (text : List Char) : Except UrlFailure Url :=
  let afterSlash? (text : List Char) : Option (List Char) :=
    match text.dropWhile isGap with
    | c :: rest => if isAnySlash c then some rest else none
    | [] => none
  match afterSlash? text, base with
  | some below, base =>
    match afterSlash? below with
    | some onHost => fileOnHost onHost
    | none => .ok (fileBelow base below)
  | none, some base => .ok (fileBeside base text)
  | none, none => .ok (localFile .root text)

/-- Reads a text that has no scheme of its own, relative to a base that is no file. -/
def relative (base : Url) (text : List Char) : Except UrlFailure Url :=
  match text with
  | [] => .ok { base with fragment := none }
  | '?' :: _ =>
    let (query, fragment) := tail (isSpecial base.scheme) text
    .ok { base with query, fragment }
  | '#' :: _ => .ok (base.withFragment text)
  | '/' :: '/' :: rest => withAuthority base.scheme rest
  | c :: rest =>
    if isAnySlash c then
      if rest.head?.any isAnySlash then
        withAuthority base.scheme (rest.dropWhile isAnySlash)
      else .ok (withPath base.scheme base.authority .root rest)
    else
      .ok (withPath base.scheme base.authority ((Draft.ofPieces base.path.list).emptied false)
        text)

/-- Reads what follows a scheme that is not that of files. A web scheme may leave out its slashes;
where the base has the same scheme, what follows is then relative to it. -/
def withScheme (base : Option Url) (scheme : String) (text : List Char) : Except UrlFailure Url :=
  if isSpecial scheme then
    match base with
    | some base =>
      if base.scheme == scheme && (text.takeWhile isAnySlash).length < 2 then relative base text
      else withAuthority scheme (text.dropWhile isAnySlash)
    | none => withAuthority scheme (text.dropWhile isAnySlash)
  else withoutRules scheme text

/-- Reads a text that stands alone or relative to a base. The gaps in it matter in the paths of
files alone. -/
def read (base : Option Url) (text : String) : Except UrlFailure Url :=
  let gapped := trimmed text
  let plain := withoutGaps gapped
  match splitScheme? plain with
  | some (scheme, rest) =>
    if scheme == "file" then
      fileUrl (base.filter (·.scheme == "file")) (gapped.dropWhile (· != ':')).tail
    else withScheme base scheme rest
  | none =>
    match base with
    | none => .error .relativeWithoutBase
    | some base =>
      if plain.head? == some '#' then .ok (base.withFragment plain)
      else if base.path.isOpaque then .error .relativeToOpaque
      else if base.scheme == "file" then fileUrl (some base) gapped
      else relative base plain

/-- Reads a URL. -/
def parse (text : String) : Except UrlFailure Url := read none text

/-- Reads a text relative to a URL. -/
def join (base : Url) (text : String) : Except UrlFailure Url := read (some base) text

/-- The origin of a URL. That of a blob is the origin of the URL in its path, `depth` bounding how
far blobs stand in blobs. -/
def originWithin : Nat → Url → Option Origin
  | 0, url => url.serverOrigin?
  | depth + 1, url =>
    if url.scheme == "blob" then
      match parse url.path.text with
      | .ok inner => originWithin depth inner
      | .error _ => none
    else url.serverOrigin?

def origin? (url : Url) : Option Origin := originWithin url.path.text.length url

/-- Two URLs are of one origin if they have one; a URL without an origin matches none. -/
def sameOrigin (url other : Url) : Bool :=
  match url.origin?, other.origin? with
  | some a, some b => a == b
  | _, _ => false

end OfflineSite.Url
