import OfflineSite.Text.Split
import OfflineSite.Url.Reserved

namespace OfflineSite.Url

/-- Both slashes count for schemes that know them. -/
def isSlash (special : Bool) (c : Char) : Bool := c == '/' || (special && c == '\\')

def isAnySlash (c : Char) : Bool := isSlash true c

/-- Tabs and line ends, which are left out wherever they stand in a URL. -/
def isGap (c : Char) : Bool := c == '\t' || c == '\n' || c == '\r'

def withoutGaps (text : List Char) : List Char := text.filter (!isGap ·)

/-- A letter with a colon or bar: the name of a drive. -/
def isDrive : List Char → Bool
  | [c, d] => c.isAlpha && (d == ':' || d == '|')
  | _ => false

def isNormalDrive (piece : String) : Bool :=
  isDrive piece.toList && piece.toList.getLast? == some ':'

/-- The name of a drive, which a backslash and more may follow where it is no slash. -/
def namesDrive : List Char → Bool
  | c :: d :: rest => isDrive [c, d] && rest.head?.all (· == '\\')
  | _ => false

/-- A piece with the escapes of dots undone. -/
def dots (piece : List Char) : List Char :=
  match piece with
  | '%' :: '2' :: e :: rest => if e == 'e' || e == 'E' then '.' :: dots rest else piece
  | '.' :: rest => '.' :: dots rest
  | piece => piece
  termination_by piece.length

/-- A path that is being read: its last piece, to which text is added, and the pieces before it,
nearest first. -/
structure Draft where
  last : String
  before : List String
  /-- Whether it began with the name of a drive. -/
  hasDrive : Bool

namespace Draft

/-- The path that is one slash. -/
def root : Draft := ⟨"", [], false⟩

/-- The path with these pieces; that of no pieces is read as one slash. -/
def ofPieces (pieces : List String) : Draft :=
  match pieces.reverse with
  | [] => root
  | last :: before => ⟨last, before, false⟩

def pieces (draft : Draft) : List String := (draft.last :: draft.before).reverse

/-- Adds a slash. -/
def closed (draft : Draft) : Draft :=
  { draft with last := "", before := draft.last :: draft.before }

/-- Adds a slash where none stands at the end. -/
def ended (draft : Draft) : Draft := if draft.last.isEmpty then draft else draft.closed

/-- Empties the last piece. That of a file stays if it is a drive. -/
def emptied (file : Bool) (draft : Draft) : Draft :=
  if file && isNormalDrive draft.last then draft else { draft with last := "" }

/-- A step back over the last piece that a slash has closed. There is none over a drive. -/
def back (file : Bool) (draft : Draft) : Draft :=
  match draft.before with
  | piece :: rest =>
    if draft.last.isEmpty && !namesDrive piece.toList then
      emptied file { draft with last := piece, before := rest }
    else draft.emptied file
  | [] => draft.emptied file

/-- Adds text to the last piece. -/
def write (text : List Char) (draft : Draft) : Draft :=
  { draft with last := draft.last ++ escaped isReservedInPath text }

/-- The name of a drive as paths hold it. -/
def driveName (piece : List Char) : String := String.ofList (piece.take 1 ++ [':'])

/-- Adds a piece, `.` and `..` being steps. A drive that is the first piece of the path of a file
is kept with a colon. -/
def add (file isLast : Bool) (draft : Draft) (piece : List Char) : Draft :=
  let whole (draft : Draft) : Draft := if isLast then draft else draft.closed
  if dots piece = ['.', '.'] then
    if isLast then draft.back file else (draft.back file).ended
  else if dots piece = ['.'] then draft.ended
  else if file && isDrive piece && draft.last.isEmpty && draft.before.isEmpty then
    whole { draft with last := driveName piece, hasDrive := true }
  else whole (draft.write piece)

/-- The text in one piece that comes after the name of a drive and a gap. -/
def afterDrive? (piece : List Char) : Option (List Char) :=
  match withoutGaps piece with
  | c :: ':' :: d :: rest =>
    if c.isAlpha && (piece.dropWhile (· != ':')).tail.head?.any isGap then some (d :: rest)
    else none
  | _ => none

/-- Adds a piece to the path of a file. Where the path so far is a drive, a slash comes between;
text after a drive and a gap is taken as it stands. -/
def addToFile (isLast : Bool) (draft : Draft) (piece : List Char) : Draft :=
  let text := withoutGaps piece
  if draft.before.isEmpty && isNormalDrive draft.last && !text.isEmpty then
    draft.closed.add true isLast text
  else if draft.before.isEmpty && draft.last.isEmpty then
    match afterDrive? piece with
    | some after =>
      let draft := ({ draft with last := driveName text }).closed.write after
      if isLast then draft else draft.closed
    | none => draft.add true isLast text
  else draft.add true isLast text

/-- Adds pieces, the last of which no slash closes. -/
def addAll (add : Bool → Draft → List Char → Draft) : Draft → List (List Char) → Draft
  | draft, [] => draft
  | draft, [piece] => add true draft piece
  | draft, piece :: rest => addAll add (add false draft piece) rest

end Draft

end OfflineSite.Url
