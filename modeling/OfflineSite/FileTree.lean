import OfflineSite.Files
import OfflineSite.Path

namespace OfflineSite

/-- A file system in memory, with the failures that a real one has. Paths start at the root of the
tree whether or not they are absolute. -/
inductive FileTree where
  | file (data : ByteArray)
  | directory (entries : List (String × FileTree))
  deriving Inhabited

namespace FileTree

def empty : FileTree := .directory []

/-- The entry of a directory under a name. -/
def child? (entries : List (String × FileTree)) (name : String) :
    Except IoFailure (Option FileTree) :=
  if name.utf8ByteSize > 255 then .error .nameTooLong else .ok (entries.lookup name)

/-- Puts an entry under a name, in place of the one that was there. -/
def setChild (entries : List (String × FileTree)) (name : String) (tree : FileTree) : FileTree :=
  .directory ((name, tree) :: entries.filter (·.1 != name))

/-- What is found by following names from the top. -/
def find : List String → FileTree → Except IoFailure FileTree
  | [], tree => .ok tree
  | _ :: _, .file _ => .error .notADirectory
  | name :: rest, .directory entries => do
    match ← child? entries name with
    | some tree => find rest tree
    | none => .error .notFound

/-- Puts an entry in place of the file that was there. Its directory must be there. -/
def put (entry : FileTree) : List String → FileTree → Except IoFailure FileTree
  | [], _ => .error .isADirectory
  | _ :: _, .file _ => .error .notADirectory
  | [name], .directory entries => do
    match ← child? entries name with
    | some (.directory _) => .error .isADirectory
    | _ => return setChild entries name entry
  | name :: next :: rest, .directory entries => do
    match ← child? entries name with
    | some tree => return setChild entries name (← put entry (next :: rest) tree)
    | none => .error .notFound

/-- Takes out what is found under some names. -/
def remove : List String → FileTree → FileTree
  | [name], .directory entries => .directory (entries.filter (·.1 != name))
  | name :: rest, .directory entries =>
    .directory (entries.map fun (n, tree) => if n == name then (n, remove rest tree) else (n, tree))
  | _, tree => tree

/-- A step along a path. -/
inductive Step where
  /-- A `.`, which only a directory has. -/
  | here
  /-- A `..`, which only a directory has. -/
  | up
  | name (text : String)

/-- The step that a piece between separators stands for. -/
def Step.ofPiece? (piece : List Char) : Option Step :=
  if piece = [] then none
  else if piece = ['.'] then some .here
  else if piece = ['.', '.'] then some .up
  else some (.name (String.ofList piece))

/-- The entries of what is found under some names, which must be a directory. -/
def entries (tree : FileTree) (names : List String) :
    Except IoFailure (List (String × FileTree)) := do
  match ← tree.find names with
  | .directory entries => return entries
  | .file _ => .error .notADirectory

/-- The names of what some steps lead to, which must be there. The names so far are given last
first. -/
def follow (tree : FileTree) : List String → List Step → Except IoFailure (List String)
  | names, [] => .ok names.reverse
  | names, step :: rest => do
    let entries ← tree.entries names.reverse
    match step with
    | .here => follow tree names rest
    | .up => follow tree names.tail rest
    | .name name =>
      match ← child? entries name with
      | some _ => follow tree (name :: names) rest
      | none => .error .notFound

/-- The steps of a path, if the system takes it as one. -/
def steps (path : String) : Except IoFailure (List Step) :=
  if path.isEmpty then .error .notFound
  else if path.toList.contains '\x00' then .error .nulInName
  else if path.utf8ByteSize ≥ 4096 then .error .nameTooLong
  else .ok ((Split.pieces (· == '/') path.toList).filterMap Step.ofPiece?)

/-- Whether a path ends in a separator, so that only a directory can be meant. -/
def demandsDirectory (path : String) : Bool := path.toList.getLast? == some '/'

/-- What is found under a path. -/
def lookup (tree : FileTree) (path : String) : Except IoFailure FileTree := do
  match ← tree.find (← tree.follow [] (← steps path)) with
  | .file data => if demandsDirectory path then .error .notADirectory else return .file data
  | found => return found

def isPresent (tree : FileTree) (path : String) : Bool := (tree.lookup path).isOk

def isDirectory (tree : FileTree) (path : String) : Bool :=
  match tree.lookup path with
  | .ok (.directory _) => true
  | _ => false

def read (tree : FileTree) (path : String) : Except IoFailure ByteArray := do
  match ← tree.lookup path with
  | .file data => return data
  | .directory _ => .error .isADirectory

/-- The names that a path leads to, the last of which need not be there; `none` for one that ends
in `.` or `..` and for the top. -/
def locate (tree : FileTree) (path : String) : Except IoFailure (Option (List String)) := do
  let steps ← steps path
  let names ← tree.follow [] steps.dropLast
  let _ ← tree.entries names
  match steps.getLast? with
  | some (.name name) => return some (names ++ [name])
  | _ => return none

def write (tree : FileTree) (path : String) (data : ByteArray) : Except IoFailure FileTree := do
  match ← tree.locate path, demandsDirectory path with
  | some names, false => put (.file data) names tree
  | _, _ => .error .isADirectory

/-- Makes a directory. The one that holds it must be there. -/
def makeDirectory (tree : FileTree) (path : String) : Except IoFailure FileTree := do
  match ← tree.locate path with
  | some names =>
    match tree.find names with
    | .ok _ => .error .alreadyExists
    | .error .notFound => put empty names tree
    | .error failure => .error failure
  | none => .error .alreadyExists

/-- Makes the first of some directories that can be made or is there, each being held by the next.
The result begins with those before it, the last of them first. -/
def makeFirst (missing : List String) :
    List String → FileTree → Except IoFailure (List String × FileTree)
  | [], tree => .ok (missing, tree)
  | path :: above, tree =>
    match tree.makeDirectory path with
    | .ok tree => .ok (missing, tree)
    | .error .notFound => makeFirst (path :: missing) above tree
    | .error failure => if tree.isDirectory path then .ok (missing, tree) else .error failure

/-- Makes directories one after the other, up to a failure. -/
def makeAll : List String → FileTree → Except IoFailure Unit × FileTree
  | [], tree => (.ok (), tree)
  | path :: rest, tree =>
    match tree.makeDirectory path with
    | .ok tree => makeAll rest tree
    | .error failure =>
      if tree.isDirectory path then makeAll rest tree else (.error failure, tree)

/-- Makes a directory and those above it that are missing. Those made before a failure stay. -/
def makeDirectories (tree : FileTree) (path : String) : Except IoFailure Unit × FileTree :=
  match makeFirst [] (Path.ancestors path) tree with
  | .ok (missing, tree) => makeAll missing tree
  | .error failure => (.error failure, tree)

/-- Moves a file, in place of the file that was there. -/
def rename (tree : FileTree) (source target : String) : Except IoFailure FileTree := do
  match ← tree.locate source, ← tree.locate target with
  | some sourceNames, some names =>
    let data ← tree.read source
    if let .error .nameTooLong := tree.find names then throw .nameTooLong
    if demandsDirectory target then throw .notADirectory
    let moved ← put (.file data) names tree
    return if sourceNames = names then moved else moved.remove sourceNames
  | _, _ => .error .busy

/-- The names in a directory, sorted. -/
def list (tree : FileTree) (path : String) : Except IoFailure (List String) := do
  match ← tree.lookup path with
  | .directory entries =>
    return (entries.map (·.1)).mergeSort fun x y => compare x y != .gt
  | .file _ => .error .notADirectory

/-- Changes the tree unless that fails. -/
def change (act : FileTree → Except IoFailure FileTree) : StateM FileTree (Except IoFailure Unit) :=
  fun tree => match act tree with
    | .ok tree => (.ok (), tree)
    | .error failure => (.error failure, tree)

/-- The tree as a place that holds files. -/
def files : Files (StateM FileTree) where
  isPresent path := fun tree => (tree.isPresent path, tree)
  read path := fun tree => (tree.read path, tree)
  makeDirectories path := fun tree => tree.makeDirectories path
  write path data := change (·.write path data)
  rename source target := change (·.rename source target)

end FileTree

end OfflineSite
