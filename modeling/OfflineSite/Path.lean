import OfflineSite.Text.Split

namespace OfflineSite.Path

/-- One step of a path. -/
inductive Component where
  /-- The leading `/` of an absolute path. -/
  | root
  /-- A leading `.`. -/
  | here
  /-- A `..`. -/
  | up
  /-- A plain name: not empty, without `/`, neither `.` nor `..`. -/
  | name (part : List Char)
  deriving Repr, DecidableEq

/-- The component that a piece between separators stands for. -/
def Component.ofPiece? (piece : List Char) : Option Component :=
  if piece = [] ∨ piece = ['.'] then none
  else if piece = ['.', '.'] then some .up
  else some (.name piece)

/-- The leading component of a path that the plain names do not show. -/
def lead : List Char → List Component
  | '/' :: _ => [.root]
  | ['.'] => [.here]
  | '.' :: '/' :: _ => [.here]
  | _ => []

/-- The components of a path, in order. Repeated and trailing separators are forgotten, and every
`.` except a leading one. -/
def components (path : String) : List Component :=
  lead path.toList ++
    (Split.pieces (· == '/') path.toList).filterMap Component.ofPiece?

def isAbsolute (path : String) : Bool := path.toList.head? == some '/'

/-- Appends a path. One separator is added unless the base is empty or ends in one; an absolute
path stands on its own. -/
def push (base : String) (path : String) : String :=
  if isAbsolute path then path
  else if base.toList.getLast?.all (· == '/') then base ++ path
  else base ++ "/" ++ path

/-- The last component, if it is a plain name. -/
def fileName? (path : String) : Option (List Char) :=
  match (components path).getLast? with
  | some (.name part) => some part
  | _ => none

/-- A file name split at its last dot. A name whose only dot leads has no extension. -/
def splitName (name : List Char) : List Char × Option (List Char) :=
  match Split.last? (· == '.') name with
  | some ([], _) => (name, none)
  | some (stem, extension) => (stem, some extension)
  | none => (name, none)

/-- The text after the last dot of the file name. -/
def extension? (path : String) : Option (List Char) :=
  (fileName? path).bind fun name => (splitName name).2

/-- The characters that end a path without adding a component: separators, and `.` pieces. -/
def dropTrailing : List Char → List Char
  | '/' :: rest => dropTrailing rest
  | '.' :: '/' :: rest => dropTrailing ('/' :: rest)
  | rest => rest
  termination_by reversed => reversed.length

/-- The path with its file name's extension set to `extension`. A path without a file name is
left as it is. What stands before the last dot of a name is kept whatever it is, as the rule for
setting an extension is documented: `..x` becomes `..` and the extension. An implementation that cuts
the old extension off first is left with `..` there, which is no file name, and stops at that. -/
def withExtension (path : String) (extension : String) : String :=
  match fileName? path with
  | none => path
  | some name =>
    let kept := (dropTrailing path.toList.reverse).reverse
    String.ofList (kept.take (kept.length - name.length) ++ (splitName name).1) ++ "." ++ extension

/-- The components of the path that holds this one; `none` for a root and for the empty path. -/
def parent? (path : String) : Option (List Component) :=
  match components path with
  | [] => none
  | [.root] => none
  | steps => some steps.dropLast

def Component.text : Component → String
  | root => "/"
  | here => "."
  | up => ".."
  | name part => String.ofList part

/-- The path that takes some steps. -/
def ofComponents (steps : List Component) : String :=
  steps.foldl (fun base step => push base step.text) ""

/-- The path that holds this one, as text. -/
def parentText? (path : String) : Option String := (parent? path).map ofComponents

/-- A path and those that hold it, the nearest first, without the empty one. -/
def ancestors (path : String) : List String :=
  let steps := components path
  (path :: (List.range steps.length).reverse.map fun n => ofComponents (steps.take n)).filter
    (!·.isEmpty)

end OfflineSite.Path
