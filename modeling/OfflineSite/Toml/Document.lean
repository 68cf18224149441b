import OfflineSite.Toml.Lexical

namespace OfflineSite.Toml

/-- A place in a document that is still being built. -/
inductive Node where
  /-- A value, which nothing can be added to. -/
  | closed (value : Value)
  /-- A table. It is implied when only keys and headers below it were given, and dotted when it was
  dotted keys that implied it. -/
  | table (implied dotted : Bool) (entries : List (String × Node))
  /-- The tables of an array of tables, each opened by its own header. -/
  | tables (items : List (List (String × Node)))
  deriving Inhabited

/-- An open table. Who may add to a table is told by how it was opened: one that a header opened is
not reopened, and one that dotted keys built is not opened by a header. -/
structure OpenTable where
  implied : Bool
  dotted : Bool
  entries : List (String × Node)

namespace OpenTable

/-- The table that a header opens. -/
def fresh : OpenTable := ⟨false, false, []⟩

def toNode (t : OpenTable) : Node := .table t.implied t.dotted t.entries

/-- Puts a node under a key, in place of the one that was there. -/
def set (t : OpenTable) (key : String) (node : Node) : OpenTable :=
  { t with entries :=
      if (t.entries.lookup key).isSome then
        t.entries.map fun (k, n) => if k == key then (k, node) else (k, n)
      else t.entries ++ [(key, node)] }

end OpenTable

/-- Changes the table that a path leads to. Tables on the way are made where they are missing; of
an array of tables the last is meant. Dotted keys enter only tables that no header opened. -/
def modifyAt (dotted : Bool) (change : OpenTable → Option OpenTable) :
    List String → OpenTable → Option OpenTable
  | [], t => change t
  | part :: path, t =>
    match t.entries.lookup part with
    | none => do
      let child ← modifyAt dotted change path ⟨true, dotted, []⟩
      return t.set part child.toNode
    | some (.closed _) => none
    | some (.tables items) => do
      let last ← items.getLast?
      let child ← modifyAt dotted change path ⟨false, false, last⟩
      return t.set part (.tables (items.dropLast ++ [child.entries]))
    | some (.table implied dotted' entries) =>
      if dotted && !implied then none
      else do
        let child ← modifyAt dotted change path ⟨implied, dotted', entries⟩
        return t.set part child.toNode

/-- Adds one key to a table. A table entered by a dotted key must have been built by dotted keys,
and the key must be new. -/
def addKey (path : List String) (key : String) (value : Value) (t : OpenTable) :
    Option OpenTable :=
  modifyAt true (fun t =>
    if t.dotted == path.isEmpty then none
    else match t.entries.lookup key with
      | some _ => none
      | none => some (t.set key (.closed value))) path t

/-- Adds a dotted key to a table. -/
def assign (key : List String) (value : Value) (t : OpenTable) : Option OpenTable := do
  let last ← key.getLast?
  addKey key.dropLast last value t

/-- Opens a table by its header. It must be new, or implied by headers alone. -/
def openTable (path : List String) (root : OpenTable) : Option OpenTable := do
  let last ← path.getLast?
  modifyAt false (fun t =>
    match t.entries.lookup last with
    | none => some (t.set last (.table false false []))
    | some (.table true false entries) => some (t.set last (.table false false entries))
    | some _ => none) path.dropLast root

/-- Opens the next table of an array of tables. -/
def openItem (path : List String) (root : OpenTable) : Option OpenTable := do
  let last ← path.getLast?
  modifyAt false (fun t =>
    match t.entries.lookup last with
    | none => some (t.set last (.tables [[]]))
    | some (.tables items) => some (t.set last (.tables (items ++ [[]])))
    | some _ => none) path.dropLast root

mutual

/-- The value of a finished node. -/
def Node.value : Node → Value
  | .closed value => value
  | .table _ _ entries => .table (Node.values entries)
  | .tables items => .array (Node.itemValues items)

def Node.values : List (String × Node) → List (String × Value)
  | [] => []
  | (key, node) :: rest => (key, node.value) :: Node.values rest

def Node.itemValues : List (List (String × Node)) → List Value
  | [] => []
  | entries :: rest => .table (Node.values entries) :: Node.itemValues rest

end

/-- Reads the items of an array after its bracket. -/
def arrayItems (item : Reader Value) : Nat → Reader (List Value)
  | 0, _ => none
  | fuel + 1, text => do
    match ← skipLines text.length text with
    | ']' :: rest => return ([], rest)
    | text =>
      let (value, rest) ← item text
      match ← skipLines rest.length rest with
      | ',' :: rest =>
        let (values, rest) ← arrayItems item fuel rest
        return (value :: values, rest)
      | ']' :: rest => return ([value], rest)
      | _ => none

/-- Reads the pairs of an inline table, at least one. -/
def inlinePairs (item : Reader Value) : Nat → OpenTable → Reader OpenTable
  | 0, _, _ => none
  | fuel + 1, t, text => do
    let (path, rest) ← key text
    let (value, rest) ← item (skipBlanks (← after? '=' rest))
    let t ← assign path value t
    match skipBlanks rest with
    | ',' :: rest => inlinePairs item fuel t rest
    | '}' :: rest => return (t, rest)
    | _ => none

/-- Reads a value; `depth` bounds how deep arrays and inline tables nest. -/
def value : Nat → Reader Value
  | 0, _ => none
  | depth + 1, text =>
    match text with
    | '"' :: _ => (string? text).map fun (text, rest) => (.string text, rest)
    | '\'' :: _ => (string? text).map fun (text, rest) => (.string text, rest)
    | 't' :: 'r' :: 'u' :: 'e' :: rest => some (.boolean true, rest)
    | 'f' :: 'a' :: 'l' :: 's' :: 'e' :: rest => some (.boolean false, rest)
    | '[' :: rest =>
      if depth == 0 then none
      else (arrayItems (value depth) (rest.length + 1) rest).map fun (items, rest) =>
        (.array items, rest)
    | '{' :: rest =>
      if depth == 0 then none
      else match skipBlanks rest with
        | '}' :: rest => some (.table [], rest)
        | rest =>
          (inlinePairs (value depth) (rest.length + 1) .fresh rest).map fun (t, rest) =>
            (t.toNode.value, rest)
    | _ => (datetime text).or ((float text).or (integer text))

/-- A document as far as it was read: its table, and the header that the next pairs belong to. -/
structure Progress where
  root : OpenTable
  header : List String

/-- Reads one line, or a pair whose value takes several. -/
def statement (progress : Progress) (text : List Char) : Option (Progress × List Char) :=
  match skipBlanks text with
  | '[' :: '[' :: rest => do
    let (path, rest) ← key rest
    let rest ← lineEnd? (← after? ']' (← after? ']' rest))
    return (⟨← openItem path progress.root, path⟩, rest)
  | '[' :: rest => do
    let (path, rest) ← key rest
    let rest ← lineEnd? (← after? ']' rest)
    return (⟨← openTable path progress.root, path⟩, rest)
  | text =>
    match lineEnd? text with
    | some rest => some (progress, rest)
    | none => do
      let (path, rest) ← key text
      let (item, rest) ← value nestingLimit (skipBlanks (← after? '=' rest))
      let rest ← lineEnd? rest
      return (⟨← modifyAt false (assign path item) progress.header progress.root,
        progress.header⟩, rest)

/-- Reads statements to the end of the text. -/
def statements : Nat → Progress → List Char → Option OpenTable
  | _, progress, [] => some progress.root
  | 0, _, _ => none
  | fuel + 1, progress, text => do
    let (progress, rest) ← statement progress text
    statements fuel progress rest

/-- A text without the mark that some editors put in front. -/
def dropMark : List Char → List Char
  | '\uFEFF' :: rest => rest
  | text => text

/-- The table that a text describes, if it is TOML. -/
def parse? (text : String) : Option Table :=
  let chars := dropMark text.toList
  (statements (chars.length + 1) ⟨.fresh, []⟩ chars).map fun root => Node.values root.entries

end OfflineSite.Toml
