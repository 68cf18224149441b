import Std.Data.TreeMap
import OfflineSite.Path

namespace OfflineSite

/-- A table from lower-case extensions, without a dot, to content types. -/
structure ContentTypes where
  table : Std.TreeMap String String
  deriving Inhabited

namespace ContentTypes

/-- The type of a file whose extension is not in the table. -/
def unknown : String := "application/octet-stream"

def builtin : List (String × String) :=
  [("html", "text/html"), ("css", "text/css"), ("js", "text/javascript"),
   ("json", "application/json"), ("png", "image/png"), ("jpg", "image/jpeg"),
   ("jpeg", "image/jpeg"), ("gif", "image/gif"), ("svg", "image/svg+xml"),
   ("ico", "image/x-icon"), ("mp4", "video/mp4"), ("webm", "video/webm"),
   ("woff", "font/woff"), ("woff2", "font/woff2"), ("ttf", "font/ttf"),
   ("eot", "application/vnd.ms-fontobject")]

/-- An extension as the table holds it: without leading dots, ASCII letters in lower case. -/
def normalize (extension : List Char) : String :=
  String.ofList ((extension.dropWhile (· == '.')).map Char.toLower)

/-- Lays one mapping over the table. -/
def insert (types : ContentTypes) (extension : String) (mime : String) : ContentTypes :=
  ⟨types.table.insert (normalize extension.toList) mime⟩

/-- Lays mappings over the table, a later one over an earlier. -/
def withExtra (types : ContentTypes) (extra : List (String × String)) : ContentTypes :=
  extra.foldl (fun types (extension, mime) => types.insert extension mime) types

/-- The built-in table. -/
def base : ContentTypes :=
  ⟨Std.TreeMap.ofList builtin⟩

/-- The type of a file, by the extension of its name. -/
def lookup (types : ContentTypes) (path : String) : String :=
  match Path.extension? path with
  | some extension =>
    (types.table[String.ofList (extension.map Char.toLower)]?).getD unknown
  | none => unknown

/-- How many extensions the table knows. -/
def size (types : ContentTypes) : Nat := types.table.size

def isEmpty (types : ContentTypes) : Bool := types.table.isEmpty

end ContentTypes

end OfflineSite
