import OfflineSite.Path
import OfflineSite.Text.Percent

namespace OfflineSite.Asset

/-- The decoded path of a request target: escapes undone, then everything from the first `?`
dropped. So an escaped `?` ends the path too, and an escaped `..` is seen as what it is. -/
def requestPath (target : String) : String :=
  String.ofList ((Utf8.decodeLossy (Percent.decode target)).takeWhile (· != '?'))

/-- Appends the plain names of a path to a root. Any step that could leave the root is refused. -/
def descend (root : String) : List Path.Component → Option String
  | [] => some root
  | .name part :: rest => descend (Path.push root (String.ofList part)) rest
  | .here :: rest => descend root rest
  | .up :: _ => none
  | .root :: _ => none

/-- The file that a request path names under `root`; the default document stands in for an empty
path. -/
def resolve (root : String) (path : String) (defaultDocument : String) : Option String :=
  let relative := String.ofList (path.toList.dropWhile (· == '/'))
  descend root (Path.components (if relative = "" then defaultDocument else relative))

end OfflineSite.Asset
