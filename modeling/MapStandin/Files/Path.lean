import MapStandin.Text.Class
import MapStandin.Text.Fields

/-! # Paths

Paths as they are written: names joined by slashes. Nothing here looks at what exists. -/

namespace MapStandin.Path

/-- The names between the slashes, empty ones included. -/
def names (path : String) : List String :=
  (Text.fields '/' path.toList).map String.ofList

/-- Whether a name stays where it is: the empty one and the single dot. -/
def isIdle (name : String) : Bool :=
  name = "" || name = "."

/-- The last name of a path, if it names a file or folder of its own: slashes and single dots at the
end are skipped, and two dots name none. -/
def fileName? (path : String) : Option String :=
  match (names path).reverse.dropWhile isIdle with
  | [] => none
  | name :: _ => if name = ".." then none else some name

/-- A name up to its last dot; a dot at its start is no last dot. -/
def beforeExtension (name : String) : String :=
  match name.toList.reverse.dropWhile (· ≠ '.') with
  | [] | [_] => name
  | _ :: before => String.ofList before.reverse

def stem (path : String) : String :=
  ((fileName? path).map beforeExtension).getD ""

/-- The path of a name inside a folder. The folder keeps its spelling, and an absolute name stands
for itself. -/
def join (folder name : String) : String :=
  if Text.startsWith "/" name || folder.isEmpty then name
  else if Text.endsWith "/" folder then folder ++ name
  else folder ++ "/" ++ name

end MapStandin.Path
