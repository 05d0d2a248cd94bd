import MapStandin.Desktop.Run

/-! # The part of a file system that a run looks at

A run depends on few places: those that its arguments name and the folder for its result. -/

namespace MapStandin.Desktop

open Parameter

/-- The folder for the result, as far as the arguments and the files tell it. -/
def resultFolder? (c : Convention) (files : Files) (arguments : List String) : Option String :=
  match c with
  | .flags => (prepareFlags arguments).result.toOption.map fun (_, folder, _) => folder
  | .parametersFile =>
    (prepareFile files arguments).result.toOption.bind fun (_, r, _) => r.raw? "FolderOut"

def resultPaths (c : Convention) (files : Files) (arguments : List String) : List String :=
  match resultFolder? c files arguments with
  | some folder => [folder, Path.join folder (standinOf c).artifactName]
  | none => []

def written (before after : Files) : List (String × List UInt8) :=
  after.nodes.filterMap fun (place, node) =>
    match node with
    | .folder => none
    | .file content =>
      if before.node? place = some node then none
      else some ("/" ++ "/".intercalate place, content)

end MapStandin.Desktop
