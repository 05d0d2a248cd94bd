import MapStandin.Desktop.Snapshot

/-! # The command line

Runs a desktop job on the files of this machine. The first argument says how the job takes its
parameters; events go to the output, and the failure of a job to the error stream. -/

namespace MapStandin.CommandLine

open Desktop

def convention? : String → Option Convention
  | "flags" => some .flags
  | "parameters-file" => some .parametersFile
  | _ => none

def usage : String :=
  "usage: flags WORKSPACE --NAME VALUE ...\n       parameters-file WORKSPACE --parametersFile PATH"

/-- Adds what a path leads to on this machine: a file, a folder or nothing. -/
def look (files : Files) (path : String) : IO Files := do
  try
    let place ← IO.FS.realPath path
    if ← place.isDir then return files.makeFolders path
    let content ← IO.FS.readBinFile path
    let folder := "/".intercalate (Path.names path).dropLast
    let files := if folder.isEmpty then files else files.makeFolders folder
    return ((files.write path content.toList).toOption).getD files
  catch _ => return files

def snapshot (c : Convention) (arguments : List String) : IO Files := do
  let here := (Path.names (toString (← IO.currentDir))).filter (!·.isEmpty)
  let files : Files := ({ here := here, nodes := [] } : Files).makeFolders "."
  let files := files.makeFolders ("/" ++ "/".intercalate here)
  let files ← arguments.foldlM look files
  (resultPaths c files arguments).foldlM look files

def runHere (c : Convention) (arguments : List String) : IO ExitStatus := do
  let before ← snapshot c arguments
  let result := run c before arguments
  for event in result.events do
    if event.level ≠ .debug ∧ event.level ≠ .trace then IO.println event.line
  try
    for (path, content) in written before result.files do
      IO.FS.writeBinFile path ⟨content.toArray⟩
    return result.status
  catch e =>
    let failure : Failure := .rejected (.artifactNotWritten (toString e))
    return exitStatus c (.error failure : Outcome)

end MapStandin.CommandLine

def main (arguments : List String) : IO UInt32 := do
  match arguments with
  | name :: rest =>
    match MapStandin.CommandLine.convention? name with
    | some c =>
      let status ← MapStandin.CommandLine.runHere c rest
      if let some text := status.stderr then IO.eprintln text
      return UInt32.ofNat status.code
    | none =>
      IO.eprintln MapStandin.CommandLine.usage
      return 2
  | [] =>
    IO.eprintln MapStandin.CommandLine.usage
    return 2
