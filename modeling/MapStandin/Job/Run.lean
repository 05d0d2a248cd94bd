import MapStandin.Files.Store
import MapStandin.Job.Outcome
import MapStandin.Job.Workspace
import MapStandin.Log
import MapStandin.Parameter.Request
import MapStandin.Text.Cut
import MapStandin.Text.Utf8

/-! # Running jobs

A stand-in takes the place of the program that would do the work: it lets a job fail or succeed as
the workspace asks and writes a short result file, or names the address of one. -/

namespace MapStandin

/-- A stand-in: its title and the name of its result file. -/
structure Standin where
  title : String
  artifactName : String
  deriving DecidableEq, Repr

namespace Standin

def labelled (limit : Nat) (entry : String × String) : String :=
  entry.1 ++ ": " ++ Text.cut limit entry.2

/-- The lines of a result file: a heading, the workspace, then the context and the parameters. -/
def lines (s : Standin) (w : Workspace) (context : List (String × String))
    (r : Parameter.Request) : List String :=
  (s.title ++ " - Execution successful") :: ("Workspace: " ++ w.identifier) ::
    (context ++ r.texts).map (labelled Parameter.filedLength)

def report (s : Standin) (w : Workspace) (context : List (String × String))
    (r : Parameter.Request) : String :=
  "\n".intercalate (s.lines w context r) ++ "\n"

/-- Writes a result file into a folder that exists; the path and the files afterwards. -/
def writeResult (files : Files) (folder name text : String) :
    Except Rejection (String × Files) :=
  if files.isFolder folder then
    let path := Path.join folder name
    match files.write path (Utf8.encode text) with
    | .ok files => .ok (path, files)
    | .error f => .error (.artifactNotWritten f.message)
  else .error (.outputFolderMissing folder)

def simulateFailure (w : Workspace) : Narrated Failure α := do
  Narrated.say .info s!"Workspace {w.identifier} simulates a failure"
  Narrated.fail .simulated

def run (s : Standin) (files : Files) (w : Workspace) (folder : String) (r : Parameter.Request)
    (context : List (String × String)) : Narrated Failure (Option Artifact × Files) :=
  match w.verdict with
  | .fail => simulateFailure w
  | .noArtifact => do
    Narrated.say .info "Workspace configured to produce no files"
    return (none, files)
  | .produce => do
    let (path, files) ← Narrated.of
      ((writeResult files folder s.artifactName (s.report w context r)).mapError .rejected)
    Narrated.say .info s!"Created output file: {path}"
    return (some ⟨s.artifactName, "text/plain", .written path⟩, files)

/-- Runs a job whose result is fetched later from an address. -/
def publish (s : Standin) (w : Workspace) (url : String) : Narrated Failure (Option Artifact) :=
  match w.verdict with
  | .fail => simulateFailure w
  | .noArtifact | .produce => return some ⟨s.artifactName, "application/zip", .download url⟩

end Standin

end MapStandin
