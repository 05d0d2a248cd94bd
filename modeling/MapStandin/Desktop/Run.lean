import MapStandin.Desktop.Arguments
import MapStandin.Desktop.Exit
import MapStandin.Job.Run
import MapStandin.Text.Quoted

/-! # Desktop runs

A run takes the files as they are and the arguments, and answers with an exit status, the files
afterwards and the events it told. -/

namespace MapStandin.Desktop

open Parameter

structure Result where
  status : ExitStatus
  files : Files
  events : List Event

def closing (title : String) (status : ExitStatus) : Event :=
  if status.isSuccess then ⟨.info, s!"{title} - Execution completed successfully"⟩
  else ⟨.debug, s!"{title} - Exiting with code {status.code}"⟩

/-- The result of a job on the given files; a job that fails leaves them alone. -/
def conclude (c : Convention) (title : String) (opening : List Event) (files : Files)
    (job : Narrated Failure (Option Artifact × Files)) : Result :=
  let status := exitStatus c job.result
  { status := status
    files := match job.result with
      | .ok (_, written) => written
      | .error _ => files
    events := opening ++ job.events ++ [closing title status] }

def tellParameters (r : Request) : Narrated ε Unit := do
  Narrated.say .info "Parsed parameters:"
  Narrated.sayAll .info
    (r.texts.map fun (name, raw) => s!"  {name}: " ++ Text.cut loggedLength raw)

/-! ## Parameters as flags -/

def flagStandin : Standin := ⟨"FME Desktop V1 Mock", "result_v1.txt"⟩

/-- The checked job of a run with flags: its workspace, the folder for the result and the request.
-/
def prepareFlags (arguments : List String) :
    Narrated Rejection (Workspace × String × Request) := do
  let (w, flags) ← takeWorkspace arguments
  let r ← takeFlags desktopFlags flags
  tellParameters r
  Narrated.sayAll .warn
    ((desktopFlags.optionalNames.filter fun name => !r.contains name).map fun name =>
      s!"No --{name} parameter provided")
  if let some ⟨_, .json (.object members)⟩ := r.get? "Parameters" then
    Narrated.say .info s!"Custom parameters count: {members.length}"
  match (r.get? "FolderOut").bind fun a => a.value.asPath? with
  | some folder => return (w, folder, r)
  | none => Narrated.fail (.missingParameters ["FolderOut"])

def flagJob (files : Files) (arguments : List String) :
    Narrated Failure (Option Artifact × Files) := do
  let (w, folder, r) ← (prepareFlags arguments).mapError .rejected
  flagStandin.run files w folder r []

def runFlags (files : Files) (arguments : List String) : Result :=
  let opening : List Event := [
    ⟨.info, s!"{flagStandin.title} - Reading {arguments.length} arguments"⟩,
    ⟨.debug, "Arguments: " ++ Text.quotedList arguments⟩]
  conclude .flags flagStandin.title opening files (flagJob files arguments)

/-! ## Parameters in a file -/

def fileStandin : Standin := ⟨"FME Desktop V2 Mock", "result_v2.txt"⟩

def readFeature (files : Files) (path : String) : Narrated Rejection Feature := do
  if !files.isFile path then
    Narrated.fail (.parametersFileNotFound path)
  let content ← Narrated.of ((files.read path).mapError fun f => .invalidJson f.message)
  if (Utf8.decode? content).isNone then
    Narrated.fail (.invalidJson "stream did not contain valid UTF-8")
  let document ← Narrated.of ((Json.parse content).mapError .invalidJson)
  Narrated.say .info "Successfully parsed parameters file"
  let feature ← Narrated.of
    ((Feature.ofJson desktopProperties.requiredNames document).mapError .invalidFeature)
  Narrated.say .info "GeoJSON Feature structure is valid"
  return feature

def tellGeometry (feature : Feature) : Narrated ε Unit :=
  match feature.geometryKind with
  | some kind => Narrated.say .info s!"Geometry type: {kind.name}"
  | none => Narrated.say .info "Geometry: null"

def contextOf (path : String) (feature : Feature) : List (String × String) :=
  ("Parameters file", path) ::
    (feature.geometryKind.toList.map fun kind => ("Geometry type", kind.name))

/-- The checked job of a run with a parameters file: its workspace, the request and the context. -/
def prepareFile (files : Files) (arguments : List String) :
    Narrated Rejection (Workspace × Request × List (String × String)) := do
  let (w, flags) ← takeWorkspace arguments
  let flagged ← takeFlags desktopFileFlags flags
  let path := (flagged.raw? "parametersFile").getD ""
  Narrated.say .info s!"Parameters file: {path}"
  let feature ← readFeature files path
  let r ← Narrated.of (desktopProperties.readMapping feature.entries)
  tellParameters r
  Narrated.sayAll .debug
    ((feature.properties.filter fun (name, _) => !desktopProperties.declares name).map
      fun (name, _) => s!"Ignoring legacy property {name}")
  if let some (.object members) := feature.properties.lookup "Parameters" then
    Narrated.say .info s!"Parameters count: {members.length}"
  tellGeometry feature
  return (w, r, contextOf path feature)

def fileJob (files : Files) (arguments : List String) :
    Narrated Failure (Option Artifact × Files) := do
  let (w, r, context) ← (prepareFile files arguments).mapError .rejected
  fileStandin.run files w ((r.raw? "FolderOut").getD "") r context

def runFile (files : Files) (arguments : List String) : Result :=
  let opening : List Event := [
    ⟨.info, s!"{fileStandin.title} - Reading {arguments.length} arguments: " ++
      Text.quotedList arguments⟩]
  conclude .parametersFile fileStandin.title opening files (fileJob files arguments)

/-! ## Arguments as bytes -/

def standinOf : Convention → Standin
  | .flags => flagStandin
  | .parametersFile => fileStandin

def run : Convention → Files → List String → Result
  | .flags => runFlags
  | .parametersFile => runFile

def runBytes (c : Convention) (files : Files) (arguments : List (List UInt8)) : Result :=
  match decodeArguments arguments with
  | .ok texts => run c files texts
  | .error r => conclude c (standinOf c).title [] files (Narrated.fail (.rejected r))

end MapStandin.Desktop
