import MapStandin.Http.Message
import MapStandin.Settings.Basic
import MapStandin.Text.Percent
import MapStandin.Text.Utf8

/-! # Services and their places

The two services that listen for requests, and the paths at which each of them has something to
answer. -/

namespace MapStandin

inductive Service
  | dataDownload
  | mapServer
  deriving DecidableEq, Repr

namespace Service

def title : Service → String
  | .dataDownload => "FME Server Mock"
  | .mapServer => "QGIS Server Mock"

def port (settings : Settings) : Service → Nat
  | .dataDownload => settings.download.port
  | .mapServer => settings.map.port

end Service

namespace Server

inductive Place
  | queryJob (workspace : Option String)
  | featureJob (workspace : Option String)
  | trouble
  | resultFile (version filename : String)
  | map (project : Option String)
  | health
  deriving DecidableEq, Repr

namespace Place

/-! ## Paths -/

/-- What follows `head` in a path that goes on after it. -/
def below? (head path : String) : Option String :=
  (Text.after? head path).bind fun rest => if rest.isEmpty then none else some rest

/-- A version, which may be empty, and a file name, which may not, with a slash between them. -/
def resultFile? (s : String) : Option Place :=
  match Text.splitFirst '/' s.toList with
  | some (version, filename) =>
    if filename = [] || filename.contains '/' then none
    else some (.resultFile (String.ofList version) (String.ofList filename))
  | none => none

def ofDownloadPath? (path : String) : Option Place :=
  if path = "/fmeserver/v1/datadownload" then some (.queryJob none)
  else if path = "/fmeserver/v2/datadownload" then some (.featureJob none)
  else if path = "/fmeserver/error/test" then some .trouble
  else if let some workspace := below? "/fmedatadownload/Repositories/" path then
    some (.queryJob (some workspace))
  else if let some workspace := below? "/fmedatadownload/v2/" path then
    some (.featureJob (some workspace))
  else (below? "/download/" path).bind resultFile?

def ofMapPath? (path : String) : Option Place :=
  if path = "/qgis" then some (.map none)
  else (below? "/qgis/" path).map fun project => .map (some project)

/-- The place at a path, with names as they are written there. -/
def ofPath? (service : Service) (path : String) : Option Place :=
  if path = "/health" then some .health
  else match service with
    | .dataDownload => ofDownloadPath? path
    | .mapServer => ofMapPath? path

/-! ## Names in paths -/

/-- The name that is written in a path in percent encoding, or the label of a name that is no
UTF-8. -/
def readName (label : String) (written : String) : Except String String :=
  match Utf8.decode? (Percent.decode (Utf8.encode written)) with
  | some s => .ok s
  | none => .error label

def readOptional (label : String) : Option String → Except String (Option String)
  | some written => (readName label written).map some
  | none => .ok none

/-- The same place with the names that are meant. -/
def decoded : Place → Except String Place
  | .queryJob workspace => (readOptional "workspace" workspace).map .queryJob
  | .featureJob workspace => (readOptional "workspace" workspace).map .featureJob
  | .resultFile version filename => do
    let version ← readName "version" version
    let filename ← readName "filename" filename
    return .resultFile version filename
  | .map project => (readOptional "project" project).map .map
  | .trouble => .ok .trouble
  | .health => .ok .health

/-! ## Methods -/

/-- The names of the methods that a place handles. Where `GET` works, `HEAD` does. -/
def methods : Place → List Http.Method
  | .queryJob _ | .resultFile _ _ | .health => [.get, .head]
  | .featureJob _ => [.post]
  | .trouble | .map _ => [.get, .head, .post]

def handles (p : Place) (m : Http.Method) : Bool := p.methods.contains m

def methodText (p : Place) : String :=
  ",".intercalate (p.methods.map Http.Method.name)

/-! ## Bodies -/

def readsBody : Place → Bool
  | .featureJob _ | .map _ => true
  | .queryJob _ | .trouble | .resultFile _ _ | .health => false

/-- How many bytes a body may have where it is read. -/
def bodyLimit : Nat := 2097152

/-- Whether a body is short enough for a place. Where none is read, any length will do. -/
def fits (p : Place) (body : List UInt8) : Bool :=
  !p.readsBody || body.length ≤ bodyLimit

end Place

end Server

end MapStandin
