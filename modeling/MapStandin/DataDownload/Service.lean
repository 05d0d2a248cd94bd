import MapStandin.DataDownload.Address
import MapStandin.DataDownload.Fault
import MapStandin.Http.Query
import MapStandin.Job.Run

/-! # The data download service

Jobs that are asked for over HTTP: with parameters in the query, or with a feature in the body. The
answer names the address of the result. -/

namespace MapStandin.DataDownload

open Parameter

def standin : Standin := ⟨"FME Server Mock", "result.zip"⟩

def absentText : String := "N/A"

def toldLine (name : String) (value : Option String) : String :=
  s!"  {name}: " ++ Text.cut loggedLength (value.getD absentText)

/-- What a request says besides its parameters, and the settings and the time it meets. -/
structure Call where
  settings : Settings
  host : Option String
  workspace : Workspace
  stamp : String

namespace Call

def address (c : Call) (version : String) : Except Fault String :=
  (resultAddress c.settings.baseUrl c.host version c.stamp).mapError .noAddress

def publish (c : Call) (convention : Convention) (version : String) :
    Narrated Fault Http.Response := do
  let url ← Narrated.of (c.address version)
  let outcome ← (standin.publish c.workspace url).settled
  return outcomeResponse convention outcome

def tellWorkspace (c : Call) (version : String) : Narrated ε Unit :=
  Narrated.say .info s!"FME Server {version} request for workspace '{c.workspace.identifier}'"

/-! ## Parameters in the query -/

/-- The parameters of a query: the first text of each name, unless it is empty. -/
def queryEntries (pairs : List (String × String)) : List (String × String) :=
  (firstValues pairs).filter fun p => p.2 ≠ ""

def answerQuery (c : Call) (pairs : List (String × String)) : Narrated Fault Http.Response := do
  c.tellWorkspace "V1"
  let entries := queryEntries pairs
  let r ← Narrated.of ((serverQuery.readMapping entries).mapError .ofRejection)
  Narrated.say .debug s!"Accepted {r.size} required parameters"
  Narrated.say .info "Received parameters:"
  Narrated.sayAll .info (toldQueryNames.map fun name => toldLine name (entries.lookup name))
  c.publish .query "v1"

/-! ## A feature in the body -/

def asksForJson (pairs : List (String × String)) : Bool :=
  (lastValues pairs).lookup "opt_responseformat" = some "json"

def tellFeature (f : Feature) : Narrated ε Unit := do
  match f.geometryKind with
  | some kind => Narrated.say .info s!"Geometry type: {kind.name}"
  | none => Narrated.say .info "Geometry: null"
  Narrated.say .info "Properties:"
  Narrated.sayAll .info (toldPropertyNames.map fun name =>
    toldLine name ((f.properties.lookup name).map Feature.propertyText))
  Narrated.sayAll .debug
    ((f.properties.filter fun (name, _) => !toldPropertyNames.contains name).map
      fun (name, _) => s!"Ignoring legacy property {name}")

def answerFeature (c : Call) (pairs : List (String × String)) (body : List UInt8) :
    Narrated Fault Http.Response := do
  c.tellWorkspace "V2"
  if !asksForJson pairs then Narrated.say .warn "opt_responseformat is not 'json'"
  let document ← Narrated.of ((Json.parse body).mapError .invalidBody)
  let f ← Narrated.of
    ((Feature.ofJson serverProperties.requiredNames document).mapError .invalidFeature)
  let _ ← Narrated.of ((serverProperties.readMapping f.entries).mapError .ofRejection)
  tellFeature f
  c.publish .feature "v2"

end Call

end MapStandin.DataDownload
