import MapStandin.Http.Query
import MapStandin.MapServer.Fault
import MapStandin.Parameter.Request
import MapStandin.Settings.Basic
import MapStandin.Text.Cut

/-! # The map server

Services that are asked for by the parameters `SERVICE` and `REQUEST` of a query. The names of
parameters may be written in any case. -/

namespace MapStandin.MapServer

/-! ## Parameters -/

/-- The parameters of a request by their names in capitals. -/
abbrev Parameters := List (String × String)

/-- The parameters of a query; of names that differ only by case the first counts. -/
def parametersOf (pairs : List (String × String)) : Parameters :=
  Parameter.firstValues (pairs.map fun (name, value) => (Text.capitals name, value))

def Parameters.getD (p : Parameters) (name fallback : String) : String :=
  (p.lookup name).getD fallback

/-! ## Services -/

inductive Task
  | settings
  | print
  | features
  | unsupported (request : String)
  | noService
  deriving DecidableEq, Repr

/-- The task of a service and a request, both in capitals. -/
def taskOf (service request : String) : Task :=
  if service = "WMS" then
    if request = "GETPROJECTSETTINGS" then .settings
    else if request = "GETPRINT" then .print
    else .unsupported request
  else if service = "WFS" then
    if request = "GETFEATURE" then .features else .unsupported request
  else .noService

def Parameters.service (p : Parameters) : String := Text.capitals (p.getD "SERVICE" "")

def Parameters.request (p : Parameters) : String := Text.capitals (p.getD "REQUEST" "")

def usualProject : String := "/data/test_project.qgs"

/-- What a request says besides its parameters, and the settings and the time it meets. -/
structure Call where
  settings : MapSettings
  method : String
  project : Option String
  body : List UInt8
  stamp : String

namespace Call

/-- The project of a request: a parameter, else the path. -/
def projectOf (c : Call) (p : Parameters) : String :=
  p.getD "MAP" (c.project.getD usualProject)

def document (content : String) : Http.Response :=
  Http.textResponse .ok Http.xmlType content

/-! ## Project settings -/

def answerSettings (c : Call) : Narrated Fault Http.Response := do
  Narrated.say .info "Handling GetProjectSettings"
  return document (settingsDocument c.settings.template c.settings.layer)

/-! ## Prints -/

def printedPage : String :=
  "\n".intercalate [
    "%PDF-1.4",
    "1 0 obj", "<< /Type /Catalog /Pages 2 0 R >>", "endobj",
    "2 0 obj", "<< /Type /Pages /Kids [3 0 R] /Count 1 >>", "endobj",
    "3 0 obj",
    "<< /Type /Page /Parent 2 0 R /MediaBox [0 0 612 792] /Contents 4 0 R /Resources << >> >>",
    "endobj",
    "4 0 obj", "<< /Length 44 >>",
    "stream", "BT", "/F1 12 Tf", "100 700 Td", "(QGIS Server Mock - Test PDF) Tj", "ET", "endstream",
    "endobj",
    "xref", "0 5", "0000000000 65535 f", "0000000009 00000 n", "0000000058 00000 n",
    "0000000115 00000 n", "0000000216 00000 n",
    "trailer", "<< /Size 5 /Root 1 0 R >>",
    "startxref", "311",
    "%%EOF"]

def printName (template stamp : String) : String := s!"{template}_{stamp}.pdf"

def tellPrint (template key : String) (p : Parameters) : Narrated ε Unit :=
  let system := p.getD "CRS" "EPSG:2056"
  let layers := p.getD "LAYERS" ""
  let format := Text.small (p.getD "FORMAT" "pdf")
  Narrated.say .info
    (s!"Handling GetPrint: template {template}, ATLAS_PK {key}, CRS {system}, " ++
      s!"layers {layers}, format {format}")

def answerPrint (c : Call) (p : Parameters) : Narrated Fault Http.Response := do
  let template := p.getD "TEMPLATE" c.settings.template
  let key := p.getD "ATLAS_PK" ""
  tellPrint template key p
  if key = "" then
    Narrated.fail ⟨.missingParameter, "ATLAS_PK parameter is required for Atlas printing"⟩
  return Http.attachment (printName template c.stamp) Http.pdfType
    (.bytes (Utf8.encode printedPage))

/-! ## Features -/

def featureKeys : List Nat := [1, 2, 3, 5, 8]

def footprintSize : Nat := 100

def footprintCorner : Nat × Nat := (2500000, 1200000)

def whole (n : Nat) : Decimal.Double := .ofQuotient false n 1

/-- The features that are always found: squares on a diagonal. -/
def footprints : List Footprint :=
  featureKeys.zipIdx.map fun (key, i) =>
    let offset := i * footprintSize
    ⟨key, whole (footprintCorner.1 + offset), whole (footprintCorner.2 + offset),
      whole footprintSize⟩

def filterLength : Nat := 500

def answerFeatures (c : Call) (p : Parameters) : Narrated Fault Http.Response := do
  let layer := p.getD "TYPENAME" c.settings.layer
  Narrated.say .info s!"Handling GetFeature for {layer}"
  if c.body ≠ [] then
    Narrated.say .debug ("Filter: " ++ Text.cut filterLength (Utf8.decodeLossy c.body))
  Narrated.say .info s!"Returning {footprints.length} features"
  return document (collectionDocument layer footprints)

/-! ## All services -/

def answer (c : Call) (p : Parameters) : Narrated Fault Http.Response := do
  let project := c.projectOf p
  Narrated.say .info
    (s!"QGIS Server {c.method} request: service {p.service}, request {p.request}, " ++
      s!"map {project}")
  match taskOf p.service p.request with
  | .settings => c.answerSettings
  | .print => c.answerPrint p
  | .features => c.answerFeatures p
  | .unsupported request =>
    Narrated.fail ⟨.unsupported, s!"Request type '{request}' not supported"⟩
  | .noService => Narrated.fail ⟨.missingParameter, "SERVICE parameter is required"⟩

end Call

end MapStandin.MapServer
