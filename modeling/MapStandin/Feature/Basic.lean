import MapStandin.Feature.Geometry
import MapStandin.Json.Printer

/-! # GeoJSON features as parameter documents

A document of parameters is a GeoJSON feature: a geometry or none, and properties that carry the
parameters. -/

namespace MapStandin

structure Feature where
  geometry : Option Geometry
  properties : List (String × Json)
  deriving Repr

namespace Feature

/-- Why a document is no feature with the required properties. -/
inductive Fault
  | notAnObject
  | notAFeature
  | missingGeometry
  | invalidGeometry (reason : String)
  | missingProperties
  | propertiesNotObject
  | missingProperty (name : String)
  deriving DecidableEq, Repr

def Fault.message : Fault → String
  | .notAnObject => "Root is not an object"
  | .notAFeature => "Type is not 'Feature'"
  | .missingGeometry => "Missing 'geometry' field"
  | .invalidGeometry reason => s!"Invalid geometry structure: {reason}"
  | .missingProperties => "Missing 'properties' field"
  | .propertiesNotObject => "Properties is not an object"
  | .missingProperty name => s!"Missing '{name}' in properties"

/-- The geometry kind of a name, or the fault of a geometry that has this type. -/
def kindOfName (name : String) : Except Fault Geometry.Kind :=
  match Geometry.Kind.ofName? name with
  | some kind => .ok kind
  | none => .error (.invalidGeometry (Geometry.Fault.unsupported name).message)

/-- The geometry of a feature with these members; null stands for none. -/
def geometryOf (members : List (String × Json)) : Except Fault (Option Geometry) :=
  match members.lookup "geometry" with
  | none => .error .missingGeometry
  | some .null => .ok none
  | some v =>
    match Geometry.ofJson v with
    | .error f => .error (.invalidGeometry f.message)
    | .ok g => .ok (some g)

def propertiesOf (members : List (String × Json)) : Except Fault (List (String × Json)) :=
  match members.lookup "properties" with
  | none => .error .missingProperties
  | some (.object properties) => .ok properties
  | some _ => .error .propertiesNotObject

/-- The feature in a document that has every required property. -/
def ofJson (required : List String) (document : Json) : Except Fault Feature := do
  let .object members := document | throw .notAnObject
  if (members.lookup "type").bind Json.string? ≠ some "Feature" then throw .notAFeature
  let geometry ← geometryOf members
  let properties ← propertiesOf members
  match required.find? fun name => (properties.lookup name).isNone with
  | some name => throw (.missingProperty name)
  | none => return ⟨geometry, properties⟩

/-- The text of a property: a string as it is, null as nothing, any other value as JSON. -/
def propertyText : Json → String
  | .string s => s
  | .null => ""
  | v => v.render

def entries (f : Feature) : List (String × String) :=
  f.properties.map fun (name, v) => (name, propertyText v)

def geometryKind (f : Feature) : Option Geometry.Kind :=
  f.geometry.map Geometry.kind

end Feature

end MapStandin
