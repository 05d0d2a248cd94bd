import MapStandin.Json.Value

/-! # Geometries of GeoJSON

The shape of a geometry is checked down to its type and the presence of its content: a collection
holds an array of geometries, any other kind has coordinates. -/

namespace MapStandin

namespace Geometry

inductive Kind
  | point
  | lineString
  | polygon
  | multiPoint
  | multiLineString
  | multiPolygon
  | collection
  deriving DecidableEq, Repr

def Kind.name : Kind → String
  | .point => "Point"
  | .lineString => "LineString"
  | .polygon => "Polygon"
  | .multiPoint => "MultiPoint"
  | .multiLineString => "MultiLineString"
  | .multiPolygon => "MultiPolygon"
  | .collection => "GeometryCollection"

def Kind.all : List Kind :=
  [.point, .lineString, .polygon, .multiPoint, .multiLineString, .multiPolygon, .collection]

def Kind.ofName? (s : String) : Option Kind :=
  Kind.all.find? fun k => k.name == s

theorem Kind.ofName?_name (k : Kind) : Kind.ofName? k.name = some k := by
  cases k <;> decide

inductive Fault
  | notObject
  | missingType
  | unsupported (name : String)
  | missingGeometries
  | missingCoordinates
  deriving DecidableEq, Repr

def Fault.message : Fault → String
  | .notObject => "geometry is not an object"
  | .missingType => "missing 'type'"
  | .unsupported name => s!"unsupported type '{name}'"
  | .missingGeometries => "missing 'geometries'"
  | .missingCoordinates => "missing 'coordinates'"

def kindOf (members : List (String × Json)) : Except Fault Kind :=
  match (members.lookup "type").bind Json.string? with
  | none => .error .missingType
  | some name =>
    match Kind.ofName? name with
    | none => .error (.unsupported name)
    | some kind => .ok kind

def hasCoordinates (members : List (String × Json)) : Bool :=
  match members.lookup "coordinates" with
  | none | some .null => false
  | some _ => true

mutual

/-- The first fault of a geometry; the members of a collection are looked at in order. -/
def fault? : Json → Option Fault
  | .object members =>
    match kindOf members with
    | .error f => some f
    | .ok .collection => collectionFault? members
    | .ok _ => if hasCoordinates members then none else some .missingCoordinates
  | _ => some .notObject

def collectionFault? : List (String × Json) → Option Fault
  | [] => some .missingGeometries
  | (name, v) :: rest => if name = "geometries" then itemsFault? v else collectionFault? rest

def itemsFault? : Json → Option Fault
  | .array items => firstFault? items
  | _ => some .missingGeometries

def firstFault? : List Json → Option Fault
  | [] => none
  | v :: rest =>
    match fault? v with
    | some f => some f
    | none => firstFault? rest

end

end Geometry

/-- A sound geometry: its kind and the value that holds it. -/
structure Geometry where
  kind : Geometry.Kind
  value : Json
  deriving Repr

def Geometry.ofJson (v : Json) : Except Geometry.Fault Geometry :=
  match Geometry.fault? v with
  | some f => .error f
  | none =>
    match v with
    | .object members => (Geometry.kindOf members).map fun kind => ⟨kind, v⟩
    | _ => .error .notObject

end MapStandin
