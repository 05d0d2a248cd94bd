import MapStandin.Parameter.Kind

/-! # Parameter tables

The parameters that each protocol variant expects. -/

namespace MapStandin.Parameter

structure Spec where
  name : String
  kind : Kind
  required : Bool
  deriving DecidableEq, Repr

/-- The parameters of one protocol variant, in the order in which they are declared. -/
structure Schema where
  name : String
  specs : List Spec
  deriving DecidableEq, Repr

namespace Schema

def spec? (schema : Schema) (name : String) : Option Spec :=
  schema.specs.find? fun spec => spec.name == name

def declares (schema : Schema) (name : String) : Bool :=
  (schema.spec? name).isSome

def requiredNames (schema : Schema) : List String :=
  (schema.specs.filter Spec.required).map Spec.name

def optionalNames (schema : Schema) : List String :=
  (schema.specs.filter fun spec => !spec.required).map Spec.name

def Distinct (schema : Schema) : Prop :=
  (schema.specs.map Spec.name).Nodup

theorem spec?_name {schema : Schema} {name : String} {spec : Spec}
    (h : schema.spec? name = some spec) : spec.name = name := by
  simpa using List.find?_some h

theorem mem_of_spec? {schema : Schema} {name : String} {spec : Spec}
    (h : schema.spec? name = some spec) : spec ∈ schema.specs :=
  List.mem_of_find?_eq_some h

end Schema

/-! ## The tables -/

def desktopFlags : Schema where
  name := "fme-desktop-v1"
  specs := [
    ⟨"FolderOut", .path, true⟩,
    ⟨"Perimeter", .polygon, false⟩,
    ⟨"Product", .guid, false⟩,
    ⟨"OrderLabel", .nonEmpty, true⟩,
    ⟨"Client", .guid, true⟩,
    ⟨"Organism", .guid, true⟩,
    ⟨"Request", .positiveInteger, true⟩,
    ⟨"Parameters", .json, true⟩]

def desktopFileFlags : Schema where
  name := "fme-desktop-v2-args"
  specs := [⟨"parametersFile", .path, true⟩]

def desktopProperties : Schema where
  name := "fme-desktop-v2-properties"
  specs := [⟨"FolderOut", .nonEmpty, true⟩, ⟨"Parameters", .anyText, true⟩]

def serverQuery : Schema where
  name := "fme-server-v1"
  specs := [⟨"Product", .nonEmpty, true⟩, ⟨"FolderOut", .nonEmpty, true⟩]

def serverProperties : Schema where
  name := "fme-server-v2"
  specs := [⟨"FolderOut", .anyText, true⟩, ⟨"Parameters", .anyText, true⟩]

def toldQueryNames : List String :=
  ["Product", "Perimeter", "FolderOut", "Parameters", "OrderLabel", "Request", "Client",
    "Organism"]

def toldPropertyNames : List String :=
  ["FolderOut", "OrderGuid", "OrderLabel", "Client", "ClientName", "Organism", "OrganismName",
    "Product", "ProductLabel", "Parameters", "id"]

/-! ## Limits of shown values -/

/-- The number of characters of a value that the log shows. -/
def loggedLength : Nat := 100

/-- The number of characters of a value that a result file shows. -/
def filedLength : Nat := 200

end MapStandin.Parameter
