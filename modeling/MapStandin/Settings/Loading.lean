import MapStandin.Files.Store
import MapStandin.Json.Reader
import MapStandin.Settings.Basic
import MapStandin.Settings.Fault
import MapStandin.Settings.Way
import MapStandin.Text.Utf8

/-! # Loading settings

Settings come from a file and, over it, from variables of the environment. What neither says keeps
its usual value. -/

namespace MapStandin.Settings

/-! ## The file -/

/-- The settings file; one without extension hides it. Settings files in other formats are left out:
none is taken to be there. -/
def fileContent? (files : Files) : Option (List UInt8) :=
  if (files.content? "config").isSome then none else files.content? fileName

/-- What the settings file says. A file that is no UTF-8 says nothing. -/
def fileValue (files : Files) : Except Fault Value :=
  match (fileContent? files).filter fun content => (Utf8.decode? content).isSome with
  | none => .ok nothing
  | some content =>
    match Json.parse content with
    | .error reason => .error (.unreadable reason)
    | .ok (.object members) =>
      .ok (members.foldl (fun all m => putAlong (ofJson m.2) (wayOf m.1) (some all)) nothing)
    | .ok j => .error (.unreadable (unexpectedRoot (ofJson j)))
where
  nothing : Value := .table [] none
  unexpectedRoot (v : Value) : String :=
    (Fault.wrongType (nameOf v) "a map" none v.origin?).message

/-! ## The environment -/

def variableMark : String := "geodoubles__"

/-- The characters of a name with a point for every two underscores. -/
def dotted : List Char → List Char
  | '_' :: '_' :: rest => '.' :: dotted rest
  | c :: rest => c :: dotted rest
  | [] => []

/-- The way that the name of a variable names, if the variable holds a setting. -/
def variableWay? (name : String) : Option (List Step) :=
  (Text.after? variableMark (comparedName name)).map fun key =>
    wayOf (String.ofList (dotted key.toList))

def addVariable (all : Value) (name value : String) : Value :=
  match variableWay? name with
  | some way => putAlong (.scalar (ofText value) (some .environment)) way (some all)
  | none => all

/-! ## Single settings -/

def textOf (key : String) : Value → Except Fault String
  | .scalar (.text s) _ => .ok s
  | .scalar (.flag b) _ => .ok (if b then "true" else "false")
  | .scalar (.whole n) _ => .ok (toString n)
  | .scalar (.double d) _ => .ok (Decimal.plain.writeDouble d)
  | v => .error (unexpected v "a string" key)

def greatestNumber : Nat := twoTo 64 - 1

/-- A double as a number of 64 bits: rounded, and moved into the range. -/
def numberOfDouble : Decimal.Double → Nat
  | .nan => 0
  | .infinite negative => if negative then 0 else greatestNumber
  | .finite s m e => min (Decimal.Double.toNearestInt s m e).toNat greatestNumber

def numberOfText? (s : String) : Option Nat :=
  if ["true", "on", "yes"].contains (Text.small s) then some 1
  else if ["false", "off", "no"].contains (Text.small s) then some 0
  else (Decimal.signedNumber? s.toList).filter (· ≤ greatestNumber)

def numberOf (key : String) (v : Value) : Except Fault Nat :=
  match v with
  | .scalar (.flag b) _ => .ok (if b then 1 else 0)
  | .scalar (.double d) _ => .ok (numberOfDouble d)
  | .scalar (.whole n) _ =>
    if 0 ≤ n then .ok n.toNat
    else .error (unexpected v "an unsigned 64 bit or less integer" key)
  | .scalar (.text s) _ =>
    match numberOfText? s with
    | some n => .ok n
    | none => .error (unexpected v "an integer" key)
  | _ => .error (unexpected v "an integer" key)

def greatestPort : Nat := 65535

def portOf (key : String) (v : Value) : Except Fault Nat := do
  let n ← numberOf key v
  if n ≤ greatestPort then return n
  else throw (.wrongType s!"64-bit unsigned integer `{n}`" "an unsigned 16 bit integer" (some key)
    none)

/-! ## Groups of settings -/

/-- A group of settings as it is written: a table, or a list of the settings in their order. -/
structure Group where
  title : String
  key : String
  value : Option Value

/-- The setting of a group under a name, or at a place of the list, with the key that names it. -/
def Group.find? (g : Group) (name : String) (place : Nat) : Option (String × Value) :=
  match g.value with
  | some (.table entries _) => (entries.lookup name).map fun v => (g.key ++ "." ++ name, v)
  | some (.list items _) => (items[place]?).map fun v => (s!"{g.key}[{place}]", v)
  | _ => none

/-- The text of a setting of a group, or its usual value. -/
def Group.text (g : Group) (name : String) (place : Nat) (usual : String) : Except Fault String :=
  match g.find? name place with
  | some (key, v) => textOf key v
  | none => .ok usual

def Group.port (g : Group) (usual : Nat) : Except Fault Nat :=
  match g.find? "port" 0 with
  | some (key, v) => portOf key v
  | none => .ok usual

/-- How a single value is named that stands where a group is expected. -/
def scalarName : Scalar → String
  | .whole n => s!"integer `{n}`"
  | .double d =>
    match d with
    | .finite _ _ _ =>
      let text := Decimal.plain.writeDouble d
      "floating point `" ++ (if text.contains '.' then text else text ++ ".0") ++ "`"
    | _ => doubleName d
  | s => nameOf (.scalar s none)

def Group.check (g : Group) : Except Fault Unit :=
  match g.value with
  | some (.scalar s _) => .error (.wrongType (scalarName s) g.title none none)
  | _ => .ok ()

def downloadOf (g : Group) : Except Fault DownloadSettings := do
  g.check
  let usual : DownloadSettings := {}
  let port ← g.port usual.port
  let username ← g.text "username" 1 usual.login.username
  let password ← g.text "password" 2 usual.login.password
  let start ← g.text "token_prefix" 3 usual.tokens.start
  return ⟨port, ⟨username, password⟩, ⟨start⟩⟩

def mapOf (g : Group) : Except Fault MapSettings := do
  g.check
  let usual : MapSettings := {}
  let port ← g.port usual.port
  let username ← g.text "username" 1 usual.login.username
  let password ← g.text "password" 2 usual.login.password
  let template ← g.text "template_name" 3 usual.template
  let layer ← g.text "coverage_layer" 4 usual.layer
  return ⟨port, ⟨username, password⟩, template, layer⟩

/-! ## All settings -/

def textAt (entries : Entries) (name usual : String) : Except Fault String :=
  match entries.lookup name with
  | some v => textOf name v
  | none => .ok usual

def ofEntries (entries : Entries) : Except Fault Settings := do
  let usual : Settings := {}
  let host ← textAt entries "host" usual.host
  let baseUrl ← textAt entries "base_url" usual.baseUrl
  let download ← downloadOf ⟨"struct FmeServerConfig", "fme_server", entries.lookup "fme_server"⟩
  let map ← mapOf ⟨"struct QgisConfig", "qgis", entries.lookup "qgis"⟩
  return ⟨host, baseUrl, download, map⟩

/-- The settings that the settings file and the environment say. The environment is a list of named
texts, in the order in which they are taken. -/
def load (files : Files) (environment : List (String × String)) : Except Fault Settings := do
  let all ← fileValue files
  ofEntries (environment.foldl (fun all v => addVariable all v.1 v.2) all).entries

end MapStandin.Settings
