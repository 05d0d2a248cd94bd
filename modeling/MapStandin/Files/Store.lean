import MapStandin.Files.Path

/-! # Folders and files

A file system without links: every place is a folder, a file or nothing. Parts of it may be closed to
writing, and files to reading. -/

namespace MapStandin

abbrev Location := List String

inductive Node
  | folder
  | file (content : List UInt8)
  deriving DecidableEq, Repr

/-- The places that hold something, the folder that relative paths start from, the places at and
below which nothing can be written, and the files that cannot be read. -/
structure Files where
  here : Location
  nodes : List (Location × Node)
  readOnly : List Location := []
  unreadable : List Location := []
  deriving DecidableEq, Repr

namespace Files

/-- What is at a place; the root is a folder. -/
def node? (files : Files) (place : Location) : Option Node :=
  if place = [] then some .folder else files.nodes.lookup place

def put (files : Files) (place : Location) (node : Node) : Files :=
  { files with nodes := set files.nodes }
where
  set : List (Location × Node) → List (Location × Node)
    | [] => [(place, node)]
    | (p, n) :: rest => if p = place then (p, node) :: rest else (p, n) :: set rest

/-! ## Finding places -/

/-- Why a path leads to no place, or to one that cannot be read or written. -/
inductive Fault
  | notFound
  | notFolder
  | isFolder
  | tooLong
  | nullByte
  | denied
  | readOnly
  deriving DecidableEq, Repr

def Fault.message : Fault → String
  | .notFound => "No such file or directory (os error 2)"
  | .notFolder => "Not a directory (os error 20)"
  | .isFolder => "Is a directory (os error 21)"
  | .tooLong => "File name too long (os error 36)"
  | .nullByte => "file name contained an unexpected NUL byte"
  | .denied => "Permission denied (os error 13)"
  | .readOnly => "Read-only file system (os error 30)"

def pathLimit : Nat := 4096

def nameLimit : Nat := 255

/-- Where a name leads from a folder; two dots lead up, at the root nowhere. -/
def step (place : Location) (name : String) : Location :=
  if Path.isIdle name then place
  else if name = ".." then place.dropLast
  else place ++ [name]

/-- Follows names from a place. Every name but the first needs a folder to start from. -/
def walk (files : Files) (place : Location) : List String → Except Fault Location
  | [] => .ok place
  | name :: rest =>
    match files.node? place with
    | some .folder =>
      if nameLimit < name.utf8ByteSize then .error .tooLong else walk files (step place name) rest
    | some (.file _) => .error .notFolder
    | none => .error .notFound

def start (files : Files) (path : String) : Location :=
  if Text.startsWith "/" path then [] else files.here

/-- What is wrong with a path whatever exists. -/
def pathFault? (path : String) : Option Fault :=
  if path.toList.contains '\x00' then some .nullByte
  else if path.isEmpty then some .notFound
  else if pathLimit ≤ path.utf8ByteSize then some .tooLong
  else none

/-- The place that a path leads to; there may be nothing. -/
def locate (files : Files) (path : String) : Except Fault Location :=
  match pathFault? path with
  | some f => .error f
  | none => files.walk (files.start path) (Path.names path)

def find? (files : Files) (path : String) : Option Node :=
  match files.locate path with
  | .ok place => files.node? place
  | .error _ => none

def isFolder (files : Files) (path : String) : Bool :=
  files.find? path == some .folder

def content? (files : Files) (path : String) : Option (List UInt8) :=
  match files.find? path with
  | some (.file content) => some content
  | _ => none

def isFile (files : Files) (path : String) : Bool :=
  (files.content? path).isSome

def read (files : Files) (path : String) : Except Fault (List UInt8) := do
  let place ← files.locate path
  match files.node? place with
  | none => throw .notFound
  | some .folder => throw .isFolder
  | some (.file content) =>
    if place ∈ files.unreadable then throw .denied
    return content

/-! ## Writing -/

def isReadOnly (files : Files) (place : Location) : Bool :=
  files.readOnly.any fun p => p.isPrefixOf place

/-- The place of the file that a path names for writing. -/
def target (files : Files) (path : String) : Except Fault Location := do
  if let some f := pathFault? path then throw f
  let names := (Path.names path).reverse.dropWhile (·.isEmpty)
  let last := names.headD ""
  let folder ← files.walk (files.start path) names.tail.reverse
  match files.node? folder with
  | none => throw .notFound
  | some (.file _) => throw .notFolder
  | some .folder =>
    -- With a slash after it, the last name can only be one of a folder, whatever exists.
    if Text.endsWith "/" path || Path.isIdle last || last = ".." then throw .isFolder
    if nameLimit < last.utf8ByteSize then throw .tooLong
    let place := folder ++ [last]
    if files.node? place = some .folder then throw .isFolder
    if files.isReadOnly place then throw .readOnly
    return place

def write (files : Files) (path : String) (content : List UInt8) : Except Fault Files := do
  let place ← files.target path
  return files.put place (.file content)

def makeAlong (files : Files) (place : Location) : List String → Files
  | [] => files
  | name :: rest =>
    let next := step place name
    let files := if (files.node? next).isNone then files.put next .folder else files
    makeAlong files next rest

def makeFolders (files : Files) (path : String) : Files :=
  files.makeAlong (files.start path) (Path.names path)

/-- Removes a file, or a folder with all that is in it. -/
def remove (files : Files) (path : String) : Files :=
  match files.locate path with
  | .error _ => files
  | .ok place =>
    { files with nodes := files.nodes.filter fun (p, _) => (Text.afterList place p).isNone }

/-! ## Comparing -/

/-- The path of a place from the folder that relative paths start from, if it is below it. -/
def relative? (files : Files) (place : Location) : Option String :=
  match Text.afterList files.here place with
  | none | some [] => none
  | some names => some ("/".intercalate names)

/-- The files below the starting folder that are new or have new content, sorted by path. -/
def changesFrom (before after : Files) : List (String × List UInt8) :=
  let changed := after.nodes.filterMap fun (place, node) =>
    match node with
    | .folder => none
    | .file content =>
      if before.node? place = some node then none
      else (after.relative? place).map fun path => (path, content)
  changed.mergeSort fun a b => a.1 ≤ b.1

def empty : Files where
  here := ["work"]
  nodes := [(["work"], .folder)]

end Files

end MapStandin
