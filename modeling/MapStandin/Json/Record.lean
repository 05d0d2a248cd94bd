import MapStandin.Json.Printer
import MapStandin.Json.Skip
import MapStandin.Text.Quoted

/-! # Records in JSON

Reading a value of known fields. A record is an object, whose other members are passed over, or an
array of the fields in their order. -/

namespace MapStandin.Json

/-! ## Values of a wrong type -/

/-- How a value that is no array and no object is named when something else is expected. -/
def described : Json → String
  | .null => "null"
  | .bool true => "boolean `true`"
  | .bool false => "boolean `false`"
  | .number (.whole n) => "integer `" ++ (Number.whole n).text ++ "`"
  | .number (.double d) => "floating point `" ++ (Number.double d).text ++ "`"
  | .string s => "string " ++ Text.quoted s
  | .array _ => "sequence"
  | .object _ => "map"

/-- Refuses a value for its type: after a scalar, and before an array or object. -/
def refuseType (expected : String) : Reader α := fun input =>
  match skipLayout input with
  | [] => failAt .eofValue []
  | b :: rest =>
    if b = byte '[' then failBefore (.wrongType (described (.array [])) expected) (b :: rest)
    else if b = byte '\x7b' then
      failBefore (.wrongType (described (.object [])) expected) (b :: rest)
    else do
      let (v, rest) ← scalar b rest
      failBefore (.wrongType (described v) expected) rest

def text : Reader String := fun input =>
  match skipLayout input with
  | [] => failAt .eofValue []
  | b :: rest => if b = byte '"' then stringText rest else refuseType "a string" (b :: rest)

def optional (item : Reader α) : Reader (Option α) := fun input =>
  match skipLayout input with
  | b :: rest =>
    if b = byte 'n' then do
      let ((), rest) ← name ['u', 'l', 'l'] rest
      return (none, rest)
    else (item (b :: rest)).map fun (a, rest) => (some a, rest)
  | [] => (item []).map fun (a, rest) => (some a, rest)

/-! ## Records -/

/-- A field that is read into a draft of the record. -/
structure Field (σ : Type) where
  name : String
  isSet : σ → Bool
  read : σ → Reader σ

def Field.of (name : String) (get : σ → Option α) (set : σ → α → σ) (item : Reader α) : Field σ where
  name := name
  isSet s := (get s).isSome
  read s := fun input => do
    let (a, rest) ← item input
    return (set s a, rest)

/-- A record: how it is called, its fields, the draft without any field, and the way from a draft to
the value, or to the name of a field that it lacks. -/
structure Record (σ α : Type) where
  title : String
  fields : List (Field σ)
  blank : σ
  finish : σ → Except String α

namespace Record

/-- The value of a draft, at the place where the record ends. -/
def close (r : Record σ α) (draft : σ) : Reader α := fun rest =>
  match r.finish draft with
  | .ok a => .ok (a, rest)
  | .error name => failBefore (.missingField name) rest

/-- The rest after the bracket that closes an object, if it comes next. -/
def afterObject (input : List UInt8) : List UInt8 :=
  match skipLayout input with
  | b :: rest => if b = byte '\x7d' then rest else b :: rest
  | [] => []

def member (r : Record σ α) (name : String) (draft : σ) : Reader σ := fun input =>
  match r.fields.find? fun f => f.name == name with
  | some f =>
    if f.isSet draft then failBefore (.repeatedField name) (afterObject input)
    else do
      let ((), rest) ← colon input
      f.read draft rest
  | none => do
    let ((), rest) ← colon input
    let ((), rest) ← skipValue rest
    return (draft, rest)

/-- Reads members up to the bracket; `fuel` exceeds the number of bytes. -/
def members (r : Record σ α) : (fuel : Nat) → (first : Bool) → σ → Reader α
  | 0, _, _, input => failBefore .eofObject input
  | fuel + 1, first, draft, input => do
    match ← nextName first input with
    | (false, rest) => r.close draft rest
    | (true, rest) =>
      let (name, rest) ← stringText rest
      let (draft, rest) ← r.member name draft rest
      r.members fuel false draft rest

def endOfArray (r : Record σ α) (draft : σ) : Reader α := fun input =>
  match skipLayout input with
  | [] => failAt .eofList []
  | b :: rest =>
    if b = byte ']' then r.close draft rest
    else if b = byte ',' then
      match skipLayout rest with
      | [] => failAt .trailingCharacters []
      | c :: rest =>
        failAt (if c = byte ']' then .trailingComma else .trailingCharacters) (c :: rest)
    else failAt .trailingCharacters (b :: rest)

/-- How the length of the array is named when it is too short. -/
def lengthTitle (r : Record σ α) : String :=
  let n := r.fields.length
  r.title ++ " with " ++ toString n ++ (if n = 1 then " element" else " elements")

/-- Reads the remaining fields from an array; `done` fields are read. -/
def items (r : Record σ α) (done : Nat) : List (Field σ) → σ → Reader α
  | [], draft, input => r.endOfArray draft input
  | f :: fields, draft, input =>
    match skipLayout input with
    | [] => failAt .eofList []
    | b :: rest =>
      if b = byte ']' then failBefore (.wrongLength done r.lengthTitle) rest
      else if done = 0 then do
        let (draft, rest) ← f.read draft (b :: rest)
        r.items (done + 1) fields draft rest
      else if b = byte ',' then
        match skipLayout rest with
        | [] => failAt .eofValue []
        | c :: rest =>
          if c = byte ']' then failAt .trailingComma (c :: rest)
          else do
            let (draft, rest) ← f.read draft (c :: rest)
            r.items (done + 1) fields draft rest
      else failAt .expectedListEnd (b :: rest)

def read (r : Record σ α) : Reader α := fun input =>
  match skipLayout input with
  | [] => failAt .eofValue []
  | b :: rest =>
    if b = byte '\x7b' then r.members (rest.length + 1) true r.blank rest
    else if b = byte '[' then r.items 0 r.fields r.blank rest
    else refuseType r.title (b :: rest)

def parse (r : Record σ α) (input : List UInt8) : Except String α :=
  Except.mapError (fun f => f.message input) do
    let (a, rest) ← r.read input
    atEnd a rest

end Record

end MapStandin.Json
