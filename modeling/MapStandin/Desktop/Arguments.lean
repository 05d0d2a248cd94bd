import MapStandin.Job.Workspace
import MapStandin.Log
import MapStandin.Parameter.Request
import MapStandin.Text.Utf8

/-! # Desktop arguments

The arguments of a desktop run: a workspace, then flags. They come as bytes, which need not be
UTF-8. -/

namespace MapStandin.Desktop

open Parameter

/-- The rejection of an argument that is not UTF-8, shown as `shown`, after the arguments `before`,
the last one first: the first argument is a workspace, one after a flag is the flag's value, and any
other stands alone. -/
def notUtf8 (before : List String) (shown : String) : Rejection :=
  match before with
  | [] => .invalidWorkspace shown
  | previous :: earlier =>
    match earlier, flagName? previous with
    | _ :: _, some name =>
      .invalidValue name s!"Value for parameter {name} is not valid UTF-8: {shown}"
    | _, _ => .positionalArgument shown

/-- The texts of arguments after the arguments `before`, the last one first. -/
def decodeAfter (before : List String) : List (List UInt8) → Except Rejection (List String)
  | [] => .ok before.reverse
  | bytes :: rest =>
    match Utf8.decode? bytes with
    | some s => decodeAfter (s :: before) rest
    | none => .error (notUtf8 before (Utf8.decodeLossy bytes))

def decodeArguments (arguments : List (List UInt8)) : Except Rejection (List String) :=
  decodeAfter [] arguments

def workspaceOf : List String → Except Rejection (Workspace × List String)
  | [] => .error .missingWorkspace
  | first :: rest =>
    if (flagName? first).isSome || !isPath first then .error (.invalidWorkspace first)
    else .ok (⟨first⟩, rest)

def takeWorkspace (arguments : List String) :
    Narrated Rejection (Workspace × List String) := do
  let (w, rest) ← Narrated.of (workspaceOf arguments)
  Narrated.say .info s!"Workspace: {w.identifier}"
  return (w, rest)

def takeFlags (schema : Schema) (flags : List String) : Narrated Rejection Request := do
  Narrated.sayAll .debug
    ((schema.skippedFlags [] flags).map fun name => s!"Ignoring unknown parameter {name}")
  Narrated.of (schema.readFlags flags)

end MapStandin.Desktop
