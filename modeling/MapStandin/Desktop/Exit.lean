import MapStandin.Job.Outcome

/-! # Exit codes

How a desktop run ends for its caller: a code and, unless the code is zero, a text for the error
stream. -/

namespace MapStandin.Desktop

/-- How a desktop run takes its parameters: as flags, or from a file that one flag names. -/
inductive Convention
  | flags
  | parametersFile
  deriving DecidableEq, Repr

structure ExitStatus where
  code : Nat
  stderr : Option String
  deriving DecidableEq, Repr

def ExitStatus.success : ExitStatus := ⟨0, none⟩

def ExitStatus.isSuccess (s : ExitStatus) : Bool := s.code == 0

def simulatedCode : Nat := 100

def flagsCode : Rejection → Nat
  | .missingWorkspace => 10
  | .invalidWorkspace _ => 15
  | .missingParameters names => if names.contains "FolderOut" then 20 else 50
  | .positionalArgument _ | .missingValue _ | .duplicateParameter _ => 30
  | .invalidValue _ _ => 40
  | .outputFolderMissing _ | .artifactNotWritten _ => 35
  | .parametersFileNotFound _ | .invalidJson _ | .invalidFeature _ | .unauthorized _ => 1

def parametersFileCode : Rejection → Nat
  | .missingWorkspace => 10
  | .invalidWorkspace _ => 15
  | .missingParameters names => if names.contains "parametersFile" then 20 else 40
  | .positionalArgument _ | .missingValue _ | .duplicateParameter _ => 20
  | .invalidValue name _ => if name = "parametersFile" then 20 else 40
  | .parametersFileNotFound _ => 25
  | .invalidJson _ => 30
  | .invalidFeature (.missingProperty _) => 40
  | .invalidFeature _ => 35
  | .outputFolderMissing _ | .artifactNotWritten _ => 50
  | .unauthorized _ => 1

def rejectionCode : Convention → Rejection → Nat
  | .flags => flagsCode
  | .parametersFile => parametersFileCode

/-- The text of a rejection. A missing parameter that the caller cannot do without has a text of its
own. -/
def rejectionText (c : Convention) (r : Rejection) : String :=
  match c with
  | .flags => if r.isMissing "FolderOut" then "Missing --FolderOut parameter" else r.message
  | .parametersFile =>
    if r.isMissing "parametersFile" then "No --parametersFile argument provided" else r.message

def exitStatus (c : Convention) : Except Failure α → ExitStatus
  | .ok _ => .success
  | .error .simulated => ⟨simulatedCode, some simulatedMessage⟩
  | .error (.rejected r) => ⟨rejectionCode c r, some (rejectionText c r)⟩

end MapStandin.Desktop
