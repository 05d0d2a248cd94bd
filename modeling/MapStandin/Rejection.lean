import MapStandin.Feature.Basic

/-! # Rejections

Every reason for which a job is not run, with its wording and its category. -/

namespace MapStandin

inductive Category
  | structural
  | presence
  | duplicate
  | type
  | authentication
  | environment
  deriving DecidableEq, Repr

/-- Why a job is not run. -/
inductive Rejection
  | missingWorkspace
  | invalidWorkspace (path : String)
  | positionalArgument (token : String)
  | missingValue (name : String)
  | duplicateParameter (name : String)
  | invalidValue (name message : String)
  | missingParameters (names : List String)
  | parametersFileNotFound (path : String)
  | invalidJson (reason : String)
  | invalidFeature (fault : Feature.Fault)
  | unauthorized (reason : String)
  | outputFolderMissing (folder : String)
  | artifactNotWritten (reason : String)
  deriving DecidableEq, Repr

namespace Rejection

def listed (names : List String) : String :=
  ", ".intercalate names

def message : Rejection → String
  | .missingWorkspace => "No FME workspace provided"
  | .invalidWorkspace path => s!"The FME workspace path is invalid: {path}"
  | .positionalArgument token => s!"Positional parameter in script parameter strings: {token}"
  | .missingValue name => s!"No value provided for parameter {name}"
  | .duplicateParameter name => s!"Parameter {name} defined more than once"
  | .invalidValue _ message => message
  | .missingParameters names => s!"The following parameters are missing: {listed names}"
  | .parametersFileNotFound path => s!"Parameters file not found: {path}"
  | .invalidJson reason => s!"Invalid JSON: {reason}"
  | .invalidFeature fault => s!"Invalid GeoJSON Feature structure: {fault.message}"
  | .unauthorized reason => reason
  | .outputFolderMissing folder => s!"FolderOut does not exist: {folder}"
  | .artifactNotWritten reason => s!"Could not write the result file: {reason}"

def category : Rejection → Category
  | .invalidWorkspace _ | .positionalArgument _ | .missingValue _ | .invalidJson _ => .structural
  | .invalidFeature (.missingProperty _) => .presence
  | .invalidFeature _ => .structural
  | .missingWorkspace | .missingParameters _ => .presence
  | .duplicateParameter _ => .duplicate
  | .invalidValue _ _ => .type
  | .unauthorized _ => .authentication
  | .parametersFileNotFound _ | .outputFolderMissing _ | .artifactNotWritten _ => .environment

def isMissing (name : String) : Rejection → Bool
  | .missingParameters names => names.contains name
  | _ => false

end Rejection

end MapStandin
