import MapStandin.Http.Content
import MapStandin.Log
import MapStandin.MapServer.Document

/-! # Exceptions of the map server

Why the map server answers with an exception document. -/

namespace MapStandin.MapServer

inductive FaultKind
  | authorization
  | missingParameter
  | unsupported
  deriving DecidableEq, Repr

def FaultKind.code : FaultKind → String
  | .authorization => "AuthorizationError"
  | .missingParameter => "MissingParameterValue"
  | .unsupported => "OperationNotSupported"

def FaultKind.status : FaultKind → Http.Status
  | .authorization => .unauthorized
  | .missingParameter | .unsupported => .badRequest

structure Fault where
  kind : FaultKind
  message : String
  deriving DecidableEq, Repr

namespace Fault

def response (f : Fault) : Http.Response :=
  Http.textResponse f.kind.status Http.xmlType (exceptionDocument f.kind.code f.message)

def event (f : Fault) : Event :=
  ⟨.warn, s!"Service exception {f.kind.code}: {f.message}"⟩

end Fault

end MapStandin.MapServer
