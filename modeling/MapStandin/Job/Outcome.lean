import MapStandin.Rejection

/-! # Outcomes

A job ends with an artifact or without one, by a simulated failure, or by a rejection. -/

namespace MapStandin

/-- Where an artifact can be had. -/
inductive Delivery
  | written (path : String)
  | download (url : String)
  deriving DecidableEq, Repr

structure Artifact where
  filename : String
  mimeType : String
  delivery : Delivery
  deriving DecidableEq, Repr

/-- The path or address under which a client finds the artifact. -/
def Artifact.reference (a : Artifact) : String :=
  match a.delivery with
  | .written path => path
  | .download url => url

inductive Failure
  | simulated
  | rejected (r : Rejection)
  deriving DecidableEq, Repr

def simulatedMessage : String := "The FME workspace resulted in an error (simulated)"

/-- How a job ends. -/
abbrev Outcome := Except Failure (Option Artifact)

end MapStandin
