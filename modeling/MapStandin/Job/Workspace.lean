import MapStandin.Files.Path

/-! # Workspaces

A workspace is known by its path only. The end of its stem tells how a job with it turns out. -/

namespace MapStandin

structure Workspace where
  identifier : String
  deriving DecidableEq, Repr

inductive Verdict
  | fail
  | noArtifact
  | produce
  deriving DecidableEq, Repr

namespace Workspace

/-- The end of a stem that makes every job fail. -/
def failureEnding : String := "_fails"

/-- The end of a stem with which jobs succeed without a result. -/
def noArtifactEnding : String := "_nofiles"

def stem (w : Workspace) : String := Path.stem w.identifier

def verdictOf (stem : String) : Verdict :=
  if Text.endsWith failureEnding stem then .fail
  else if Text.endsWith noArtifactEnding stem then .noArtifact
  else .produce

def verdict (w : Workspace) : Verdict := verdictOf w.stem

end Workspace

end MapStandin
