import MustacheBuild.Build.Unit

/-!
The build of a list of templates, each for itself: one that fails does not stop the others.
-/
namespace MustacheBuild

/-- What became of each template of a batch, in order. -/
structure Batch where
  units : List Outcome
  deriving DecidableEq, Repr

def buildAll {m : Type → Type} [Monad m] [FileSystem m] (mode : WriteMode)
    (templates : List Path) : m Batch :=
  return ⟨← templates.mapM (buildOne mode)⟩

namespace Batch

def version : String := "stache v0.1.11"

/-- The log begins with the version and has a line for each unit. An empty batch says nothing. -/
def log (b : Batch) : List LogEntry :=
  if b.units.isEmpty then [] else ⟨.message, version⟩ :: b.units.map Outcome.entry

def succeeded (b : Batch) : Bool := !b.units.any Outcome.isFailed

/-- The outputs that were written, or would be. -/
def changedOutputs (b : Batch) : List Path := b.units.filterMap Outcome.changedOutput?

end Batch
end MustacheBuild
