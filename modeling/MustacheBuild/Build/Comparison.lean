import MustacheBuild.Build.Batch
import MustacheBuild.Diff.Unified

/-!
What a build would change, as unified diffs against the files that are there.
-/
namespace MustacheBuild

structure FileDiff where
  path : Path
  text : Text
  deriving DecidableEq, Repr

/-- A batch in which nothing is written, with the diff of each output that would be, or the reason
why its old content cannot be read. -/
structure Comparison where
  batch : Batch
  outputs : List (Except BuildError FileDiff)

section
variable {m : Type → Type} [Monad m] [FileSystem m]

/-- The text of an output as it is. A missing output has no text. -/
def existingText (p : Path) (e : Encoding) : BuildM m Text := do
  if ← isFile p then return e.decode (← readFile p)
  else return []

/-- The diff of an output that would be written. -/
def diffOutput (r : Rendered) : BuildM m FileDiff := do
  let existing ← existingText r.output r.encoding
  return ⟨r.output, Diff.unified r.output existing r.text⟩

/-- The unit as a pending output. -/
def Outcome.pending? : Outcome → Option Rendered
  | .rendered r => if r.verdict = .wouldWrite then some r else none
  | _ => none

/-- Builds a batch without writing, and compares each pending output with what is there. -/
def compareAll (templates : List Path) : m Comparison := do
  let batch ← buildAll .dryRun templates
  let outputs ← (batch.units.filterMap Outcome.pending?).mapM fun r => (diffOutput r).run
  return { batch, outputs }

end

namespace Comparison

def diffs (c : Comparison) : List FileDiff := c.outputs.filterMap Except.toOption

def failures (c : Comparison) : List BuildError :=
  c.outputs.filterMap fun
    | .error e => some e
    | .ok _ => none

/-- The log of the batch, and behind it an error for each output that could not be read. -/
def log (c : Comparison) : List LogEntry :=
  c.batch.log ++ c.failures.map fun e => ⟨.error, e.diagnostic⟩

def succeeded (c : Comparison) : Bool := c.batch.succeeded && c.failures.isEmpty

end Comparison
end MustacheBuild
