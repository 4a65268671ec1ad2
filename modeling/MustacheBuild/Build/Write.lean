import MustacheBuild.Build.Error

/-!
Outputs are written only when their content changes, so that later steps of a build see by its
modification time whether an output is new.
-/
namespace MustacheBuild

inductive WriteMode where
  | ifChanged
  | always
  /-- Nothing is written. -/
  | dryRun
  deriving DecidableEq, Repr

inductive Verdict where
  | written
  | unchanged
  | wouldWrite
  deriving DecidableEq, Repr

/-- File access that stops at the first error. -/
abbrev BuildM (m : Type → Type) := ExceptT BuildError m

section
variable {m : Type → Type} [Monad m] [FileSystem m]

def isFile (p : Path) : BuildM m Bool := ExceptT.lift (FileSystem.isFile p)

def readFile (p : Path) : BuildM m Bytes :=
  ExceptT.mk do return (← FileSystem.read p).mapError (.io p)

def writeFile (p : Path) (content : Bytes) : BuildM m Unit :=
  ExceptT.mk do return (← FileSystem.write p content).mapError (.io p)

/-- Whether a file already holds a text in an encoding. Its bytes are compared first, as they hold
references to what the encoding cannot write; else the file is read in its own encoding. A
byte-order mark makes no difference. -/
def holdsText (e : Encoding) (existing : Bytes) (t : Text) : Bool :=
  Encoding.stripMark existing == e.encodeBody t || e.decode existing == t

/-- Whether the file at a path exists and holds a text. -/
def isUpToDate (p : Path) (t : Text) (e : Encoding) : BuildM m Bool := do
  if ← isFile p then return holdsText e (← readFile p) t
  else return false

/-- Writes a text unless the file holds it, or as the mode asks. -/
def writeText (mode : WriteMode) (p : Path) (t : Text) (e : Encoding) : BuildM m Verdict := do
  let upToDate ← if mode = .always then pure false else isUpToDate p t e
  if upToDate then return .unchanged
  else if mode = .dryRun then return .wouldWrite
  else
    writeFile p (e.encode t)
    return .written

end
end MustacheBuild
