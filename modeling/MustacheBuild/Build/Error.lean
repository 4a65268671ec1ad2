import MustacheBuild.Encoding.Label
import MustacheBuild.Render.Unit
import MustacheBuild.Store.FileSystem

/-!
What can stop the build of one template.
-/
namespace MustacheBuild

inductive BuildError where
  | data (error : DataFileError)
  | encoding (error : Encoding.UnsupportedLabel)
  | template (error : InvalidTemplate)
  /-- The template has no extension, so its output would be the template itself. -/
  | noOutputName (template : Path)
  | io (path : Path) (error : IoError)
  deriving DecidableEq, Repr

namespace BuildError

def message : BuildError → String
  | data e => e.message
  | encoding e => e.message
  | template e => e.message
  | noOutputName p =>
    s!"The template file '{p.display}' has no extension; cannot derive an output file name."
  | io p _ => s!"I/O error at {p.display}"

/-- Whether the message alone tells the user what to mend. -/
def isUserFacing : BuildError → Bool
  | io _ _ => false
  | _ => true

/-- The message, with its cause where it is not enough by itself. -/
def diagnostic : BuildError → String
  | io p e => s!"{(io p e).message}\n  caused by: {e.message}"
  | e => e.message

end BuildError
end MustacheBuild
