import MustacheBuild.Path.Basic

/-!
The files that belong to a template: the output has its path without the last extension, and the
data file has the path of the output with an extension of its own.
-/
namespace MustacheBuild

structure Companions where
  template : Path
  output : Path
  data : Path
  deriving DecidableEq, Repr

namespace Companions

def dataExtension : Text := ".json".toList

/-- The companions of a template whose file name has an extension. -/
def of? (template : Path) : Option Companions :=
  template.withoutExtension?.map fun output =>
    { template, output, data := ⟨output.text ++ dataExtension⟩ }

end Companions
end MustacheBuild
