import MustacheBuild.Json.Fault

/-!
A reader of JSON works on what remains of the text, so where it stops is known by the number of
bytes that remain.
-/
namespace MustacheBuild.Json

structure Stop where
  reason : Reason
  /-- The bytes behind the place where reading stops. -/
  left : Nat
  deriving DecidableEq, Repr

namespace Stop

/-- Stops on the first byte of the rest, or at the end of the text where nothing is left. -/
def on (reason : Reason) (rest : Text) : Stop := ⟨reason, rest.byteLength - 1⟩

/-- Stops in front of the rest. -/
def before (reason : Reason) (rest : Text) : Stop := ⟨reason, rest.byteLength⟩

/-- The stop as a place in the whole text. -/
def locate (s : Stop) (whole : Text) : Fault :=
  ⟨s.reason, Place.advance ⟨1, 0⟩ (whole.byteLength - s.left) whole⟩

end Stop

/-- Reads something off the front of a text and gives back the rest. -/
abbrev Reader (α : Type) := Text → Except Stop (α × Text)

end MustacheBuild.Json
