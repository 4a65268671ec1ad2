import MustacheBuild.Data.Basic
import MustacheBuild.Template.Name

/-!
The values in which names are looked up, from the innermost to the root of the data.
-/
namespace MustacheBuild

/-- A stack of values that always holds its root. -/
structure Context where
  /-- The values above the root, innermost first. -/
  inner : List Data
  root : Data

namespace Context

/-- All values, innermost first. -/
def frames (c : Context) : List Data := c.inner ++ [c.root]

def ofRoot (root : Data) : Context := ⟨[], root⟩

def push (c : Context) (value : Data) : Context := { c with inner := value :: c.inner }

/-- Leaves the innermost value. The root stays. -/
def pop (c : Context) : Context := { c with inner := c.inner.drop 1 }

def innermost (c : Context) : Data := c.inner.head?.getD c.root

/-- Follows the segments of a name into a value. -/
def descend (value : Data) (segments : List Text) : Option Data :=
  segments.foldlM Data.get? value

/-- The value that a name refers to. The first segment is taken from the innermost value that has
it, and the other segments from there, without going back. -/
def resolve (c : Context) : Name → Option Data
  | .implicit => some c.innermost
  | .dotted first rest => (c.frames.findSome? (·.get? first)).bind (descend · rest)

@[simp] theorem pop_push (c : Context) (value : Data) : (c.push value).pop = c := rfl

@[simp] theorem frames_push (c : Context) (value : Data) :
    (c.push value).frames = value :: c.frames := rfl

end Context
end MustacheBuild
