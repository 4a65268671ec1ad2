import MustacheBuild.Render.Context
import MustacheBuild.Template.Node

/-!
Rendering walks the tree with one context, which a section changes on the way in and changes back on
the way out.
-/
namespace MustacheBuild

/-- A step of rendering: the text it writes, and the context it leaves. -/
abbrev Rendering := Context → Text × Context

namespace Rendering

/-- Writes nothing. -/
def nothing : Rendering := fun c => ([], c)

def write (t : Text) : Rendering := fun c => (t, c)

/-- One step, and the other behind it. -/
def andThen (first second : Rendering) : Rendering := fun c =>
  let (t, c) := first c
  let (u, c) := second c
  (t ++ u, c)

/-- A step with a value as the innermost of its context. -/
def within (value : Data) (body : Rendering) : Rendering := fun c =>
  let (t, c) := body (c.push value)
  (t, c.pop)

/-- A step once within each of the values. -/
def forEach (items : List Data) (body : Rendering) : Rendering :=
  items.foldr (fun item rest => andThen (within item body) rest) nothing

end Rendering

/-- Whether a section is not empty. A name that nothing answers to counts as false. -/
def isTruthy (value : Option Data) : Bool := value.any Data.isTrue

/-- The body of a plain section, as often and where its value asks for it. -/
def Rendering.plain (value : Option Data) (body : Rendering) : Rendering :=
  match value with
  | some (.array items) => forEach items body
  | some (.object fields) => within (.object fields) body
  | value => if isTruthy value then body else nothing

/-- The body of an inverted section. -/
def Rendering.inverted (value : Option Data) (body : Rendering) : Rendering :=
  if isTruthy value then nothing else body

/-- The text of a value, which is empty where there is none. -/
def textOf (value : Option Data) : Text := (value.map Data.toText).getD []

mutual

def Node.render : Node → Rendering
  | .text t => .write t
  | .interpolation name => fun c => Rendering.write (textOf (c.resolve name)) c
  | .block name inverted children => fun c =>
    if inverted then Rendering.inverted (c.resolve name) (renderNodes children) c
    else Rendering.plain (c.resolve name) (renderNodes children) c

def renderNodes : List Node → Rendering
  | [] => .nothing
  | node :: rest => .andThen node.render (renderNodes rest)

end

/-- The text of a template for the given data. -/
def render (nodes : List Node) (data : Data) : Text := (renderNodes nodes (.ofRoot data)).1

end MustacheBuild
