import MustacheBuild.Template.Name

/-!
The tree of a parsed template.
-/
namespace MustacheBuild

inductive Node where
  /-- Text that is copied to the output as it stands. -/
  | text (content : Text)
  /-- A tag that is replaced by the text of a value. -/
  | interpolation (name : Name)
  /-- A section, whose children appear as often as its value asks for. -/
  | block (name : Name) (inverted : Bool) (children : List Node)
  deriving Repr

namespace Node

/-- Puts text behind a list of siblings, joining it to a text that stands last. -/
def appendText (siblings : List Node) (t : Text) : List Node :=
  if t.isEmpty then siblings
  else match siblings.getLast? with
    | some (text last) => siblings.dropLast ++ [text (last ++ t)]
    | _ => siblings ++ [text t]

end Node
end MustacheBuild
