import MustacheBuild.Template.Error
import MustacheBuild.Template.Node
import MustacheBuild.Template.Token

/-!
From tokens to the tree: sections are matched with a stack of those that are open.
-/
namespace MustacheBuild

/-- A section that waits for its closing tag. -/
structure OpenSection where
  name : Text
  inverted : Bool
  line : Nat
  /-- The siblings that stand before the section. -/
  before : List Node

namespace Parser

/-- Builds the tree of `tokens` behind the siblings already read in the innermost open section.
The first token that does not fit is the error. -/
def nest : List Token → List OpenSection → List Node → Except ParseError (List Node)
  | [], [], siblings => .ok siblings
  | [], innermost :: _, _ => .error ⟨innermost.line, .unclosedSection innermost.name⟩
  | .text t :: tokens, opened, siblings => nest tokens opened (Node.appendText siblings t)
  | .fault fault line :: _, _, _ => .error ⟨line, .tag fault⟩
  | .tag .comment _ :: tokens, opened, siblings => nest tokens opened siblings
  | .tag (.interpolation name) _ :: tokens, opened, siblings =>
    nest tokens opened (siblings ++ [.interpolation (Name.ofText name)])
  | .tag (.opening name inverted) line :: tokens, opened, siblings =>
    nest tokens (⟨name, inverted, line, siblings⟩ :: opened) []
  | .tag (.closing name) line :: _, [], _ => .error ⟨line, .unexpectedClose name⟩
  | .tag (.closing name) line :: tokens, innermost :: opened, siblings =>
    if innermost.name = name then
      nest tokens opened
        (innermost.before ++ [.block (Name.ofText innermost.name) innermost.inverted siblings])
    else .error ⟨line, .mismatchedClose innermost.name name⟩

end Parser

/-- The tree of a template. -/
def parse (source : Text) : Except ParseError (List Node) :=
  Parser.nest (Token.scan true 1 source) [] []

end MustacheBuild
