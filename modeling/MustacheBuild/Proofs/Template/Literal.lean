import MustacheBuild.Proofs.Render.Basic
import MustacheBuild.Proofs.Template.Site
import MustacheBuild.Render.Unit

/-!
A template without tags is rendered as it stands, whatever the data.
-/
namespace MustacheBuild

variable {t : Text}

theorem parse_of_notInfix (h : ¬ Braces.double.opening <:+: t) :
    parse t = .ok (Node.appendText [] t) := by
  rw [parse, Token.scan_of_notInfix h]
  rfl

theorem render_appendText_nil (t : Text) (data : Data) :
    render (Node.appendText [] t) data = t :=
  renderNodes_appendText [] t (.ofRoot data)

theorem renderWith_of_notInfix (h : ¬ Braces.double.opening <:+: t) (file : Text) (data : Data) :
    renderWith t file data = .ok t := by
  simp only [renderWith, parse_of_notInfix h, render_appendText_nil]

end MustacheBuild
