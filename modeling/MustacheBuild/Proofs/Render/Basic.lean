import MustacheBuild.Proofs.Template.Event
import MustacheBuild.Render.Basic

/-!
Rendering leaves its context as it found it, so siblings are rendered independently of each other.
-/
namespace MustacheBuild

namespace Rendering

variable {first second body : Rendering} {value : Option Data}

/-- The context is in the end what it was before. -/
def Restores (step : Rendering) : Prop := ∀ c, (step c).2 = c

theorem restores_nothing : Restores nothing := fun _ => rfl

theorem restores_write (t : Text) : Restores (write t) := fun _ => rfl

theorem Restores.andThen (hfirst : first.Restores) (hsecond : second.Restores) :
    (first.andThen second).Restores := fun c => (hsecond _).trans (hfirst c)

theorem Restores.within (hbody : body.Restores) (value : Data) : (within value body).Restores := by
  intro c
  have hpush := hbody (c.push value)
  exact congrArg Context.pop hpush

theorem Restores.forEach (hbody : body.Restores) (items : List Data) :
    (forEach items body).Restores := by
  induction items with
  | nil => exact restores_nothing
  | cons item items ih => exact (hbody.within item).andThen ih

theorem Restores.plain (hbody : body.Restores) (value : Option Data) :
    (plain value body).Restores := by
  unfold Rendering.plain
  split
  next items => exact hbody.forEach items
  next fields => exact hbody.within _
  next =>
    split
    next => exact hbody
    next => exact restores_nothing

theorem Restores.inverted (hbody : body.Restores) (value : Option Data) :
    (inverted value body).Restores := by
  unfold Rendering.inverted
  split
  next => exact restores_nothing
  next => exact hbody

/-- Behind a step that restores its context, the next one is rendered as if it were the first. -/
theorem Restores.andThen_eq (hfirst : first.Restores) (second : Rendering) (c : Context) :
    first.andThen second c = ((first c).1 ++ (second c).1, (second c).2) := by
  simp only [Rendering.andThen, hfirst c]

end Rendering

open Rendering (Restores)

mutual

theorem Node.restores_render : ∀ node : Node, Restores node.render
  | .text t => Rendering.restores_write t
  | .interpolation _ => fun _ => rfl
  | .block name inverted children => by
    have hchildren := restores_renderNodes children
    intro c
    rw [Node.render]
    split
    next => exact hchildren.inverted _ c
    next => exact hchildren.plain _ c

theorem restores_renderNodes : ∀ nodes : List Node, Restores (renderNodes nodes)
  | [] => Rendering.restores_nothing
  | node :: rest => node.restores_render.andThen (restores_renderNodes rest)

end

theorem renderNodes_cons (node : Node) (rest : List Node) (c : Context) :
    (renderNodes (node :: rest) c).1 = (node.render c).1 ++ (renderNodes rest c).1 := by
  rw [renderNodes, node.restores_render.andThen_eq]

theorem renderNodes_append (xs ys : List Node) (c : Context) :
    (renderNodes (xs ++ ys) c).1 = (renderNodes xs c).1 ++ (renderNodes ys c).1 := by
  induction xs with
  | nil => rfl
  | cons x xs ih => rw [List.cons_append, renderNodes_cons, renderNodes_cons, ih, List.append_assoc]

theorem renderNodes_text (t : Text) (c : Context) : (renderNodes [.text t] c).1 = t :=
  List.append_nil t

theorem renderNodes_appendText (siblings : List Node) (t : Text) (c : Context) :
    (renderNodes (Node.appendText siblings t) c).1 = (renderNodes siblings c).1 ++ t := by
  rcases Node.appendText_cases siblings with ⟨init, u, rfl⟩ | ⟨-, hcase⟩
  · rw [Node.appendText_of_text, renderNodes_append, renderNodes_append, renderNodes_text,
      renderNodes_text, List.append_assoc]
  · rw [hcase, renderNodes_append]
    split
    next ht => rw [List.isEmpty_iff.1 ht]; rfl
    next => rw [renderNodes_text]

end MustacheBuild
