import MustacheBuild.Proofs.Data.Lookup
import MustacheBuild.Proofs.Render.Alike

/-!
What a template does not mention has no influence on what it renders.
-/
namespace MustacheBuild

/-- A name that begins with a key up to case, so that it may ask an object for that key. -/
def Name.Mentions (key : Text) : Name → Prop
  | .implicit => False
  | .dotted first _ => Text.equalIgnoringCase key first = true

instance (key : Text) : DecidablePred (Name.Mentions key)
  | .implicit => inferInstanceAs (Decidable False)
  | .dotted _ _ => inferInstanceAs (Decidable (_ = true))

section
variable {fields : Fields} {key : Text} {value : Data}

/-- A value beside itself, or an object beside the same object with a value inserted. -/
inductive Inserted (fields : Fields) (key : Text) (value : Data) : Data → Data → Prop
  | same (d : Data) : Inserted fields key value d d
  | changed : Inserted fields key value (.object fields) (.object (fields.insert key value))

theorem Inserted.get?_eq {d d' : Data} (h : Inserted fields key value d d') {other : Text}
    (hother : Text.equalIgnoringCase key other = false) : d.get? other = d'.get? other := by
  cases h with
  | same => rfl
  | changed => exact (Fields.get?_insert_of_differs hother value).symm

/-- A name that does not mention the key refers to the same value on both sides. -/
theorem valueIn?_eq_of_inserted {frames others : List Data}
    (h : List.Forall₂ (Inserted fields key value) frames others) {first : Text} {rest : List Text}
    (hfirst : Text.equalIgnoringCase key first = false) :
    (Name.dotted first rest).valueIn? frames = (Name.dotted first rest).valueIn? others := by
  induction h with
  | nil => rfl
  | cons hframe _ ih =>
    rw [Name.valueIn?, Name.valueIn?, hframe.get?_eq hfirst]
    split
    next => rfl
    next => exact ih

/-- The dot may refer to the object itself, which looks the same with and without the value. -/
theorem lookAlike_of_inserted {d d' : Data} (h : Inserted fields key value d d')
    {frames others : List Data}
    (hframes : List.Forall₂ (Inserted fields key value) frames others) :
    LookAlike (List.Forall₂ (Inserted fields key value)) frames others (some d) (some d') := by
  cases h with
  | same => exact .same hframes fun inner _ => .cons (.same inner) hframes
  | changed =>
    constructor
    · rfl
    · rfl
    · exact .cons (.cons .changed hframes) .nil

theorem respects_unmentioned :
    Respects (fun name other => name = other ∧ ¬ name.Mentions key)
      (List.Forall₂ (Inserted fields key value)) := by
  rintro frames others hframes name _ ⟨rfl, hname⟩
  cases name with
  | implicit =>
    cases hframes with
    | nil => exact .same .nil nofun
    | cons hinnermost houter => exact lookAlike_of_inserted hinnermost (.cons hinnermost houter)
  | dotted first rest =>
    rw [valueIn?_eq_of_inserted hframes (Bool.eq_false_iff.2 hname)]
    exact .same hframes fun inner _ => .cons (.same inner) hframes

end

/-- A field that no name of a template mentions, and that is inserted or gets another value, leaves
what the template renders as it is. -/
theorem render_insert_of_unmentioned (nodes : List Node) (fields : Fields) (key : Text)
    (value : Data) (h : ∀ name ∈ namesOf nodes, ¬ name.Mentions key) :
    render nodes (.object (fields.insert key value)) = render nodes (.object fields) := by
  have halike : NodesAlike (fun name other => name = other ∧ ¬ name.Mentions key) nodes nodes :=
    nodesAlike_self nodes fun name hname => ⟨rfl, h name hname⟩
  exact (halike.render_eq respects_unmentioned (.cons .changed .nil)).symm

/-- A template that enters the root again, where it asks for another key only. -/
theorem render_insert_within_root :
    let nodes : List Node :=
      [.block .implicit false [.interpolation .implicit, .interpolation (.dotted ['a'] [['b']])]]
    let fields : Fields := [(['b'], .null), (['A'], .object [(['b'], .text ['x'])])]
    (∀ name ∈ namesOf nodes, ¬ name.Mentions ['b']) ∧ render nodes (.object fields) = ['x'] ∧
      render nodes (.object (fields.insert ['b'] (.text ['y']))) = ['x'] := by
  intro nodes fields
  have hunmentioned : ∀ name ∈ namesOf nodes, ¬ name.Mentions ['b'] := by decide
  have hrender : render nodes (.object fields) = ['x'] := by decide
  have hsame := render_insert_of_unmentioned nodes fields ['b'] (.text ['y']) hunmentioned
  exact ⟨hunmentioned, hrender, hsame.trans hrender⟩

end MustacheBuild
