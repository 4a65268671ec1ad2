import MustacheBuild.Proofs.Data.Lookup
import MustacheBuild.Proofs.Render.Alike

/-!
Where no keys of the data differ in their case alone, the case of names makes no difference to what
a template renders.
-/
namespace MustacheBuild

/-- Names of the same number of segments, which are equal in pairs up to case. -/
inductive Name.EqualIgnoringCase : Name → Name → Prop
  | implicit : EqualIgnoringCase .implicit .implicit
  | dotted {first other : Text} {rest others : List Text} :
    Text.equalIgnoringCase first other = true →
    List.Forall₂ (fun s t => Text.equalIgnoringCase s t = true) rest others →
    EqualIgnoringCase (.dotted first rest) (.dotted other others)

namespace Data

variable {d found : Data} {segments others : List Text}

theorem CaseDistinct.of_mem_entered (h : d.CaseDistinct) {inner : Data} (hmem : inner ∈ d.entered) :
    inner.CaseDistinct := by
  cases h with
  | array hitems => exact hitems inner hmem
  | object hkeys hfields =>
    obtain rfl := List.mem_singleton.1 hmem
    exact .object hkeys hfields
  | _ => exact absurd hmem List.not_mem_nil

theorem CaseDistinct.of_leadsTo (h : d.CaseDistinct) (hfound : d.LeadsTo segments found) :
    found.CaseDistinct := by
  induction hfound with
  | here => exact h
  | field hchild _ ih => exact ih (h.of_get? hchild)

theorem CaseDistinct.follow?_congr (h : d.CaseDistinct)
    (hsegments : List.Forall₂ (fun s t => Text.equalIgnoringCase s t = true) segments others) :
    d.follow? segments = d.follow? others := by
  induction hsegments generalizing d with
  | nil => rfl
  | cons hsegment _ ih =>
    rw [follow?, follow?, h.get?_congr hsegment]
    split
    next child hchild => exact ih (h.of_get? hchild)
    next => rfl

end Data

namespace Name

variable {name other : Name} {frames : List Data} {found : Data}

theorem RefersTo.caseDistinct (h : name.RefersTo frames found)
    (hframes : ∀ frame ∈ frames, frame.CaseDistinct) : found.CaseDistinct := by
  induction h with
  | implicit => exact hframes _ List.mem_cons_self
  | here hchild hrest => exact ((hframes _ List.mem_cons_self).of_get? hchild).of_leadsTo hrest
  | outward _ _ ih => exact ih fun frame hframe => hframes frame (List.mem_cons_of_mem _ hframe)

theorem EqualIgnoringCase.valueIn?_eq (h : name.EqualIgnoringCase other)
    (hframes : ∀ frame ∈ frames, frame.CaseDistinct) :
    name.valueIn? frames = other.valueIn? frames := by
  cases h with
  | implicit => rfl
  | dotted hfirst hrest =>
    induction frames with
    | nil => rfl
    | cons frame outer ih =>
      obtain ⟨hframe, houter⟩ := List.forall_mem_cons.1 hframes
      rw [valueIn?, valueIn?, hframe.get?_congr hfirst]
      split
      next child hchild => exact (hframe.of_get? hchild).follow?_congr hrest
      next => exact ih houter

end Name

/-- The same values on both sides, in none of which keys differ in their case alone. -/
def SameDistinct (frames others : List Data) : Prop :=
  frames = others ∧ ∀ frame ∈ frames, frame.CaseDistinct

/-- Sections enter values that are in the data, so that the scopes stay the same and distinct. -/
theorem respects_equalIgnoringCase : Respects Name.EqualIgnoringCase SameDistinct := by
  rintro frames _ ⟨rfl, hframes⟩ name other hname
  rw [← hname.valueIn?_eq hframes]
  refine .same ⟨rfl, hframes⟩ fun d hd => ⟨rfl, List.forall_mem_cons.2 ⟨?_, hframes⟩⟩
  cases hvalue : name.valueIn? frames with
  | none =>
    rw [hvalue] at hd
    exact absurd hd List.not_mem_nil
  | some value =>
    rw [hvalue] at hd
    have hrefers := Name.valueIn?_eq_some_iff.1 hvalue
    exact (hrefers.caseDistinct hframes).of_mem_entered hd

/-- Where no object of the data has keys that differ in their case alone, templates that differ in
the case of their names alone render the same. -/
theorem render_eq_of_equalIgnoringCase {data : Data} (hdata : data.CaseDistinct)
    {nodes others : List Node} (h : NodesAlike Name.EqualIgnoringCase nodes others) :
    render nodes data = render others data :=
  h.render_eq respects_equalIgnoringCase ⟨rfl, by simpa using hdata⟩

/-- A list of persons with their names, and a key with accents. -/
def personData : Data :=
  .object [("Été".toList, .text "x".toList),
    ("Persons".toList, .array [.object [("name".toList, .text "y".toList)]])]

/-- In each of the two templates each name has another case. -/
theorem render_persons_ignoringCase :
    let nodes : List Node := [.interpolation (.dotted "été".toList []),
      .block (.dotted "persons".toList []) false [.interpolation (.dotted "NAME".toList []),
        .interpolation (.dotted "Persons".toList ["Name".toList])]]
    let others : List Node := [.interpolation (.dotted "ÉTÉ".toList []),
      .block (.dotted "PERSONS".toList []) false [.interpolation (.dotted "Name".toList []),
        .interpolation (.dotted "personS".toList ["nAME".toList])]]
    personData.CaseDistinct ∧ NodesAlike Name.EqualIgnoringCase nodes others ∧
      render nodes personData = "xy".toList ∧ render others personData = "xy".toList := by
  intro nodes others
  have hdata : personData.CaseDistinct := by
    have hperson : Data.CaseDistinct (.object [("name".toList, .text "y".toList)]) := by
      refine .object (by decide) ?_
      simpa using .text _
    refine .object (by decide) ?_
    simpa using ⟨.text _, .array (by simpa using hperson)⟩
  have halike : NodesAlike Name.EqualIgnoringCase nodes others := by
    refine .cons (.interpolation (.dotted (by decide) .nil)) (.cons ?_ .nil)
    refine .block false (.dotted (by decide) .nil) ?_
    refine .cons (.interpolation (.dotted (by decide) .nil)) (.cons ?_ .nil)
    exact .interpolation (.dotted (by decide) (.cons (by decide) .nil))
  have hrender : render nodes personData = "xy".toList := by decide
  have hsame := render_eq_of_equalIgnoringCase hdata halike
  exact ⟨hdata, halike, hrender, hsame ▸ hrender⟩

end MustacheBuild
