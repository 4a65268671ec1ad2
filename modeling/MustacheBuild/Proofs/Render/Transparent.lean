import MustacheBuild.Proofs.Render.Alike
import MustacheBuild.Proofs.Render.Section

/-!
Values that are no objects have no fields, so that names are looked up behind them: only the dot
tells that they are there.
-/
namespace MustacheBuild

/-- Values, and the same values with others among them above the root, none of which is an
object. -/
inductive Padded : List Data → List Data → Prop
  | root (root : Data) : Padded [root] [root]
  | same (frame : Data) {frames others : List Data} :
    Padded frames others → Padded (frame :: frames) (frame :: others)
  | extra {value : Data} {frames others : List Data} :
    value.kind ≠ .object → Padded frames others → Padded frames (value :: others)

theorem Data.get?_of_kind {d : Data} (h : d.kind ≠ .object) (key : Text) : d.get? key = none := by
  cases d with
  | object => exact absurd rfl h
  | _ => rfl

section
variable {frames others : List Data}

theorem Padded.self (c : Context) : Padded c.frames c.frames := by
  obtain ⟨inner, root⟩ := c
  induction inner with
  | nil => exact .root root
  | cons frame inner ih => exact .same frame ih

/-- A name other than the dot refers to the same value, past the extra ones. -/
theorem Padded.valueIn?_eq (h : Padded frames others) (first : Text) (rest : List Text) :
    (Name.dotted first rest).valueIn? frames = (Name.dotted first rest).valueIn? others := by
  induction h with
  | root => rfl
  | same frame _ ih => rw [Name.valueIn?, Name.valueIn?, ih]
  | extra hvalue _ ih => rw [ih, Name.valueIn?, Data.get?_of_kind hvalue]

/-- Sections enter the same values on both sides, so that the extra ones stay what they are. -/
theorem respects_padded : Respects (fun name other => name = other ∧ name ≠ .implicit) Padded := by
  rintro frames others hframes name _ ⟨rfl, hname⟩
  cases name with
  | implicit => exact absurd rfl hname
  | dotted first rest =>
    rw [hframes.valueIn?_eq first rest]
    exact .same hframes fun inner _ => .same inner hframes

theorem Padded.meaning_eq (h : Padded frames others) {nodes : List Node}
    (hnodes : ∀ name ∈ namesOf nodes, name ≠ .implicit) :
    meaning others nodes = meaning frames nodes := by
  have halike : NodesAlike (fun name other => name = other ∧ name ≠ .implicit) nodes nodes :=
    nodesAlike_self nodes fun name hname => ⟨rfl, hnodes name hname⟩
  exact (halike.meaning_eq respects_padded h).symm

end

/-- A template without the dot renders the same if values that are no objects are put among those of
its context, above the root. So a section over an array that holds no objects writes such children
as they are outside of it, once for each element. -/
theorem renderNodes_of_padded {nodes : List Node}
    (hnodes : ∀ name ∈ namesOf nodes, name ≠ .implicit) (c : Context) :
    (∀ padded : Context, Padded c.frames padded.frames →
        renderNodes nodes padded = ((renderNodes nodes c).1, padded)) ∧
      ∀ (name : Name) (items : List Data), c.resolve name = some (.array items) →
        (∀ item ∈ items, item.kind ≠ .object) →
        renderNodes [.block name false nodes] c =
          ((List.replicate items.length (renderNodes nodes c).1).flatten, c) := by
  have hpadded (padded : Context) (h : Padded c.frames padded.frames) :
      renderNodes nodes padded = ((renderNodes nodes c).1, padded) := by
    refine Prod.ext ?_ (restores_renderNodes nodes padded)
    rw [renderNodes_text_eq, renderNodes_text_eq, h.meaning_eq hnodes]
  refine ⟨hpadded, fun name items hvalue hitems => ?_⟩
  have hitem : ∀ item ∈ items, (renderNodes nodes (c.push item)).1 = (renderNodes nodes c).1 := by
    intro item hmem
    rw [hpadded (c.push item) (.extra (hitems item hmem) (.self c))]
  rw [rendersIn_plain name c nodes, hvalue, Context.scopes, List.flatMap_map,
    List.flatMap_congr hitem, List.flatMap_def, List.map_const']

/-- Lists and numbers between a person and the root, and a section over lists within the person. -/
theorem renderNodes_of_padded_person :
    let nodes : List Node := [.interpolation (.dotted ['n'] [])]
    let person := Data.object [(['n'], .text ['x'])]
    let root := Data.object [(['n'], .null), (['l'], .array [.array [], .bool true])]
    let c : Context := ⟨[person], root⟩
    let padded : Context := ⟨[.array [.null], person, .text ['n']], root⟩
    (∀ name ∈ namesOf nodes, name ≠ .implicit) ∧ Padded c.frames padded.frames ∧
      (renderNodes nodes padded).1 = ['x'] ∧
      (renderNodes [.block (.dotted ['l'] []) false nodes] c).1 = ['x', 'x'] := by
  intro nodes person root c padded
  have hnodes : ∀ name ∈ namesOf nodes, name ≠ .implicit := by decide
  have hframes : Padded c.frames padded.frames :=
    .extra (by decide) (.same person (.extra (by decide) (.root root)))
  obtain ⟨hpadded, hsection⟩ := renderNodes_of_padded hnodes c
  have hname : c.resolve (.dotted ['l'] []) = some (.array [.array [], .bool true]) := rfl
  have hrender : (renderNodes nodes c).1 = ['x'] := by decide
  refine ⟨hnodes, hframes, ?_⟩
  rw [hpadded padded hframes, hsection _ _ hname (by decide), hrender]
  exact ⟨rfl, rfl⟩

end MustacheBuild
