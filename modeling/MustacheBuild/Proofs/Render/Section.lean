import MustacheBuild.Proofs.Render.Meaning

/-!
How often a section renders its children. Of a plain section and the inverted one of the same name
exactly one does, whatever the name refers to.
-/
namespace MustacheBuild

/-- How often a plain section over a value renders its children. -/
def repetitions : Option Data → Nat
  | some (.array items) => items.length
  | some (.object _) => 1
  | value => if isTruthy value then 1 else 0

/-- The contexts in which a plain section over a value renders its children. -/
def Context.scopes (c : Context) : Option Data → List Context
  | some (.array items) => items.map c.push
  | some (.object fields) => [c.push (.object fields)]
  | value => if isTruthy value then [c] else []

/-- Whatever its children are, a section renders them once in each of these contexts, one after the
other, and writes nothing else. -/
def RendersIn (name : Name) (inverted : Bool) (c : Context) (scopes : List Context) : Prop :=
  ∀ children, renderNodes [.block name inverted children] c =
    (scopes.flatMap fun scope => (renderNodes children scope).1, c)

/-- A list that is empty, or holds a single context. -/
theorem length_scopes_scalar (c : Context) (truth : Bool) :
    (if truth then [c] else []).length = if truth then 1 else 0 := by
  cases truth <;> rfl

theorem length_scopes (c : Context) (value : Option Data) :
    (c.scopes value).length = repetitions value := by
  match value with
  | some (.array items) => exact List.length_map _
  | some (.object fields) => rfl
  | none | some .null => rfl
  | some (.bool _) | some (.number _) | some (.text _) => exact length_scopes_scalar c _

/-- Truth and shape, by which inverted and plain sections go, tell the same values apart. -/
theorem repetitions_eq_zero_iff (value : Option Data) :
    repetitions value = 0 ↔ isTruthy value = false := by
  have hscalar (truth : Bool) : (if truth then 1 else 0) = 0 ↔ truth = false := by
    cases truth <;> decide
  match value with
  | some (.array items) => simp [repetitions, isTruthy, Data.isTrue]
  | some (.object fields) => simp [repetitions, isTruthy, Data.isTrue]
  | none | some .null => exact hscalar false
  | some (.bool _) | some (.number _) | some (.text _) => exact hscalar _

namespace Rendering

/-- A plain section writes its body once for each of its scopes, and leaves the context. -/
theorem plain_eq {body : Rendering} (hbody : body.Restores) (value : Option Data) (c : Context) :
    plain value body c = ((c.scopes value).flatMap fun scope => (body scope).1, c) := by
  have hscalar (truth : Bool) : (if truth then body else nothing) c =
      ((if truth then [c] else []).flatMap fun scope => (body scope).1, c) := by
    cases truth with
    | false => rfl
    | true => exact Prod.ext (List.append_nil _).symm (hbody c)
  match value with
  | some (.array items) =>
    have hplain : plain (some (.array items)) body = forEach items body := rfl
    refine Prod.ext ?_ (hbody.forEach items c)
    rw [hplain, forEach_text hbody, Context.scopes, List.flatMap_map]
  | some (.object fields) => exact Prod.ext (List.append_nil _).symm (hbody.within _ c)
  | none | some .null => exact hscalar false
  | some (.bool _) | some (.number _) | some (.text _) => exact hscalar _

end Rendering

section
variable {name : Name} {inverted : Bool} {c : Context} {scopes others : List Context}

theorem renderNodes_singleton (node : Node) (c : Context) :
    renderNodes [node] c = node.render c := by
  rw [renderNodes, node.restores_render.andThen_eq]
  exact Prod.ext (List.append_nil _) (node.restores_render c).symm

theorem rendersIn_plain (name : Name) (c : Context) :
    RendersIn name false c (c.scopes (c.resolve name)) := by
  intro children
  rw [renderNodes_singleton, Node.render]
  exact Rendering.plain_eq (restores_renderNodes children) _ c

theorem rendersIn_inverted (name : Name) (c : Context) :
    RendersIn name true c (if isTruthy (c.resolve name) then [] else [c]) := by
  intro children
  rw [renderNodes_singleton, Node.render]
  dsimp only
  rw [if_pos rfl, Rendering.inverted]
  split
  next => rfl
  next => exact Prod.ext (List.append_nil _).symm (restores_renderNodes children c)

/-- Children that are a single mark count how often they are rendered. -/
theorem RendersIn.length_eq (h : RendersIn name inverted c scopes)
    (hothers : RendersIn name inverted c others) : others.length = scopes.length := by
  have hcount (contexts : List Context) :
      (contexts.flatMap fun scope => (renderNodes [.text ['|']] scope).1).length =
        contexts.length := by
    simp [renderNodes_text]
  have hsame := (hothers [.text ['|']]).symm.trans (h [.text ['|']])
  rw [← hcount others, (Prod.mk.inj hsame).1, hcount]

theorem renderNodes_texts (texts : List Text) (c : Context) :
    (renderNodes (texts.map .text) c).1 = texts.flatten := by
  induction texts with
  | nil => rfl
  | cons t texts ih =>
    rw [List.map_cons, renderNodes_cons, ih, Node.render]
    rfl

theorem RendersIn.texts (h : RendersIn name inverted c scopes) (texts : List Text) :
    (renderNodes [.block name inverted (texts.map .text)] c).1 =
      (List.replicate scopes.length texts.flatten).flatten := by
  rw [h]
  simp only [renderNodes_texts, List.flatMap_def, List.map_const']

end

/-- The inverted section of a name renders its children once where the plain one renders them zero
times, and otherwise not at all. The plain one renders them as often as the value of the name asks
for, so that one of the two writes children that are text. -/
theorem sections_complementary (c : Context) (name : Name) :
    ∃ plain inverted : List Context, RendersIn name false c plain ∧ RendersIn name true c inverted ∧
      (∀ others, RendersIn name false c others → others.length = plain.length) ∧
      plain.length = repetitions (c.resolve name) ∧
      (plain.length = 0 → inverted = [c]) ∧ (1 ≤ plain.length → inverted = []) ∧
      ∀ texts : List Text,
        (renderNodes [.block name false (texts.map .text)] c).1 =
            (List.replicate plain.length texts.flatten).flatten ∧
          (texts.flatten ≠ [] → (renderNodes [.block name false (texts.map .text),
            .block name true (texts.map .text)] c).1 ≠ []) := by
  have hplain := rendersIn_plain name c
  have hinverted := rendersIn_inverted name c
  have hlength := length_scopes c (c.resolve name)
  generalize c.scopes (c.resolve name) = plain at hplain hlength
  generalize hnone : (if isTruthy (c.resolve name) then [] else [c]) = inverted at hinverted
  have hzero : plain.length = 0 → inverted = [c] := by
    intro h
    rw [hlength, repetitions_eq_zero_iff] at h
    rw [← hnone, if_neg (by simp [h])]
  have hsome : 1 ≤ plain.length → inverted = [] := by
    intro h
    have htruth : repetitions (c.resolve name) ≠ 0 := by omega
    rw [Ne, repetitions_eq_zero_iff, Bool.not_eq_false] at htruth
    rw [← hnone, if_pos htruth]
  refine ⟨plain, inverted, hplain, hinverted, fun others => hplain.length_eq, hlength, hzero, hsome,
    fun texts => ⟨hplain.texts texts, fun htexts => ?_⟩⟩
  have hcount : plain.length + inverted.length ≠ 0 := by
    by_cases h : plain.length = 0
    · simp [hzero h]
    · omega
  rw [renderNodes_cons, ← renderNodes_singleton, hplain.texts, hinverted.texts,
    ← List.flatten_append, List.replicate_append_replicate]
  exact fun hnil => htexts (List.flatten_eq_nil_iff.1 hnil _ (List.mem_replicate.2 ⟨hcount, rfl⟩))

/-- The empty object is rendered once, and the empty array is not. -/
example :
    let nodes (name : Text) : List Node :=
      [.block (.dotted name []) false [.text ['+']], .block (.dotted name []) true [.text ['-']]]
    let data := Data.object [(['o'], .object []), (['a'], .array [])]
    render (nodes ['o']) data = ['+'] ∧ render (nodes ['a']) data = ['-'] := by decide

end MustacheBuild
