import MustacheBuild.Proofs.Render.Basic

/-!
What a template means among values that stay where they are, the innermost first. Rendering, which
enters and leaves values one after the other, writes exactly that.
-/
namespace MustacheBuild

/-! ## Names -/

/-- The value at the end of the segments, each a field of the value before it. -/
inductive Data.LeadsTo : Data → List Text → Data → Prop
  | here (value : Data) : LeadsTo value [] value
  | field {value child found : Data} {segment : Text} {rest : List Text} :
    value.get? segment = some child → LeadsTo child rest found →
    LeadsTo value (segment :: rest) found

/-- What a name refers to among values, the innermost first. The innermost value that has the first
segment is the only one in which the others are looked up. -/
inductive Name.RefersTo : Name → List Data → Data → Prop
  | implicit (innermost : Data) (outer : List Data) :
    RefersTo .implicit (innermost :: outer) innermost
  | here {frame child found : Data} {outer : List Data} {first : Text} {rest : List Text} :
    frame.get? first = some child → child.LeadsTo rest found →
    RefersTo (.dotted first rest) (frame :: outer) found
  | outward {frame found : Data} {outer : List Data} {first : Text} {rest : List Text} :
    frame.get? first = none → RefersTo (.dotted first rest) outer found →
    RefersTo (.dotted first rest) (frame :: outer) found

/-- The value at the end of the segments, if there is one. -/
def Data.follow? : Data → List Text → Option Data
  | value, [] => some value
  | value, segment :: rest =>
    match value.get? segment with
    | some child => child.follow? rest
    | none => none

/-- The value that a name refers to, if there is one. -/
def Name.valueIn? : Name → List Data → Option Data
  | _, [] => none
  | .implicit, innermost :: _ => some innermost
  | .dotted first rest, frame :: outer =>
    match frame.get? first with
    | some child => child.follow? rest
    | none => valueIn? (.dotted first rest) outer

section
variable {value found : Data} {segments : List Text} {name : Name} {frames : List Data}

theorem Data.follow?_eq_some_iff : value.follow? segments = some found ↔
    value.LeadsTo segments found := by
  induction segments generalizing value with
  | nil =>
    constructor
    · intro h
      obtain rfl : value = found := Option.some.inj h
      exact .here value
    · rintro ⟨⟩
      rfl
  | cons segment rest ih =>
    rw [follow?]
    constructor
    · intro h
      split at h
      next child hchild => exact .field hchild (ih.1 h)
      next => contradiction
    · rintro (_ | ⟨hchild, hrest⟩)
      rw [hchild]
      exact ih.2 hrest

theorem Name.valueIn?_eq_some_iff : name.valueIn? frames = some found ↔
    name.RefersTo frames found := by
  cases name with
  | implicit =>
    cases frames with
    | nil => exact ⟨nofun, nofun⟩
    | cons innermost outer =>
      constructor
      · intro h
        obtain rfl : innermost = found := Option.some.inj h
        exact .implicit innermost outer
      · rintro ⟨⟩
        rfl
  | dotted first rest =>
    induction frames with
    | nil => exact ⟨nofun, nofun⟩
    | cons frame outer ih =>
      rw [valueIn?]
      constructor
      · intro h
        split at h
        next child hchild => exact .here hchild (Data.follow?_eq_some_iff.1 h)
        next hnone => exact .outward hnone (ih.1 h)
      · rintro (_ | ⟨hchild, hrest⟩ | ⟨hnone, houter⟩)
        · rw [hchild]
          exact Data.follow?_eq_some_iff.2 hrest
        · rw [hnone]
          exact ih.2 houter

end

namespace Context

theorem descend_eq (value : Data) (segments : List Text) :
    descend value segments = value.follow? segments := by
  induction segments generalizing value with
  | nil => rfl
  | cons segment rest ih =>
    rw [descend, List.foldlM_cons, Data.follow?]
    cases value.get? segment with
    | none => rfl
    | some child => exact ih child

/-- A context finds what a name refers to among its values. -/
theorem resolve_eq (c : Context) (name : Name) : c.resolve name = name.valueIn? c.frames := by
  cases name with
  | implicit =>
    obtain ⟨inner, root⟩ := c
    cases inner <;> rfl
  | dotted first rest =>
    rw [resolve]
    induction c.frames with
    | nil => rfl
    | cons frame outer ih =>
      rw [List.findSome?_cons, Name.valueIn?]
      cases frame.get? first with
      | none => exact ih
      | some child => exact descend_eq child rest

end Context

/-! ## Templates -/

/-- The values among which the body of a plain section has its meaning, once for each. -/
def Data.scopes (frames : List Data) : Data → List (List Data)
  | array items => items.map (· :: frames)
  | object fields => [object fields :: frames]
  | value => if value.isTrue then [frames] else []

mutual

def Node.meaning (frames : List Data) : Node → Text
  | .text t => t
  | .interpolation name => textOf (name.valueIn? frames)
  | .block name true children =>
    if isTruthy (name.valueIn? frames) then [] else meaning frames children
  | .block name false children =>
    ((name.valueIn? frames).elim [] (Data.scopes frames)).flatMap fun inner =>
      meaning inner children

/-- What a template means among values that stay where they are, the innermost first. -/
def meaning (frames : List Data) : List Node → Text
  | [] => []
  | node :: rest => node.meaning frames ++ meaning frames rest

end

namespace Rendering

variable {body : Rendering}

theorem forEach_text (hbody : body.Restores) (items : List Data) (c : Context) :
    (forEach items body c).1 = items.flatMap fun item => (body (c.push item)).1 := by
  induction items with
  | nil => rfl
  | cons item items ih =>
    have hstep : forEach (item :: items) body =
        (within item body).andThen (forEach items body) := rfl
    rw [hstep, (hbody.within item).andThen_eq, ih]
    rfl

/-- A plain section writes its body once among each of the values that it enters. -/
theorem plain_text (hbody : body.Restores) (text : List Data → Text)
    (htext : ∀ c, (body c).1 = text c.frames) (value : Option Data) (c : Context) :
    (plain value body c).1 = (value.elim [] (Data.scopes c.frames)).flatMap text := by
  have hscalar (truth : Bool) :
      ((if truth then body else nothing) c).1 =
        (if truth then [c.frames] else []).flatMap text := by
    cases truth with
    | false => rfl
    | true => simpa using htext c
  match value with
  | none => rfl
  | some (.array items) =>
    have hitem (item : Data) : (body (c.push item)).1 = text (item :: c.frames) := htext _
    have hplain : plain (some (.array items)) body = forEach items body := rfl
    rw [hplain, forEach_text hbody]
    simp only [hitem, Option.elim_some, Data.scopes, List.flatMap_map]
  | some (.object fields) =>
    have hfields : (plain (some (.object fields)) body c).1 = text (.object fields :: c.frames) :=
      htext (c.push (.object fields))
    simpa [Data.scopes] using hfields
  | some .null => exact hscalar false
  | some (.bool b) => exact hscalar b
  | some (.number n) => exact hscalar _
  | some (.text t) => exact hscalar _

theorem inverted_text (text : List Data → Text) (htext : ∀ c, (body c).1 = text c.frames)
    (value : Option Data) (c : Context) :
    (inverted value body c).1 = if isTruthy value then [] else text c.frames := by
  unfold inverted
  split
  next => rfl
  next => exact htext c

end Rendering

mutual

theorem Node.render_text : ∀ (node : Node) (c : Context), (node.render c).1 = node.meaning c.frames
  | .text t, c => by
    rw [Node.render, Node.meaning]
    rfl
  | .interpolation name, c => by
    rw [Node.render, Node.meaning, ← c.resolve_eq]
    rfl
  | .block name true children, c => by
    have hchildren := renderNodes_text_eq children
    rw [Node.render, Node.meaning, ← c.resolve_eq]
    exact Rendering.inverted_text (meaning · children) hchildren _ c
  | .block name false children, c => by
    have hchildren := renderNodes_text_eq children
    rw [Node.render, Node.meaning, ← c.resolve_eq]
    exact Rendering.plain_text (restores_renderNodes children) (meaning · children) hchildren _ c

theorem renderNodes_text_eq : ∀ (nodes : List Node) (c : Context),
    (renderNodes nodes c).1 = meaning c.frames nodes
  | [], c => by
    rw [renderNodes, meaning]
    rfl
  | node :: rest, c => by
    rw [renderNodes_cons, meaning, node.render_text c, renderNodes_text_eq rest c]

end

/-- Rendering writes what the template means among the values of its context, and leaves the context
as it was. Names refer to the innermost value that has their first segment, and the text of a value
is written as it stands. -/
theorem renderNodes_eq_meaning (nodes : List Node) (c : Context) :
    renderNodes nodes c = (meaning c.frames nodes, c) ∧
      (∀ (name : Name) (value : Data),
        name.valueIn? c.frames = some value ↔ name.RefersTo c.frames value) ∧
      (∀ (name : Name) (t : Text), name.RefersTo c.frames (.text t) →
        renderNodes [.interpolation name] c = (t, c)) ∧
      ∀ data, render nodes data = meaning [data] nodes := by
  have heq (nodes : List Node) : renderNodes nodes c = (meaning c.frames nodes, c) :=
    Prod.ext (renderNodes_text_eq nodes c) (restores_renderNodes nodes c)
  refine ⟨heq nodes, fun _ _ => Name.valueIn?_eq_some_iff, fun name t ht => ?_, fun data => ?_⟩
  · have htext : meaning c.frames [.interpolation name] = t := by
      rw [meaning, Node.meaning, Name.valueIn?_eq_some_iff.2 ht]
      exact List.append_nil t
    rw [heq, htext]
  · exact renderNodes_text_eq nodes (.ofRoot data)

/-- The field `a.c` of the outer value is out of reach, as the inner value has a field `a` too. -/
example :
    let inner := Data.object [(['a'], .null)]
    let outer := Data.object [(['a'], .object [(['c'], .bool true)])]
    meaning [inner, outer] [.interpolation (.dotted ['a'] [['c']])] = [] := by decide

end MustacheBuild
