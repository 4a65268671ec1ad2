import MustacheBuild.Proofs.Render.Meaning

/-!
Two templates that differ in their names alone mean the same among two lists of values, if only the
values of their names look the same from there.
-/
namespace MustacheBuild

/-! ## Templates that differ in their names -/

mutual

/-- Two nodes of the same shape, whose names stand in a relation. -/
inductive Node.Alike (names : Name → Name → Prop) : Node → Node → Prop
  | text (t : Text) : Node.Alike names (.text t) (.text t)
  | interpolation {name other : Name} :
    names name other → Node.Alike names (.interpolation name) (.interpolation other)
  | block {name other : Name} {children others : List Node} (inverted : Bool) :
    names name other → NodesAlike names children others →
    Node.Alike names (.block name inverted children) (.block other inverted others)

/-- Two templates of the same shape, whose names stand in a relation. -/
inductive NodesAlike (names : Name → Name → Prop) : List Node → List Node → Prop
  | nil : NodesAlike names [] []
  | cons {node other : Node} {rest others : List Node} :
    Node.Alike names node other → NodesAlike names rest others →
    NodesAlike names (node :: rest) (other :: others)

end

mutual

/-- The names of a node in document order. -/
def Node.names : Node → List Name
  | .text _ => []
  | .interpolation name => [name]
  | .block name _ children => name :: namesOf children

/-- The names of a template in document order. -/
def namesOf : List Node → List Name
  | [] => []
  | node :: rest => node.names ++ namesOf rest

end

mutual

theorem Node.alike_self {names : Name → Name → Prop} : ∀ node : Node,
    (∀ name ∈ node.names, names name name) → Node.Alike names node node
  | .text t, _ => .text t
  | .interpolation name, h => .interpolation (h name List.mem_cons_self)
  | .block name inverted children, h =>
    have hchildren := nodesAlike_self children fun n hn => h n (List.mem_cons_of_mem name hn)
    .block inverted (h name List.mem_cons_self) hchildren

/-- A template is like itself if each of its names is related to itself. -/
theorem nodesAlike_self {names : Name → Name → Prop} : ∀ nodes : List Node,
    (∀ name ∈ namesOf nodes, names name name) → NodesAlike names nodes nodes
  | [], _ => .nil
  | node :: rest, h =>
    have hnode := node.alike_self fun n hn => h n (List.mem_append_left _ hn)
    have hrest := nodesAlike_self rest fun n hn => h n (List.mem_append_right _ hn)
    .cons hnode hrest

end

/-! ## Values that look the same -/

/-- The values that a plain section enters. -/
def Data.entered : Data → List Data
  | array items => items
  | object fields => [object fields]
  | _ => []

/-- Two values that look the same to a tag: they have one text and one truth, and plain sections
over them lead to the same number of scopes, in pairs of a relation. -/
structure LookAlike (R : List Data → List Data → Prop) (frames others : List Data)
    (value other : Option Data) : Prop where
  text : textOf value = textOf other
  truth : isTruthy value = isTruthy other
  scopes : List.Forall₂ R (value.elim [] (Data.scopes frames)) (other.elim [] (Data.scopes others))

variable {R : List Data → List Data → Prop} {frames others : List Data}

/-- A value looks like itself if the scopes stay in the relation where it is entered. -/
theorem LookAlike.same (h : R frames others) {value : Option Data}
    (henter : ∀ d ∈ value.elim [] Data.entered, R (d :: frames) (d :: others)) :
    LookAlike R frames others value value where
  text := rfl
  truth := rfl
  scopes := by
    have hscalar (truth : Bool) :
        List.Forall₂ R (if truth then [frames] else []) (if truth then [others] else []) := by
      cases truth with
      | false => exact .nil
      | true => exact .cons h .nil
    match value with
    | none => exact .nil
    | some (.array items) =>
      simp only [Option.elim_some, Data.scopes, List.forall₂_map_left_iff,
        List.forall₂_map_right_iff, List.forall₂_same]
      exact henter
    | some (.object fields) => exact .cons (henter _ List.mem_cons_self) .nil
    | some .null => exact hscalar false
    | some (.bool b) => exact hscalar b
    | some (.number n) => exact hscalar _
    | some (.text t) => exact hscalar _

theorem flatMap_eq_of_forall₂ {α β γ : Type} {R : α → β → Prop} {f : α → List γ} {g : β → List γ}
    (hfg : ∀ a b, R a b → f a = g b) {as : List α} {bs : List β} (h : List.Forall₂ R as bs) :
    as.flatMap f = bs.flatMap g := by
  induction h with
  | nil => rfl
  | cons hab _ ih => rw [List.flatMap_cons, List.flatMap_cons, hfg _ _ hab, ih]

/-! ## Templates among lists of values in a relation -/

/-- Among lists of values in the relation `R`, names that are related have values that look the
same. -/
def Respects (names : Name → Name → Prop) (R : List Data → List Data → Prop) : Prop :=
  ∀ frames others, R frames others → ∀ name other, names name other →
    LookAlike R frames others (name.valueIn? frames) (other.valueIn? others)

section
variable {names : Name → Name → Prop}

mutual

theorem Node.Alike.meaning_eq {node node' : Node} (h : Node.Alike names node node')
    (hnames : Respects names R) {frames others : List Data} (hframes : R frames others) :
    node.meaning frames = node'.meaning others := by
  match h with
  | .text t => rw [Node.meaning, Node.meaning]
  | .interpolation hname =>
    rw [Node.meaning, Node.meaning]
    exact (hnames _ _ hframes _ _ hname).text
  | .block true hname hchildren =>
    rw [Node.meaning, Node.meaning, (hnames _ _ hframes _ _ hname).truth,
      hchildren.meaning_eq hnames hframes]
  | .block false hname hchildren =>
    rw [Node.meaning, Node.meaning]
    exact flatMap_eq_of_forall₂ (fun _ _ hscope => hchildren.meaning_eq hnames hscope)
      (hnames _ _ hframes _ _ hname).scopes

/-- Templates that are alike mean the same among lists of values that their names respect. -/
theorem NodesAlike.meaning_eq {nodes nodes' : List Node} (h : NodesAlike names nodes nodes')
    (hnames : Respects names R) {frames others : List Data} (hframes : R frames others) :
    meaning frames nodes = meaning others nodes' := by
  match h with
  | .nil => rw [meaning, meaning]
  | .cons hnode hrest =>
    rw [meaning, meaning, hnode.meaning_eq hnames hframes, hrest.meaning_eq hnames hframes]

end

/-- What holds of meanings holds of what is rendered from the roots. -/
theorem NodesAlike.render_eq {nodes nodes' : List Node} (h : NodesAlike names nodes nodes')
    (hnames : Respects names R) {data data' : Data} (hroots : R [data] [data']) :
    render nodes data = render nodes' data' := by
  have hmeaning := h.meaning_eq hnames hroots
  rw [render, render, renderNodes_text_eq, renderNodes_text_eq]
  exact hmeaning

end
end MustacheBuild
