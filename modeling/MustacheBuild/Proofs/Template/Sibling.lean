import MustacheBuild.Proofs.Template.NormalForm

/-!
The siblings in a parsed tree, at every depth: which texts can stand among them, and which names.
-/
namespace MustacheBuild

open Text (FoundBehind)

/-- The nodes stand beside one another in a tree, at its top or as the children of a section. -/
inductive Siblings (tree : List Node) : Bool → List Node → Prop
  | top : Siblings tree false tree
  | children {inside : Bool} {siblings : List Node} {name : Name} {inverted : Bool}
    {children : List Node} : Siblings tree inside siblings →
    .block name inverted children ∈ siblings → Siblings tree true children

/-- Texts are as long as they can be, and none of them, where something follows it, makes a tag with
what follows; names can be written between their braces. -/
structure NormalSiblings (inside : Bool) (siblings : List Node) : Prop where
  notEmpty : .text [] ∉ siblings
  apart : ∀ before t u after, siblings ≠ before ++ .text t :: .text u :: after
  tagless : ∀ t, .text t ∈ siblings → ¬ Braces.double.opening <:+: t
  /-- A text is followed by a sibling, or by the end of the section in which it is. -/
  unopened : ∀ before t after, siblings = before ++ .text t :: after →
    after ≠ [] ∨ inside = true → t.getLast? ≠ some '{'
  interpolation : ∀ name, .interpolation name ∈ siblings → name.Fits .triple
  block : ∀ name inverted children, .block name inverted children ∈ siblings → name.Fits .double

section
variable {tree siblings : List Node} {inside : Bool} {es fs : List Event} {e : Event} {t : Text}

theorem Text.FoundBehind.getLast?_ne {c : Char} (h : FoundBehind [c, c] t) :
    t.getLast? ≠ some c := by
  intro hlast
  obtain ⟨front, rfl⟩ := List.getLast?_eq_some_iff.1 hlast
  refine h ?_
  rw [List.dropLast_cons_cons, List.dropLast_singleton, List.append_assoc]
  exact (List.suffix_append front [c, c]).isInfix

/-! ## In the order of the source -/

theorem Printable.tail (h : Printable (e :: es)) : Printable es := by
  cases h with
  | last _ => exact .nil
  | text _ hes => exact hes
  | tag _ _ hes => exact hes

theorem Printable.of_append (h : Printable (es ++ fs)) : Printable fs := by
  induction es with
  | nil => exact h
  | cons e es ih => exact ih h.tail

theorem Printable.text_cons (h : Printable (.text t :: es)) :
    ¬ Braces.double.opening <:+: t ∧ (es ≠ [] → FoundBehind Braces.double.opening t) := by
  cases h with
  | last ht => exact ⟨ht, fun hne => absurd rfl hne⟩
  | text ht _ => exact ⟨ht.not_infix, fun _ => ht⟩
  | tag he _ _ => contradiction

theorem flattenNodes_ne_nil {nodes : List Node} (h : nodes ≠ []) : flattenNodes nodes ≠ [] := by
  obtain ⟨node, rest, rfl⟩ := List.exists_cons_of_ne_nil h
  cases node <;> simp [Node.flatten]

/-- What siblings say stands in what the tree says, and the end of their section behind it. -/
theorem Siblings.flatten (h : Siblings tree inside siblings) : ∃ front behind,
    flattenNodes tree = front ++ (flattenNodes siblings ++ behind) ∧
      (inside = true → behind ≠ []) := by
  induction h with
  | top => exact ⟨[], [], by simp, by simp⟩
  | @children inside siblings name inverted children _ hmem ih =>
    obtain ⟨front, behind, hall, -⟩ := ih
    obtain ⟨before, after, rfl⟩ := List.append_of_mem hmem
    refine ⟨front ++ (flattenNodes before ++ [.opening name inverted]),
      .closing name :: (flattenNodes after ++ behind), ?_, by simp⟩
    rw [hall]
    simp [Node.flatten]

/-- Each sibling stands there with what follows it, which is not all of the source if another
sibling or the end of their section follows. -/
theorem Siblings.flatten_append {before after : List Node} {node : Node}
    (h : Siblings tree inside (before ++ node :: after)) : ∃ front behind,
    flattenNodes tree = front ++ (node.flatten ++ (flattenNodes after ++ behind)) ∧
      (after ≠ [] ∨ inside = true → flattenNodes after ++ behind ≠ []) := by
  obtain ⟨front, behind, hall, hinside⟩ := h.flatten
  refine ⟨front ++ flattenNodes before, behind, ?_, ?_⟩
  · rw [hall]
    simp
  · rintro (hafter | hsection)
    · exact List.append_ne_nil_of_left_ne_nil (flattenNodes_ne_nil hafter) behind
    · exact List.append_ne_nil_of_right_ne_nil _ (hinside hsection)

/-! ## In the tree -/

/-- What a sibling says can be written where it stands. -/
theorem Siblings.fits_of_mem (h : Siblings tree inside siblings)
    (hprint : Printable (flattenNodes tree)) {node : Node} (hmem : node ∈ siblings)
    {rest : List Event} (hnode : node.flatten = e :: rest) (he : e.isText = false) : e.Fits := by
  obtain ⟨before, after, rfl⟩ := List.append_of_mem hmem
  obtain ⟨front, behind, hall, -⟩ := h.flatten_append
  rw [hall, hnode] at hprint
  exact (hprint.of_append.of_tag he).1

/-- Siblings are normal in a tree whose sequence is merged and can be written. -/
theorem normalSiblings_of_printable (hmerged : Event.Merged (flattenNodes tree))
    (hprint : Printable (flattenNodes tree)) (h : Siblings tree inside siblings) :
    NormalSiblings inside siblings where
  notEmpty hmem := by
    obtain ⟨before, after, rfl⟩ := List.append_of_mem hmem
    obtain ⟨front, behind, hall, -⟩ := h.flatten_append
    exact hmerged.notEmpty (by simp [hall, Node.flatten])
  apart before t u after := by
    rintro rfl
    obtain ⟨front, behind, hall, -⟩ := h.flatten_append
    rw [hall, flattenNodes_cons, Node.flatten, Node.flatten] at hmerged
    obtain ⟨-, hnext, -⟩ := Event.merged_cons_iff.1 (Event.merged_append_iff.1 hmerged).2.1
    exact hnext (.text u) rfl ⟨rfl, rfl⟩
  tagless t hmem := by
    obtain ⟨before, after, rfl⟩ := List.append_of_mem hmem
    obtain ⟨front, behind, hall, -⟩ := h.flatten_append
    rw [hall] at hprint
    exact hprint.of_append.text_cons.1
  unopened before t after := by
    rintro rfl hfollowed
    obtain ⟨front, behind, hall, hne⟩ := h.flatten_append
    rw [hall] at hprint
    exact (hprint.of_append.text_cons.2 (hne hfollowed)).getLast?_ne
  interpolation name hmem := h.fits_of_mem hprint hmem (e := .interpolation name) rfl rfl
  block name inverted children hmem :=
    h.fits_of_mem hprint hmem (e := .opening name inverted) rfl rfl

/-- All siblings in a parsed tree are normal, at every depth. -/
theorem normalSiblings_of_parse {source : Text} (hparse : parse source = .ok tree)
    (h : Siblings tree inside siblings) : NormalSiblings inside siblings :=
  normalSiblings_of_printable (merged_flattenNodes_of_parse hparse) (printable_of_parse hparse) h

theorem normalSiblings_of_parse_section :
    let source := "a {{! c }}\x7b b{{# x }}\x7b {{{ y }}} c{{/x}}\x7b".toList
    let children := [.text ['{', ' '], .interpolation (Name.ofText ['y']), .text [' ', 'c']]
    let tree := [.text ['a', ' ', '{', ' ', 'b'], .block (Name.ofText ['x']) false children,
      .text ['{']]
    (parse source = .ok tree ∧ Siblings tree true children) ∧ NormalSiblings true children := by
  have hparse : parse "a {{! c }}\x7b b{{# x }}\x7b {{{ y }}} c{{/x}}\x7b".toList =
      .ok [.text ['a', ' ', '{', ' ', 'b'], .block (Name.ofText ['x']) false
        [.text ['{', ' '], .interpolation (Name.ofText ['y']), .text [' ', 'c']],
        .text ['{']] := by cbv
  have hchildren (first : Node) (children rest : List Node) :
      Siblings (first :: .block (Name.ofText ['x']) false children :: rest) true children :=
    Siblings.top.children (List.mem_cons_of_mem first List.mem_cons_self)
  exact ⟨⟨hparse, hchildren _ _ _⟩, normalSiblings_of_parse hparse (hchildren _ _ _)⟩

end
end MustacheBuild
