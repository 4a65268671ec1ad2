import Mathlib.Data.List.Lex
import MustacheBuild.Path.Basic

/-!
Paths are ordered component by component, and components by their kind and, where both are names, by
their characters. Of two paths one precedes the other, unless they have the same components.
-/
namespace MustacheBuild

/-- Where no two elements are mapped to the same, lists are in the order that the mapped lists are
in. -/
theorem lex_map_iff {α β : Type} {f : α → β} (hf : Function.Injective f) {r : β → β → Prop}
    {l l' : List α} :
    List.Lex r (l.map f) (l'.map f) ↔ List.Lex (fun a b => r (f a) (f b)) l l' := by
  induction l generalizing l' with
  | nil => cases l' <;> simp
  | cons a l ih =>
    cases l' with
    | nil => simp
    | cons b l' =>
      rw [List.map_cons, List.map_cons, List.cons_lex_cons_iff, List.cons_lex_cons_iff, ih,
        hf.eq_iff]

theorem toNat_injective : Function.Injective Char.toNat := fun _ _ => Char.toNat_inj.1

namespace Path

namespace Component

/-- The place of its kind among the kinds of components. -/
def kind : Component → Nat
  | root => 0
  | current => 1
  | parent => 2
  | named _ => 3

/-- A component comes before those of a later kind, and a name before the names behind it in the
order of characters. -/
inductive Precedes : Component → Component → Prop
  | kind {c d : Component} (h : c.kind < d.kind) : Precedes c d
  | name {name other : Text} (h : name < other) : Precedes (named name) (named other)

/-- A name comes before another one as the numbers of its characters do. -/
theorem name_lt_iff {name other : Text} :
    name < other ↔ name.map Char.toNat < other.map Char.toNat :=
  (lex_map_iff (r := (· < ·)) toNat_injective).symm

theorem rank_eq (c : Component) : ∃ more, c.rank = c.kind :: more := by
  cases c <;> exact ⟨_, rfl⟩

/-- Only names differ from others of their kind. -/
theorem eq_or_named_of_kind_eq {c d : Component} (h : c.kind = d.kind) :
    c = d ∨ ∃ name other, c = named name ∧ d = named other := by
  cases c <;> cases d <;> simp_all [kind]

theorem rank_named_inj {name other : Text} (h : (named name).rank = (named other).rank) :
    name = other :=
  toNat_injective.list_map (List.cons.inj h).2

theorem rank_injective : Function.Injective rank := by
  intro c d h
  obtain ⟨more, hc⟩ := c.rank_eq
  obtain ⟨more', hd⟩ := d.rank_eq
  have hkind : c.kind = d.kind := (List.cons.inj (hc.symm.trans (h.trans hd))).1
  rcases eq_or_named_of_kind_eq hkind with heq | ⟨name, other, rfl, rfl⟩
  · exact heq
  · rw [rank_named_inj h]

/-- Components are ranked in their order. -/
theorem precedes_iff {c d : Component} : c.Precedes d ↔ c.rank < d.rank := by
  obtain ⟨more, hc⟩ := c.rank_eq
  obtain ⟨more', hd⟩ := d.rank_eq
  constructor
  · rintro (h | h)
    · rw [hc, hd]
      exact List.Lex.rel h
    · exact List.Lex.cons (name_lt_iff.1 h)
  · intro h
    have hfirst := h
    rw [hc, hd, List.cons_lt_cons_iff] at hfirst
    rcases hfirst with hlt | ⟨heq, -⟩
    · exact .kind hlt
    · rcases eq_or_named_of_kind_eq heq with rfl | ⟨name, other, rfl, rfl⟩
      · exact absurd h (lt_irrefl _)
      · rcases List.cons_lt_cons_iff.1 h with hlt | ⟨-, hnames⟩
        · exact absurd hlt (lt_irrefl 3)
        · exact .name (name_lt_iff.2 hnames)

end Component

/-- The components of a path are in order before those of another one. -/
def Precedes (p q : Path) : Prop := List.Lex Component.Precedes p.components q.components

variable {p q : Path}

theorem precedes_iff : p.Precedes q ↔ p.rank < q.rank := by
  have hcomponents : Component.Precedes = fun c d => c.rank < d.rank :=
    funext₂ fun _ _ => propext Component.precedes_iff
  rw [Precedes, hcomponents]
  exact (lex_map_iff (r := (· < ·)) Component.rank_injective).symm

theorem Precedes.asymm (h : p.Precedes q) : ¬ q.Precedes p := fun h' =>
  lt_asymm (precedes_iff.1 h) (precedes_iff.1 h')

theorem rank_eq_iff : p.rank = q.rank ↔ p.components = q.components :=
  Component.rank_injective.list_map.eq_iff

theorem le_iff : p.le q = true ↔ p.rank ≤ q.rank := by
  have hnumbers : ∀ a b : List Nat, List.lex a b (fun m n => decide (m < n)) = true ↔ a < b := by
    intro a b
    rw [List.lex_eq_true_iff_lex]
    simp only [decide_eq_true_eq]
    exact List.lex_lt
  unfold le
  rw [Bool.not_eq_true', Bool.eq_false_iff, Ne, List.lex_eq_true_iff_lex]
  simp only [hnumbers]
  exact List.lex_lt.not.trans not_lt

/-- Paths that are put in order precede one another, if no two of them are the same. -/
theorem pairwise_precedes_mergeSort {l : List Path}
    (h : l.Pairwise fun p q => p.components ≠ q.components) :
    (l.mergeSort le).Pairwise Precedes := by
  have hsorted : (l.mergeSort le).Pairwise fun p q => p.le q = true := by
    apply List.pairwise_mergeSort
    · intro p q r hpq hqr
      exact le_iff.2 ((le_iff.1 hpq).trans (le_iff.1 hqr))
    · intro p q
      rw [Bool.or_eq_true, le_iff, le_iff]
      exact le_total _ _
  have hapart : (l.mergeSort le).Pairwise fun p q => p.components ≠ q.components :=
    h.perm (List.mergeSort_perm l le).symm Ne.symm
  refine (hsorted.and hapart).imp ?_
  rintro p q ⟨hle, hne⟩
  exact precedes_iff.2 (lt_of_le_of_ne (le_iff.1 hle) fun heq => hne (rank_eq_iff.1 heq))

end Path
end MustacheBuild
