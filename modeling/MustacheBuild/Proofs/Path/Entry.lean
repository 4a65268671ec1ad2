import Mathlib.Data.List.Basic
import MustacheBuild.Build.Discovery
import MustacheBuild.Proofs.Path.Companions

/-!
The paths of what is in a directory and below it: the components of the directory, with the names on
the way behind them.
-/
namespace MustacheBuild
namespace Path

/-- A name that an entry of a directory can have. -/
structure IsEntryName (name : Text) : Prop where
  names : Names name
  slashless : '/' ∉ name

instance (name : Text) : Decidable (IsEntryName name) :=
  decidable_of_iff ((name ≠ [] ∧ name ≠ ['.'] ∧ name ≠ ['.', '.']) ∧ '/' ∉ name)
    ⟨fun h => ⟨⟨not_or.2 ⟨h.1.1, h.1.2.1⟩, h.1.2.2⟩, h.2⟩,
      fun h => ⟨⟨(not_or.1 h.names.1).1, (not_or.1 h.names.1).2, h.names.2⟩, h.slashless⟩⟩

/-- What follows a path that is not empty stands behind all its components. -/
theorem directoryComponents_pieces {p : Path} (h : p.text ≠ []) :
    directoryComponents p.pieces = p.components := by
  have hfirst : (Text.pieces '/' p.text).1 = [] → (Text.pieces '/' p.text).2 ≠ [] := by
    obtain ⟨c, t, ht⟩ := List.exists_cons_of_ne_nil h
    rw [ht, Text.pieces]
    split <;> simp
  rw [components_eq, pieces, directoryComponents, componentsOf]
  cases hmore : (Text.pieces '/' p.text).2 with
  | nil =>
    have hne : (Text.pieces '/' p.text).1 ≠ [] := fun heq => hfirst heq hmore
    simp [firstComponent?, hne]
  | cons piece more => rfl

variable {name : Text}

/-- An entry has its name behind the components of the directory, however this is written. -/
theorem exists_endsIn_join (directory : Path) (h : IsEntryName name) :
    ∃ before, (directory.join name).EndsIn before name ∧
      directoryComponents before = directory.components := by
  unfold join
  split
  next hempty =>
    refine ⟨[], .of_pieces h.names ?_, ?_⟩
    · rw [pieces, Text.pieces_of_notMem h.slashless]
      rfl
    · obtain ⟨text⟩ := directory
      obtain rfl : text = [] := List.isEmpty_iff.1 hempty
      rfl
  next hempty =>
    split
    next hslash =>
      obtain ⟨t, ht⟩ := List.getLast?_eq_some_iff.1 hslash
      refine ⟨pieces ⟨t⟩, .of_pieces h.names ?_, ?_⟩
      · rw [ht, List.append_assoc]
        exact pieces_append_slash t h.slashless
      · have hpieces : directory.pieces = pieces ⟨t⟩ ++ [[]] := by
          rw [← pieces_append_slash t List.not_mem_nil, ← ht]
        have hne : pieces ⟨t⟩ ≠ [] := List.cons_ne_nil _ _
        rw [components_eq, hpieces, componentsOf_append hne, directoryComponents_append hne]
        exact (List.append_nil _).symm
    next =>
      refine ⟨directory.pieces, .of_pieces h.names (pieces_append_slash _ h.slashless), ?_⟩
      exact directoryComponents_pieces fun hnil => hempty (List.isEmpty_iff.2 hnil)

theorem components_join (directory : Path) (h : IsEntryName name) :
    (directory.join name).components = directory.components ++ [.named name] := by
  obtain ⟨before, hends, hbefore⟩ := exists_endsIn_join directory h
  rw [hends.components_eq, hbefore]

/-- The path that names lead to from a directory. -/
def below (directory : Path) (names : List Text) : Path := names.foldl join directory

theorem components_below {names : List Text} (directory : Path)
    (h : ∀ name ∈ names, IsEntryName name) :
    (directory.below names).components = directory.components ++ names.map .named := by
  induction names generalizing directory with
  | nil => exact (List.append_nil _).symm
  | cons name names ih =>
    obtain ⟨hname, hnames⟩ := List.forall_mem_cons.1 h
    show ((directory.join name).below names).components = _
    rw [ih _ hnames, components_join directory hname, List.append_assoc]
    rfl

/-- Different names lead to different paths. -/
theorem eq_of_components_below {directory : Path} {names others : List Text}
    (h : ∀ name ∈ names, IsEntryName name) (hothers : ∀ name ∈ others, IsEntryName name)
    (heq : (directory.below names).components = (directory.below others).components) :
    names = others := by
  rw [components_below directory h, components_below directory hothers] at heq
  have hinjective : Function.Injective Component.named := fun _ _ => Component.named.inj
  exact hinjective.list_map (List.append_cancel_left heq)

/-- What has an extension has companions. -/
theorem isSome_of?_of_extension? {p : Path} {extension : Text}
    (h : p.extension? = some extension) : (Companions.of? p).isSome = true := by
  obtain ⟨⟨directory, name⟩, hname, h⟩ := Option.bind_eq_some_iff.1 h
  obtain ⟨⟨stem, extension⟩, hsplit, -⟩ := Option.bind_eq_some_iff.1 h
  simp [Companions.of?, withoutExtension?, hname, hsplit]

end Path

namespace Discovery

/-- The name of a template: its last dot, which is not the first character, has the extension of
templates behind it. -/
def IsTemplateName (name : Text) : Prop :=
  ∃ stem, stem ≠ [] ∧ name = stem ++ '.' :: templateExtension

theorem isTemplate_join_iff (directory : Path) {name : Text} (h : Path.IsEntryName name) :
    isTemplate (directory.join name) = true ↔ IsTemplateName name := by
  obtain ⟨before, hends, -⟩ := directory.exists_endsIn_join h
  have hextension : (directory.join name).extension? =
      (Path.splitAtLastDot? name).map Prod.snd := by
    rw [Path.extension?, hends.splitName?_eq]
    cases hsplit : Path.splitAtLastDot? name <;> simp [hsplit]
  rw [isTemplate, decide_eq_true_iff, hextension, Option.map_eq_some_iff]
  constructor
  · rintro ⟨⟨stem, extension⟩, hsplit, rfl⟩
    obtain ⟨hname, hstem, -⟩ := Path.splitAtLastDot?_eq_some hsplit
    exact ⟨stem, hstem, hname⟩
  · rintro ⟨stem, hstem, rfl⟩
    exact ⟨_, Path.splitAtLastDot?_append hstem (by decide), rfl⟩

theorem isTemplate_below_iff (directory : Path) (names : List Text) {name : Text}
    (h : Path.IsEntryName name) :
    isTemplate (directory.below (names ++ [name])) = true ↔ IsTemplateName name := by
  rw [Path.below, List.foldl_append]
  exact isTemplate_join_iff _ h

theorem isSome_of?_of_isTemplate {p : Path} (h : isTemplate p = true) :
    (Companions.of? p).isSome = true :=
  Path.isSome_of?_of_extension? (of_decide_eq_true h)

end Discovery
end MustacheBuild
