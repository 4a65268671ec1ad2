import Mathlib.Data.List.Nodup
import MustacheBuild.Proofs.Path.Entry
import MustacheBuild.Store.FileSystem

/-!
What directories list: the trees that names lead to, trees in which a name stands once in each
directory, and trees that differ in the order of the entries alone.
-/
namespace MustacheBuild
namespace Tree

/-- What holds of directories all of whose entries it holds of, and of all else, holds of trees. -/
theorem entries_induction {P : Tree → Prop} (file : P .file)
    (directory : ∀ entries, (∀ e ∈ entries, P e.2) → P (.directory entries))
    (refused : ∀ e, P (.refused e)) (tree : Tree) : P tree :=
  @Tree.rec P (fun entries => ∀ e ∈ entries, P e.2) (fun e => P e.2) file directory refused
    (List.forall_mem_nil _) (fun _ _ he hrest => List.forall_mem_cons.2 ⟨he, hrest⟩)
    (fun _ _ h => h) tree

/-- Names lead from a tree to another one, the first name first. -/
inductive At : Tree → List Text → Tree → Prop
  | here (tree : Tree) : At tree [] tree
  | inside {entries : List (Text × Tree)} {name : Text} {inner tree : Tree} {names : List Text}
      (h : (name, inner) ∈ entries) (hinner : inner.At names tree) :
      At (.directory entries) (name :: names) tree

/-- Each name in a directory is one that an entry can have, and stands there once. -/
inductive WellFormed : Tree → Prop
  | file : WellFormed .file
  | directory {entries : List (Text × Tree)} (distinct : (entries.map Prod.fst).Nodup)
      (names : ∀ e ∈ entries, Path.IsEntryName e.1) (below : ∀ e ∈ entries, e.2.WellFormed) :
      WellFormed (.directory entries)
  | refused (e : IoError) : WellFormed (.refused e)

/-- The same tree, with the entries of directories at any depth in another order. -/
inductive Reordered : Tree → Tree → Prop
  | perm {entries others : List (Text × Tree)} (h : entries.Perm others) :
      Reordered (.directory entries) (.directory others)
  | within {inner other : Tree} (h : inner.Reordered other) (name : Text)
      (rest : List (Text × Tree)) :
      Reordered (.directory ((name, inner) :: rest)) (.directory ((name, other) :: rest))
  | trans {first second third : Tree} (h : first.Reordered second) (h' : second.Reordered third) :
      Reordered first third

theorem Reordered.symm {tree other : Tree} (h : tree.Reordered other) : other.Reordered tree := by
  induction h with
  | perm h => exact .perm h.symm
  | within _ name rest ih => exact .within ih name rest
  | trans _ _ ih ih' => exact .trans ih' ih

variable {tree inner other : Tree} {entries : List (Text × Tree)} {name : Text}
  {names others : List Text}

theorem at_nil_iff : tree.At [] inner ↔ inner = tree := by
  constructor
  · rintro ⟨⟩
    rfl
  · rintro rfl
    exact .here inner

theorem at_cons_iff : (Tree.directory entries).At (name :: names) tree ↔
    ∃ inner, (name, inner) ∈ entries ∧ inner.At names tree := by
  constructor
  · rintro ⟨⟩
    next inner h hinner => exact ⟨inner, h, hinner⟩
  · rintro ⟨inner, h, hinner⟩
    exact .inside h hinner

theorem WellFormed.isEntryName (h : tree.WellFormed) (hat : tree.At names inner) :
    ∀ name ∈ names, Path.IsEntryName name := by
  induction hat with
  | here => exact List.forall_mem_nil _
  | inside hmem _ ih =>
    obtain _ | ⟨-, hnames, hbelow⟩ := h
    exact List.forall_mem_cons.2 ⟨hnames _ hmem, ih (hbelow _ hmem)⟩

/-- Of two ways from a directory with the same path, each passes the same names. -/
theorem WellFormed.eq_of_components_below (h : tree.WellFormed) {directory : Path}
    (hat : tree.At names inner) (hother : tree.At others other)
    (heq : (directory.below names).components = (directory.below others).components) :
    names = others :=
  Path.eq_of_components_below (h.isEntryName hat) (h.isEntryName hother) heq

/-- Names lead to one tree. -/
theorem WellFormed.at_unique (h : tree.WellFormed) (hat : tree.At names inner)
    (hother : tree.At names other) : other = inner := by
  induction hat with
  | here => exact at_nil_iff.1 hother
  | inside hmem _ ih =>
    obtain ⟨found, hfound, hother⟩ := at_cons_iff.1 hother
    obtain _ | ⟨hdistinct, -, hbelow⟩ := h
    obtain ⟨-, rfl⟩ := Prod.mk.inj (List.inj_on_of_nodup_map hdistinct hfound hmem rfl)
    exact ih (hbelow _ hmem) hother

theorem WellFormed.reordered (h : tree.WellFormed) (hother : tree.Reordered other) :
    other.WellFormed := by
  induction hother with
  | perm hperm =>
    obtain _ | ⟨hdistinct, hnames, hbelow⟩ := h
    exact .directory ((hperm.map Prod.fst).nodup_iff.1 hdistinct)
      (fun e he => hnames e (hperm.mem_iff.2 he)) fun e he => hbelow e (hperm.mem_iff.2 he)
  | within _ name rest ih =>
    obtain _ | ⟨hdistinct, hnames, hbelow⟩ := h
    obtain ⟨hname, hnames⟩ := List.forall_mem_cons.1 hnames
    obtain ⟨hinner, hbelow⟩ := List.forall_mem_cons.1 hbelow
    exact .directory hdistinct (List.forall_mem_cons.2 ⟨hname, hnames⟩)
      (List.forall_mem_cons.2 ⟨ih hinner, hbelow⟩)
  | trans _ _ ih ih' => exact ih' (ih h)

end Tree
end MustacheBuild
