import Mathlib.Data.List.TakeWhile
import MustacheBuild.Path.Basic

/-!
The pieces of a path between its slashes, and the components that they stand for.
-/
namespace MustacheBuild

/-- What is left of a list of which the end has been dropped. -/
theorem exists_of_reverse_dropWhile {α : Type} {f : α → Bool} {l before : List α} {last : α}
    (h : l.reverse.dropWhile f = last :: before) :
    ∃ behind, l = before.reverse ++ last :: behind ∧ f last = false ∧ ∀ a ∈ behind, f a = true := by
  have hsplit := List.takeWhile_append_dropWhile (p := f) (l := l.reverse)
  have hlast := List.head_dropWhile_not f (l := l.reverse) (by simp [h])
  refine ⟨(l.reverse.takeWhile f).reverse, ?_, by simpa [h] using hlast, ?_⟩
  · rw [h] at hsplit
    simpa using List.reverse_eq_iff.1 hsplit.symm
  · intro a ha
    exact List.mem_takeWhile_imp (List.mem_reverse.1 ha)

namespace Text

variable {separator : Char} {t : Text}

theorem pieces_of_notMem (h : separator ∉ t) : pieces separator t = (t, []) := by
  induction t with
  | nil => rfl
  | cons c t ih =>
    have hc : c ≠ separator := fun heq => h (heq ▸ List.mem_cons_self)
    have ht : separator ∉ t := fun hmem => h (List.mem_cons_of_mem c hmem)
    rw [pieces, if_neg hc, ih ht]

/-- The pieces of two texts with a separator between them are those of the one and of the other. -/
theorem pieces_append (t rest : Text) :
    pieces separator (t ++ separator :: rest) =
      ((pieces separator t).1,
        (pieces separator t).2 ++ (pieces separator rest).1 :: (pieces separator rest).2) := by
  induction t with
  | nil => simp [pieces]
  | cons c t ih =>
    rw [List.cons_append, pieces, pieces, ih]
    split <;> rfl

theorem pieces_append_separator (h : separator ∉ t) (rest : Text) :
    pieces separator (t ++ separator :: rest) =
      (t, (pieces separator rest).1 :: (pieces separator rest).2) := by
  rw [pieces_append, pieces_of_notMem h]
  rfl

theorem notMem_of_mem_pieces {piece : Text}
    (h : piece ∈ (pieces separator t).1 :: (pieces separator t).2) : separator ∉ piece := by
  induction t generalizing piece with
  | nil =>
    obtain rfl : piece = [] := by simpa [pieces] using h
    exact List.not_mem_nil
  | cons c t ih =>
    rw [pieces] at h
    split at h
    · rcases List.mem_cons.1 h with rfl | h
      · exact List.not_mem_nil
      · exact ih h
    next hc =>
      rcases List.mem_cons.1 h with rfl | h
      · have hfirst := ih List.mem_cons_self
        rintro (_ | ⟨_, hmem⟩)
        · exact hc rfl
        · exact hfirst hmem
      · exact ih (List.mem_cons_of_mem _ h)

/-- The pieces and the separators between them make up the text. -/
theorem append_flatMap_pieces (t : Text) :
    (pieces separator t).1 ++ (pieces separator t).2.flatMap (separator :: ·) = t := by
  induction t with
  | nil => rfl
  | cons c t ih =>
    rw [pieces]
    split
    next hc => rw [List.nil_append, List.flatMap_cons, List.cons_append, ih, hc]
    next => rw [List.cons_append, ih]

end Text

namespace Path

/-- The pieces of a path, of which there is always a first. -/
def pieces (p : Path) : List Text := (Text.pieces '/' p.text).1 :: (Text.pieces '/' p.text).2

/-- Pieces, each with a slash behind it. -/
def slashed (before : List Text) : Text := before.flatMap (· ++ ['/'])

theorem slash_notMem {p : Path} {piece : Text} (h : piece ∈ p.pieces) : '/' ∉ piece :=
  Text.notMem_of_mem_pieces h

/-- The pieces that a text is put together from are those of the text. -/
theorem pieces_slashed_append {before : List Text} {last : Text} (h : ∀ piece ∈ before, '/' ∉ piece)
    (hlast : '/' ∉ last) : pieces ⟨slashed before ++ last⟩ = before ++ [last] := by
  induction before with
  | nil =>
    show (Text.pieces '/' last).1 :: (Text.pieces '/' last).2 = [last]
    rw [Text.pieces_of_notMem hlast]
  | cons piece before ih =>
    obtain ⟨hpiece, hbefore⟩ := List.forall_mem_cons.1 h
    have htext : slashed (piece :: before) ++ last = piece ++ '/' :: (slashed before ++ last) := by
      simp [slashed]
    rw [htext, pieces, Text.pieces_append_separator hpiece, List.cons_append]
    exact congrArg (piece :: ·) (ih hbefore)

theorem append_flatMap_of_cons_eq {first piece : Text} {more before behind : List Text}
    (h : first :: more = before ++ piece :: behind) :
    first ++ more.flatMap ('/' :: ·) = slashed before ++ piece ++ behind.flatMap ('/' :: ·) := by
  induction before generalizing first more with
  | nil =>
    obtain ⟨rfl, rfl⟩ := List.cons.inj h
    rfl
  | cons other before ih =>
    rw [List.cons_append] at h
    obtain ⟨rfl, rfl⟩ := List.cons.inj h
    obtain ⟨next, rest, hrest⟩ : ∃ next rest, before ++ piece :: behind = next :: rest :=
      List.exists_cons_of_ne_nil (by simp)
    rw [hrest, List.flatMap_cons, List.cons_append, ih hrest.symm]
    simp [slashed]

/-- A path is written as its pieces are, with slashes between them. -/
theorem text_of_pieces {p : Path} {piece : Text} {before behind : List Text}
    (h : p.pieces = before ++ piece :: behind) :
    p.text = slashed before ++ piece ++ behind.flatMap ('/' :: ·) := by
  rw [← append_flatMap_of_cons_eq h, Text.append_flatMap_pieces]

/-- The components that pieces stand for. -/
def componentsOf : List Text → List Component
  | [] => []
  | first :: more => (firstComponent? first more).toList ++ more.filterMap component?

theorem components_eq (p : Path) : p.components = componentsOf p.pieces := rfl

/-- Pieces that mean nothing behind the first one. -/
def Meaningless (piece : Text) : Prop := piece = [] ∨ piece = ['.']

/-- A piece that names something. -/
def Names (piece : Text) : Prop := ¬ Meaningless piece ∧ piece ≠ ['.', '.']

theorem component?_of_meaningless {piece : Text} (h : Meaningless piece) :
    component? piece = none := by
  rcases h with rfl | rfl <;> rfl

theorem component?_of_names {piece : Text} (h : Names piece) :
    component? piece = some (.named piece) := by
  obtain ⟨hmeans, hup⟩ := h
  rw [Meaningless, not_or] at hmeans
  simp [component?, hmeans, hup]

theorem firstComponent?_of_names {piece : Text} (h : Names piece) (more : List Text) :
    firstComponent? piece more = some (.named piece) := by
  have hmeans := h.1
  rw [Meaningless, not_or] at hmeans
  rw [firstComponent?, if_neg hmeans.1, if_neg hmeans.2, component?_of_names h]

/-- The components of the pieces behind which others follow. -/
def directoryComponents : List Text → List Component
  | [] => []
  | first :: more => (firstComponent? first [[]]).toList ++ more.filterMap component?

theorem directoryComponents_eq_nil_iff {before : List Text} :
    directoryComponents before = [] ↔ before = [] := by
  cases before with
  | nil => simp [directoryComponents]
  | cons first more =>
    have hfirst : firstComponent? first [[]] ≠ none := by
      unfold firstComponent? component?
      split_ifs <;> simp_all
    simp [directoryComponents, hfirst]

theorem firstComponent?_append_cons (first piece : Text) (before more : List Text) :
    firstComponent? first (before ++ piece :: more) = firstComponent? first [[]] := by
  cases before <;> rfl

/-- A name stays a component, whatever without a meaning follows it. -/
theorem componentsOf_append_names {before behind : List Text} {name : Text} (h : Names name)
    (hbehind : ∀ piece ∈ behind, Meaningless piece) :
    componentsOf (before ++ name :: behind) = directoryComponents before ++ [.named name] := by
  have hnone : behind.filterMap component? = [] :=
    List.filterMap_eq_nil_iff.2 fun piece hpiece => component?_of_meaningless (hbehind piece hpiece)
  cases before with
  | nil => simp [componentsOf, directoryComponents, firstComponent?_of_names h, hnone]
  | cons first more =>
    simp [componentsOf, directoryComponents, firstComponent?_append_cons, component?_of_names h,
      hnone]

theorem eq_of_component?_eq_named {piece name : Text} (h : component? piece = some (.named name)) :
    name = piece := by
  rw [component?] at h
  split at h
  · contradiction
  · split at h <;> cases h
    rfl

theorem eq_of_firstComponent?_eq_named {piece name : Text} {more : List Text}
    (h : firstComponent? piece more = some (.named name)) : name = piece := by
  rw [firstComponent?] at h
  split at h
  · split at h <;> cases h
  · split at h
    · cases h
    · exact eq_of_component?_eq_named h

/-- Behind a first piece each piece stands for itself. -/
theorem directoryComponents_append {before : List Text} (h : before ≠ []) (piece : Text) :
    directoryComponents (before ++ [piece]) =
      directoryComponents before ++ (component? piece).toList := by
  cases before with
  | nil => exact absurd rfl h
  | cons first more =>
    rw [List.cons_append, directoryComponents, directoryComponents, List.filterMap_append,
      List.append_assoc]
    cases hc : component? piece <;> simp [hc]

theorem componentsOf_append {before : List Text} (h : before ≠ []) (piece : Text) :
    componentsOf (before ++ [piece]) = directoryComponents (before ++ [piece]) := by
  cases before with
  | nil => exact absurd rfl h
  | cons first more =>
    rw [List.cons_append, componentsOf, directoryComponents, firstComponent?_append_cons]

/-- A last piece of any kind adds no name but itself. -/
theorem componentsOf_append_singleton (before : List Text) (last : Text) :
    ∃ added, componentsOf (before ++ [last]) = directoryComponents before ++ added ∧
      ∀ name, .named name ∈ added → name = last := by
  by_cases hbefore : before = []
  · subst hbefore
    refine ⟨(firstComponent? last []).toList, List.append_nil _, fun name hname => ?_⟩
    exact eq_of_firstComponent?_eq_named (Option.mem_toList.1 hname)
  · refine ⟨(component? last).toList, ?_, fun name hname => ?_⟩
    · rw [componentsOf_append hbefore, directoryComponents_append hbefore]
    · exact eq_of_component?_eq_named (Option.mem_toList.1 hname)

end Path
end MustacheBuild
