import MustacheBuild.Proofs.Path.Pieces

/-!
The directory and the file name of a path are what its components are before the last one, and the
last one, if that is a name.
-/
namespace MustacheBuild
namespace Path

theorem pieces_append_slash (t : Text) {piece : Text} (h : '/' ∉ piece) :
    pieces ⟨t ++ '/' :: piece⟩ = pieces ⟨t⟩ ++ [piece] := by
  unfold pieces
  rw [Text.pieces_append, Text.pieces_of_notMem h]
  rfl

theorem firstComponent?_of_ne_root {first : Text} {more : List Text} {c : Component}
    (h : firstComponent? first more = some c) (hc : c ≠ .root) :
    firstComponent? first [] = some c := by
  rw [firstComponent?] at h ⊢
  split at h
  · split at h
    · cases h
    · cases h
      contradiction
  next hfirst => rwa [if_neg hfirst]

/-- Each station of a walk carries a text that has the components up to it. -/
def Marked (stations : List (Component × Text)) : Prop :=
  ∀ passed c here, passed ++ [(c, here)] <+: stations →
    components ⟨here⟩ = passed.map Prod.fst ++ [c]

theorem Marked.append {stations : List (Component × Text)} (h : Marked stations) {c : Component}
    {here : Text} (hhere : components ⟨here⟩ = stations.map Prod.fst ++ [c]) :
    Marked (stations ++ [(c, here)]) := by
  intro passed c' here' hprefix
  rcases List.prefix_concat_iff.1 hprefix with heq | hprefix
  · obtain ⟨rfl, hlast⟩ := List.append_inj' heq rfl
    cases hlast
    exact hhere
  · exact h passed c' here' hprefix

/-- One step of the walk along the pieces of a path. -/
def advance (walk : List (Component × Text) × Text) (piece : Text) :
    List (Component × Text) × Text :=
  let here := walk.2 ++ '/' :: piece
  (walk.1 ++ (component? piece).toList.map fun c => (c, here), here)

/-- The station of the first piece. -/
def start (first : Text) (more : List Text) : List (Component × Text) :=
  (firstComponent? first more).toList.map fun c => (c, if c = .root then ['/'] else first)

theorem stations_eq (p : Path) :
    p.stations = ((Text.pieces '/' p.text).2.foldl advance
      (start (Text.pieces '/' p.text).1 (Text.pieces '/' p.text).2,
        (Text.pieces '/' p.text).1)).1 := rfl

theorem map_fst_start (first : Text) (more : List Text) :
    (start first more).map Prod.fst = (firstComponent? first more).toList := by
  unfold start
  cases firstComponent? first more <;> rfl

theorem marked_nil : Marked [] := by
  intro passed c here hprefix
  simp at hprefix

theorem marked_start {first : Text} (h : '/' ∉ first) (more : List Text) :
    Marked (start first more) := by
  unfold start
  cases hc : firstComponent? first more with
  | none => exact marked_nil
  | some c =>
    refine marked_nil.append ?_
    split
    next hroot =>
      rw [hroot]
      rfl
    next hroot =>
      rw [components_eq, pieces, Text.pieces_of_notMem h, componentsOf,
        firstComponent?_of_ne_root hc hroot]
      rfl

/-- A walk that has passed some pieces, of which there is a first: its stations are the components
of these pieces, with the text up to each. -/
structure HasPassed (walk : List (Component × Text) × Text) (passed : List Text) : Prop where
  ne_nil : passed ≠ []
  pieces : pieces ⟨walk.2⟩ = passed
  components : walk.1.map Prod.fst = directoryComponents passed
  marked : Marked walk.1

theorem HasPassed.advance {walk : List (Component × Text) × Text} {passed : List Text}
    (h : HasPassed walk passed) {piece : Text} (hpiece : '/' ∉ piece) :
    HasPassed (advance walk piece) (passed ++ [piece]) where
  ne_nil := by simp
  pieces := by rw [Path.advance, pieces_append_slash _ hpiece, h.pieces]
  components := by
    rw [Path.advance, directoryComponents_append h.ne_nil, List.map_append, h.components]
    cases component? piece <;> rfl
  marked := by
    unfold Path.advance
    cases hc : component? piece with
    | none => simpa using h.marked
    | some c =>
      refine h.marked.append ?_
      rw [components_eq, pieces_append_slash _ hpiece, h.pieces, componentsOf_append h.ne_nil,
        directoryComponents_append h.ne_nil, h.components, hc]
      rfl

theorem HasPassed.foldl_advance {walk : List (Component × Text) × Text} {passed more : List Text}
    (h : HasPassed walk passed) (hmore : ∀ piece ∈ more, '/' ∉ piece) :
    HasPassed (more.foldl Path.advance walk) (passed ++ more) := by
  induction more generalizing walk passed with
  | nil => simpa using h
  | cons piece more ih =>
    obtain ⟨hpiece, hmore⟩ := List.forall_mem_cons.1 hmore
    have hstep := ih (h.advance hpiece) hmore
    rwa [List.append_assoc] at hstep

/-- The stations of a path are its components, with the text up to each. -/
theorem stations_spec (p : Path) : p.stations.map Prod.fst = p.components ∧ Marked p.stations := by
  have hslash : ∀ piece ∈ p.pieces, '/' ∉ piece := fun piece => slash_notMem
  rw [stations_eq, components_eq]
  unfold pieces at hslash ⊢
  generalize (Text.pieces '/' p.text).1 = first at hslash ⊢
  generalize (Text.pieces '/' p.text).2 = more at hslash ⊢
  obtain ⟨hfirst, hmore⟩ := List.forall_mem_cons.1 hslash
  -- An empty first piece is the root only if others follow, so that a single piece stands apart.
  cases more with
  | nil =>
    refine ⟨?_, marked_start hfirst []⟩
    show (start first []).map Prod.fst = _
    rw [map_fst_start, componentsOf, List.filterMap_nil, List.append_nil]
  | cons piece more =>
    have hstart : HasPassed (start first (piece :: more), first) [first] :=
      { ne_nil := by simp
        pieces := by rw [pieces, Text.pieces_of_notMem hfirst]
        components := by
          rw [map_fst_start, directoryComponents, List.filterMap_nil, List.append_nil]
          rfl
        marked := marked_start hfirst _ }
    have hall := hstart.foldl_advance hmore
    refine ⟨?_, hall.marked⟩
    rw [hall.components]
    rfl

/-- The components of the directory that a path is in. -/
def directory? (p : Path) : Option (List Component) := p.parent?.map components

/-- The parent of a path has its components but the last one. -/
theorem directory?_of_components {p : Path} {directory : List Component} {c : Component}
    (h : p.components = directory ++ [c]) (hc : c ≠ .root) : p.directory? = some directory := by
  obtain ⟨hstations, hmarked⟩ := p.stations_spec
  rw [h] at hstations
  obtain ⟨passed, last, hsplit, rfl, hlast⟩ := List.map_eq_append_iff.1 hstations
  obtain ⟨⟨c', here⟩, rfl, rfl⟩ := List.map_eq_singleton_iff.1 hlast
  rw [hsplit] at hmarked
  unfold directory? parent?
  rw [hsplit, List.reverse_append, List.reverse_singleton, List.singleton_append]
  cases hpassed : passed.reverse with
  | nil =>
    obtain rfl : passed = [] := List.reverse_eq_nil_iff.1 hpassed
    cases c' <;> first | contradiction | rfl
  | cons station before =>
    obtain ⟨c, text⟩ := station
    obtain rfl : passed = before.reverse ++ [(c, text)] := by
      rw [← List.reverse_reverse passed, hpassed, List.reverse_cons]
    have htext : components ⟨text⟩ = (before.reverse ++ [(c, text)]).map Prod.fst := by
      rw [hmarked before.reverse c text (List.prefix_append _ _), List.map_append]
      rfl
    cases c' <;> first | contradiction | exact congrArg some htext

/-- A path that ends in a name, with the pieces before it. -/
structure EndsIn (p : Path) (before : List Text) (name : Text) : Prop where
  names : Names name
  pieces : ∃ behind, p.pieces = before ++ name :: behind ∧ ∀ piece ∈ behind, Meaningless piece

namespace EndsIn

variable {p : Path} {before : List Text} {name : Text}

theorem of_pieces (hnames : Names name) (h : p.pieces = before ++ [name]) :
    p.EndsIn before name where
  names := hnames
  pieces := ⟨[], h, List.forall_mem_nil _⟩

theorem components_eq (h : p.EndsIn before name) :
    p.components = directoryComponents before ++ [.named name] := by
  obtain ⟨behind, hpieces, hbehind⟩ := h.pieces
  rw [Path.components_eq, hpieces, componentsOf_append_names h.names hbehind]

theorem directory?_eq (h : p.EndsIn before name) :
    p.directory? = some (directoryComponents before) :=
  directory?_of_components h.components_eq nofun

theorem splitName?_eq (h : p.EndsIn before name) :
    p.splitName? = some (slashed before, name) := by
  obtain ⟨behind, hpieces, hbehind⟩ := h.pieces
  obtain ⟨hmeans, hup⟩ := h.names
  have hdrop : p.pieces.reverse.dropWhile (fun piece => piece = [] || piece = ['.']) =
      name :: before.reverse := by
    rw [hpieces, List.reverse_append, List.reverse_cons, List.append_assoc,
      List.dropWhile_append_of_pos, List.singleton_append, List.dropWhile_cons_of_neg]
    · simpa [Meaningless] using hmeans
    · simpa [Meaningless] using hbehind
  have hlast : p.splitLast? = some (slashed before, name) := by
    unfold Path.pieces at hdrop
    unfold splitLast?
    dsimp only
    rw [hdrop]
    dsimp only
    rw [List.reverse_reverse]
    rfl
  rw [splitName?, hlast]
  exact if_pos (decide_eq_true hup)

theorem fileName_eq (h : p.EndsIn before name) : p.fileName = name := by
  rw [fileName, h.splitName?_eq]
  rfl

/-- Where the text ends as the name does, and this is not how what means nothing ends, there is
nothing behind the name. -/
theorem text_eq_of_suffix (h : p.EndsIn before name) {c : Char} (hlast : name.getLast? = some c)
    (hslash : c ≠ '/') (hdot : c ≠ '.') (hsuffix : name <:+ p.text) :
    p.text = slashed before ++ name := by
  obtain ⟨behind, hpieces, hbehind⟩ := h.pieces
  have htext := text_of_pieces hpieces
  rcases List.eq_nil_or_concat behind with rfl | ⟨others, piece, rfl⟩
  · rwa [List.flatMap_nil, List.append_nil] at htext
  · obtain ⟨front, hfront⟩ := hsuffix
    have hend : p.text.getLast? = some c := by
      rw [← hfront, List.getLast?_append, hlast]
      rfl
    rw [htext] at hend
    have hpiece : Meaningless piece := hbehind piece (by simp)
    rcases hpiece with rfl | rfl
    · exact absurd (by simpa using hend.symm) hslash
    · exact absurd (by simpa using hend.symm) hdot

end EndsIn

/-- Whatever a path ends in, what stands before it is the directory, unless it means nothing. -/
theorem directory?_of_pieces {p : Path} {before : List Text} {last : Text}
    (h : p.pieces = before ++ [last]) (hlast : ¬ Meaningless last) :
    p.directory? = some (directoryComponents before) := by
  by_cases hup : last = ['.', '.']
  · subst hup
    have hcomponents : p.components = directoryComponents before ++ [.parent] := by
      rw [components_eq, h]
      cases before with
      | nil => rfl
      | cons first more =>
        rw [componentsOf_append (by simp), directoryComponents_append (by simp)]
        rfl
    exact directory?_of_components hcomponents nofun
  · exact (EndsIn.of_pieces ⟨hlast, hup⟩ h).directory?_eq

end Path
end MustacheBuild
