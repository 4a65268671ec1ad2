import MustacheBuild.Path.Companions
import MustacheBuild.Proofs.Path.Directory

/-!
The companions of a template lie beside it: the output has its name without the extension, the data
file has the name of the output with another one, and the output is neither of the two others.
-/
namespace MustacheBuild
namespace Path

variable {p : Path}

theorem splitLast?_eq_some {directory last : Text} (h : p.splitLast? = some (directory, last)) :
    ∃ before behind, p.pieces = before ++ last :: behind ∧ directory = slashed before ∧
      ¬ Meaningless last ∧ ∀ piece ∈ behind, Meaningless piece := by
  unfold splitLast? at h
  dsimp only at h
  split at h
  next => cases h
  next before hdrop =>
    obtain ⟨behind, hpieces, hlast, hbehind⟩ := exists_of_reverse_dropWhile hdrop
    obtain ⟨rfl, rfl⟩ := Prod.mk.inj (Option.some.inj h)
    refine ⟨before.reverse, behind, hpieces, rfl, ?_, fun piece hpiece => ?_⟩
    · simpa [Meaningless] using hlast
    · simpa [Meaningless] using hbehind piece hpiece

theorem splitName?_eq_some {directory name : Text} (h : p.splitName? = some (directory, name)) :
    ∃ before, directory = slashed before ∧ p.EndsIn before name := by
  obtain ⟨hsplit, hup⟩ := Option.filter_eq_some_iff.1 h
  obtain ⟨before, behind, hpieces, hdirectory, hmeans, hbehind⟩ := splitLast?_eq_some hsplit
  have hnames : Names name := ⟨hmeans, by simpa using hup⟩
  exact ⟨before, hdirectory, hnames, behind, hpieces, hbehind⟩

theorem splitAtLastDot?_eq_some {name stem extension : Text}
    (h : splitAtLastDot? name = some (stem, extension)) :
    name = stem ++ '.' :: extension ∧ stem ≠ [] ∧ '.' ∉ extension := by
  have hsplit := List.takeWhile_append_dropWhile (p := (· != '.')) (l := name.reverse)
  unfold splitAtLastDot? at h
  dsimp only at h
  split at h
  next => cases h
  next dot back hdrop =>
    have hdot := List.head_dropWhile_not (· != '.') (l := name.reverse) (by simp [hdrop])
    obtain rfl : dot = '.' := by simpa [hdrop] using hdot
    split at h
    · cases h
    next hstem =>
      obtain ⟨rfl, rfl⟩ := Prod.mk.inj (Option.some.inj h)
      refine ⟨?_, by simpa using hstem, ?_⟩
      · rw [hdrop] at hsplit
        simpa using List.reverse_eq_iff.1 hsplit.symm
      · intro hmem
        have hplain := List.mem_takeWhile_imp (List.mem_reverse.1 hmem)
        simp at hplain

/-- The last dot is the one with no other behind it. -/
theorem splitAtLastDot?_append {stem extension : Text} (hstem : stem ≠ [])
    (h : '.' ∉ extension) :
    splitAtLastDot? (stem ++ '.' :: extension) = some (stem, extension) := by
  have hplain : ∀ c ∈ extension.reverse, (c != '.') = true := by
    intro c hc
    have hne : c ≠ '.' := fun heq => h (heq ▸ List.mem_reverse.1 hc)
    simpa using hne
  have hback : (stem ++ '.' :: extension).reverse = extension.reverse ++ '.' :: stem.reverse := by
    simp
  unfold splitAtLastDot?
  dsimp only
  rw [hback, List.dropWhile_append_of_pos hplain, List.takeWhile_append_of_pos hplain]
  simp [hstem]

/-- A path without its extension: in the place of the name stands its stem, or two dots where the
stem is a single one. A single dot can only be left where the text goes on behind the name. -/
structure Strips (p q : Path) (before : List Text) (stem extension kept : Text) : Prop where
  ends : p.EndsIn before (stem ++ '.' :: extension)
  stem_ne_nil : stem ≠ []
  plain : '.' ∉ extension
  kept_eq : kept = stem ∨ stem = ['.'] ∧ kept = ['.', '.']
  kept_ne_dot : p.text = slashed before ++ (stem ++ '.' :: extension) → kept ≠ ['.']
  pieces : ∀ suffix, '/' ∉ suffix → Path.pieces ⟨q.text ++ suffix⟩ = before ++ [kept ++ suffix]

theorem withoutExtension?_eq_some {q : Path} (h : p.withoutExtension? = some q) :
    ∃ before stem extension kept, Strips p q before stem extension kept := by
  obtain ⟨⟨directory, name⟩, hsplit, h⟩ := Option.bind_eq_some_iff.1 h
  obtain ⟨⟨stem, extension⟩, hdot, h⟩ := Option.bind_eq_some_iff.1 h
  obtain ⟨before, rfl, hends⟩ := splitName?_eq_some hsplit
  obtain ⟨rfl, hstem, hplain⟩ := splitAtLastDot?_eq_some hdot
  obtain ⟨behind, hpieces, -⟩ := hends.pieces
  have hslash : ∀ piece ∈ before ++ (stem ++ '.' :: extension) :: behind, '/' ∉ piece := by
    rw [← hpieces]
    exact fun piece => slash_notMem
  have hbefore : ∀ piece ∈ before, '/' ∉ piece := fun piece hpiece =>
    hslash piece (List.mem_append_left _ hpiece)
  have hname : '/' ∉ stem ++ '.' :: extension := hslash _ (by simp)
  obtain ⟨kept, hkept, hdot, rfl⟩ : ∃ kept, (kept = stem ∨ stem = ['.'] ∧ kept = ['.', '.']) ∧
      (p.text = slashed before ++ (stem ++ '.' :: extension) → kept ≠ ['.']) ∧
      q = ⟨slashed before ++ kept⟩ := by
    refine ⟨_, ?_, fun htext => ?_, (Option.some.inj h).symm⟩
    · split
      next hdots => exact Or.inr ⟨by simpa using (Bool.and_eq_true_iff.1 hdots).1, rfl⟩
      next => exact Or.inl rfl
    · split
      next => decide
      next hdots => simpa [htext] using hdots
  have hslashless : '/' ∉ kept := by
    rcases hkept with rfl | ⟨-, rfl⟩
    · exact fun hmem => hname (List.mem_append_left _ hmem)
    · decide
  refine ⟨before, stem, extension, kept, hends, hstem, hplain, hkept, hdot,
    fun suffix hsuffix => ?_⟩
  rw [List.append_assoc]
  refine pieces_slashed_append hbefore fun hmem => ?_
  rcases List.mem_append.1 hmem with hmem | hmem
  · exact hslashless hmem
  · exact hsuffix hmem

namespace Strips

variable {q : Path} {before : List Text} {stem extension kept : Text}

theorem kept_ne_nil (h : Strips p q before stem extension kept) : kept ≠ [] := by
  rcases h.kept_eq with rfl | ⟨-, rfl⟩
  · exact h.stem_ne_nil
  · decide

/-- What stands in the place of the name is another one. -/
theorem kept_ne_name (h : Strips p q before stem extension kept) :
    kept ≠ stem ++ '.' :: extension := by
  rcases h.kept_eq with rfl | ⟨-, rfl⟩
  · simp
  · exact Ne.symm h.ends.names.2

theorem kept_eq_stem (h : Strips p q before stem extension kept) (hstem : Names stem) :
    kept = stem := by
  rcases h.kept_eq with heq | ⟨rfl, -⟩
  · exact heq
  · exact absurd (Or.inr rfl) hstem.1

theorem extension?_eq (h : Strips p q before stem extension kept) :
    p.extension? = some extension := by
  unfold extension?
  rw [h.ends.splitName?_eq]
  show (splitAtLastDot? (stem ++ '.' :: extension)).bind (fun parts => some parts.2) = _
  rw [splitAtLastDot?_append h.stem_ne_nil h.plain]
  rfl

theorem pieces_self (h : Strips p q before stem extension kept) :
    Path.pieces q = before ++ [kept] := by
  have hpieces := h.pieces [] List.not_mem_nil
  rwa [List.append_nil, List.append_nil] at hpieces

/-- It differs from what ends in another name in the same directory. -/
theorem components_ne (h : Strips p q before stem extension kept) {other : Path} {name : Text}
    (hother : other.EndsIn before name) (hname : kept ≠ name) :
    q.components ≠ other.components := by
  obtain ⟨added, hadded, hlast⟩ := componentsOf_append_singleton before kept
  rw [components_eq, h.pieces_self, hadded, hother.components_eq]
  intro heq
  have hsingle : added = [.named name] := List.append_cancel_left heq
  exact hname (hlast name (hsingle ▸ List.mem_singleton_self _)).symm

theorem kept_ne_dot_of_stem (h : Strips p q before stem extension kept) (hstem : stem ≠ ['.']) :
    kept ≠ ['.'] := by
  rcases h.kept_eq with rfl | ⟨-, rfl⟩
  · exact hstem
  · decide

/-- No single dot is left where the text ends as the name does. -/
theorem kept_ne_dot_of_suffix (h : Strips p q before stem extension kept)
    (hsuffix : stem ++ '.' :: extension <:+ p.text) : kept ≠ ['.'] := by
  rintro rfl
  have hstem : stem = ['.'] := by simpa [eq_comm] using h.kept_eq
  obtain ⟨behind, hpieces, -⟩ := h.ends.pieces
  have hname : '/' ∉ stem ++ '.' :: extension := slash_notMem (p := p) (by simp [hpieces])
  rcases List.eq_nil_or_concat extension with rfl | ⟨front, c, rfl⟩
  · exact h.ends.names.2 (by rw [hstem]; rfl)
  · have hlast : (stem ++ '.' :: front.concat c).getLast? = some c := by
      rw [List.concat_eq_append, ← List.cons_append, ← List.append_assoc, List.getLast?_concat]
    refine h.kept_ne_dot (h.ends.text_eq_of_suffix hlast ?_ ?_ hsuffix) rfl
    · rintro rfl
      exact hname (by simp)
    · rintro rfl
      exact h.plain (by simp)

/-- The path stays in its directory unless a single dot is left of its name and the directory has
a component. -/
theorem directory?_eq (h : Strips p q before stem extension kept)
    (hstay : kept ≠ ['.'] ∨ before = []) : q.directory? = p.directory? := by
  rw [h.ends.directory?_eq]
  by_cases hdot : kept = ['.']
  · obtain rfl : before = [] := hstay.resolve_left (not_not_intro hdot)
    have hcomponents : q.components = [] ++ [.current] := by
      rw [components_eq, h.pieces_self, hdot]
      rfl
    exact directory?_of_components hcomponents nofun
  · have hkept : ¬ Meaningless kept := by
      rintro (hnil | hdot')
      · exact h.kept_ne_nil hnil
      · exact hdot hdot'
    exact directory?_of_pieces h.pieces_self hkept

end Strips

end Path

namespace Companions

variable {template : Path} {paths : Companions}
variable {before : List Text} {stem extension kept : Text}

theorem template_of? (h : of? template = some paths) : paths.template = template := by
  obtain ⟨output, -, rfl⟩ := Option.map_eq_some_iff.1 h
  rfl

/-- The data file has its name in the directory of the template. -/
theorem data_endsIn (h : of? template = some paths)
    (hstrips : Path.Strips template paths.output before stem extension kept) :
    paths.data.EndsIn before (kept ++ dataExtension) := by
  obtain ⟨output, -, rfl⟩ := Option.map_eq_some_iff.1 h
  have hnames : Path.Names (kept ++ dataExtension) := by
    have hlength : 5 ≤ (kept ++ dataExtension).length := by simp [dataExtension]
    constructor
    · rintro (heq | heq) <;> simp [heq] at hlength
    · intro heq
      simp [heq] at hlength
  exact .of_pieces hnames (hstrips.pieces dataExtension (by decide))

/-- The output is the template without its extension. -/
theorem exists_strips_of_of? (h : of? template = some paths) :
    ∃ before stem extension kept,
      Path.Strips template paths.output before stem extension kept := by
  obtain ⟨output, houtput, rfl⟩ := Option.map_eq_some_iff.1 h
  exact Path.withoutExtension?_eq_some houtput

/-- No template is its own output. -/
theorem output_ne_template (h : of? template = some paths) :
    paths.output.components ≠ template.components := by
  obtain ⟨before, stem, extension, kept, hstrips⟩ := exists_strips_of_of? h
  exact hstrips.components_ne hstrips.ends hstrips.kept_ne_name

/-- No data file is the output of its template. -/
theorem output_ne_data (h : of? template = some paths) :
    paths.output.components ≠ paths.data.components := by
  obtain ⟨before, stem, extension, kept, hstrips⟩ := exists_strips_of_of? h
  refine hstrips.components_ne (data_endsIn h hstrips) ?_
  simp [dataExtension]

/-- The data file is the template only where both have the same name. -/
theorem eq_of_data_eq_template (h : of? template = some paths)
    (hstrips : Path.Strips template paths.output before stem extension kept)
    (heq : paths.data.components = template.components) :
    kept = stem ∧ extension = "json".toList := by
  rw [(data_endsIn h hstrips).components_eq, hstrips.ends.components_eq] at heq
  have hname : Path.Component.named (kept ++ dataExtension) = .named (stem ++ '.' :: extension) :=
    List.singleton_inj.1 (List.append_cancel_left heq)
  have hsplit := Path.splitAtLastDot?_append hstrips.stem_ne_nil hstrips.plain
  -- A name is split at its last dot in one way, so that both sides have the same two parts.
  have hdata : Path.splitAtLastDot? (kept ++ '.' :: "json".toList) = some (kept, "json".toList) :=
    Path.splitAtLastDot?_append hstrips.kept_ne_nil (by decide)
  rw [← Path.Component.named.inj hname] at hsplit
  obtain ⟨hkept, hextension⟩ := Prod.mk.inj (Option.some.inj (hdata.symm.trans hsplit))
  exact ⟨hkept, hextension.symm⟩

/-- The output is another file than the template and the data file, and the data file, in the
directory of the template, is another one than the template unless this has the extension of data
files. The output is in that directory too, unless a single dot is left of the name of the template,
with something behind it and a directory before it. Where the template keeps a name without its
extension, the output has that name, and the data file has it with its own extension. -/
theorem companions_beside (h : of? template = some paths) :
    ∃ stem extension, paths.template = template ∧ template.extension? = some extension ∧
      template.fileName = stem ++ '.' :: extension ∧
      paths.output.components ≠ template.components ∧
      paths.output.components ≠ paths.data.components ∧
      paths.data.directory? = template.directory? ∧
      (extension ≠ "json".toList → paths.data.components ≠ template.components) ∧
      (stem ≠ ['.'] ∨ template.fileName <:+ template.text ∨ template.directory? = some [] →
        paths.output.directory? = template.directory?) ∧
      (Path.Names stem → paths.output.fileName = stem ∧
        paths.data.fileName = stem ++ dataExtension ∧
        (extension = "json".toList → paths.data.components = template.components)) := by
  obtain ⟨before, stem, extension, kept, hstrips⟩ := exists_strips_of_of? h
  have hdata := data_endsIn h hstrips
  refine ⟨stem, extension, template_of? h, hstrips.extension?_eq, hstrips.ends.fileName_eq,
    output_ne_template h, output_ne_data h, ?_, ?_, fun hstay => hstrips.directory?_eq ?_, ?_⟩
  · rw [hdata.directory?_eq, hstrips.ends.directory?_eq]
  · intro hextension heq
    exact hextension (eq_of_data_eq_template h hstrips heq).2
  · rw [hstrips.ends.fileName_eq, hstrips.ends.directory?_eq, Option.some.injEq,
      Path.directoryComponents_eq_nil_iff] at hstay
    rcases hstay with hstem | hsuffix | hbefore
    · exact Or.inl (hstrips.kept_ne_dot_of_stem hstem)
    · exact Or.inl (hstrips.kept_ne_dot_of_suffix hsuffix)
    · exact Or.inr hbefore
  · intro hnames
    obtain rfl := hstrips.kept_eq_stem hnames
    have houtput : paths.output.EndsIn before kept := .of_pieces hnames hstrips.pieces_self
    refine ⟨houtput.fileName_eq, hdata.fileName_eq, ?_⟩
    rintro rfl
    rw [hdata.components_eq, hstrips.ends.components_eq]
    rfl

/-- A template in a directory, with a slash behind its name, and one of which only dots are left. -/
theorem companions_beside_page :
    let template : Path := ⟨"a/./page.html.mustache/".toList⟩
    let paths : Companions := ⟨template, ⟨"a/./page.html".toList⟩, ⟨"a/./page.html.json".toList⟩⟩
    let dotted : Path := ⟨"a/..x".toList⟩
    let beside : Companions := ⟨dotted, ⟨"a/..".toList⟩, ⟨"a/...json".toList⟩⟩
    (of? template = some paths ∧ paths.data.components ≠ template.components ∧
      paths.output.directory? = template.directory? ∧
      paths.data.fileName = "page.html".toList ++ dataExtension) ∧
    of? dotted = some beside ∧ beside.output.directory? = dotted.directory? := by
  intro template paths dotted beside
  have haccepted : of? template = some paths := by decide
  obtain ⟨stem, extension, -, hextension, hname, -, -, -, hdata, hdirectory, hnames⟩ :=
    companions_beside haccepted
  obtain rfl : "mustache".toList = extension := Option.some.inj hextension
  obtain rfl : "page.html".toList = stem := by
    have hpage : template.fileName = "page.html".toList ++ '.' :: "mustache".toList := by decide
    exact List.append_cancel_right (hpage.symm.trans hname)
  have hpage : Path.Names "page.html".toList := by
    unfold Path.Names Path.Meaningless
    decide
  have hdotted : of? dotted = some beside := by decide
  obtain ⟨_, _, -, -, -, -, -, -, -, hbeside, -⟩ := companions_beside hdotted
  exact ⟨⟨haccepted, hdata (by decide), hdirectory (by decide), (hnames hpage).2.1⟩, hdotted,
    hbeside (Or.inr (Or.inl (by decide)))⟩

/-- A template with the extension of data files is its own data file. A name that becomes two dots
is none, and one that becomes a single dot with a slash behind it leaves the directory. -/
theorem companions_not_beside :
    (∃ paths, of? ⟨"x.json".toList⟩ = some paths ∧
        paths.data.components = paths.template.components) ∧
      (∃ paths, of? ⟨"...x".toList⟩ = some paths ∧
        paths.template.fileName ≠ paths.output.fileName ++ ".x".toList) ∧
      ∃ paths, of? ⟨"a/..x/".toList⟩ = some paths ∧
        paths.output.directory? ≠ paths.template.directory? :=
  ⟨⟨_, rfl, by decide⟩, ⟨_, rfl, by decide⟩, ⟨_, rfl, by decide⟩⟩

end Companions
end MustacheBuild
