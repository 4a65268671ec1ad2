import MustacheBuild.Proofs.Path.Order
import MustacheBuild.Proofs.Store.Disk
import MustacheBuild.Proofs.Store.Listing

/-!
A search finds the templates below a directory, each of them once, in the order of paths. What it
finds does not depend on the order in which directories list their entries.
-/
namespace MustacheBuild
namespace Discovery

/-- What is collected at a path, or nothing where the search ends there. -/
def collected (p : Path) (tree : Tree) : List Path :=
  match collect p tree with
  | .ok found => found
  | .error _ => []

section
variable {p q directory : Path} {tree other inner : Tree} {entries : List (Text × Tree)}
  {found : List Path} {e : BuildError} {names others : List Text} {name : Text}

theorem collected_eq (h : collect p tree = .ok found) : collected p tree = found := by
  rw [collected, h]

theorem collect_directory_cons (e : Text × Tree) (rest : List (Text × Tree)) :
    collect p (.directory (e :: rest)) =
      collect (p.join e.1) e.2 >>= fun found =>
        collect p (.directory rest) >>= fun more => .ok (found ++ more) := rfl

/-- A directory is searched to the end where all its entries are, and what is collected there is put
together. -/
theorem collect_directory_eq_ok : collect p (.directory entries) = .ok found ↔
    (∀ e ∈ entries, ∃ part, collect (p.join e.1) e.2 = .ok part) ∧
      found = entries.flatMap fun e => collected (p.join e.1) e.2 := by
  induction entries generalizing found with
  | nil => simp [collect, collectAll, eq_comm]
  | cons entry rest ih =>
    rw [collect_directory_cons, List.forall_mem_cons, List.flatMap_cons]
    constructor
    · intro h
      obtain ⟨part, hpart, h⟩ := exists_of_bind_eq_ok h
      obtain ⟨more, hmore, h⟩ := exists_of_bind_eq_ok h
      obtain ⟨hrest, rfl⟩ := ih.1 hmore
      rw [collected_eq hpart]
      exact ⟨⟨⟨part, hpart⟩, hrest⟩, (Except.ok.inj h).symm⟩
    · rintro ⟨⟨⟨part, hpart⟩, hrest⟩, rfl⟩
      rw [hpart, ih.2 ⟨hrest, rfl⟩, collected_eq hpart]
      rfl

/-- Where a directory is not searched to the end, one of its entries is not. -/
theorem exists_of_collect_directory_eq_error (h : collect p (.directory entries) = .error e) :
    ∃ entry ∈ entries, collect (p.join entry.1) entry.2 = .error e := by
  induction entries with
  | nil => cases h
  | cons entry rest ih =>
    rw [collect_directory_cons] at h
    cases hentry : collect (p.join entry.1) entry.2 with
    | error e' =>
      rw [hentry] at h
      exact ⟨entry, List.mem_cons_self, hentry.trans h⟩
    | ok part =>
      cases hrest : collect p (.directory rest) with
      | error e' =>
        rw [hentry, hrest] at h
        obtain ⟨entry', hmem, hentry'⟩ := ih (hrest.trans h)
        exact ⟨entry', List.mem_cons_of_mem _ hmem, hentry'⟩
      | ok more =>
        rw [hentry, hrest] at h
        cases h

/-- A search that ends early names a directory that cannot be read. -/
theorem exists_refused_of_collect (h : collect p tree = .error e) :
    ∃ names cause, tree.At names (.refused cause) ∧ e = .io (p.below names) cause := by
  induction tree using Tree.entries_induction generalizing p with
  | file => cases h
  | refused cause => exact ⟨[], cause, .here _, (Except.error.inj h).symm⟩
  | directory entries ih =>
    obtain ⟨⟨name, inner⟩, hmem, hentry⟩ := exists_of_collect_directory_eq_error h
    obtain ⟨names, cause, hat, rfl⟩ := ih _ hmem hentry
    exact ⟨name :: names, cause, .inside hmem hat, rfl⟩

theorem not_refused_of_collect (h : collect p tree = .ok found) (names : List Text)
    (cause : IoError) : ¬ tree.At names (.refused cause) := by
  intro hat
  generalize hrefused : Tree.refused cause = refused at hat
  induction hat generalizing p found with
  | here =>
    subst hrefused
    cases h
  | inside hmem _ ih =>
    obtain ⟨part, hpart⟩ := (collect_directory_eq_ok.1 h).1 _ hmem
    exact ih hpart hrefused

/-- A search goes through where each directory below can be read. -/
theorem exists_collect_iff :
    (∃ found, collect p tree = .ok found) ↔ ∀ names cause, ¬ tree.At names (.refused cause) := by
  constructor
  · rintro ⟨found, h⟩
    exact not_refused_of_collect h
  · intro h
    cases hcollect : collect p tree with
    | ok found => exact ⟨found, rfl⟩
    | error e =>
      obtain ⟨names, cause, hat, -⟩ := exists_refused_of_collect hcollect
      exact absurd hat (h names cause)

/-- What is collected are the paths of the files below that are templates. -/
theorem mem_collect_iff (h : collect p tree = .ok found) :
    q ∈ found ↔ ∃ names, tree.At names .file ∧ q = p.below names ∧ isTemplate q = true := by
  induction tree using Tree.entries_induction generalizing p found with
  | refused => cases h
  | file =>
    obtain rfl := Except.ok.inj h
    constructor
    · intro hq
      split at hq
      next htemplate =>
        obtain rfl := List.mem_singleton.1 hq
        exact ⟨[], .here _, rfl, htemplate⟩
      next => cases hq
    · rintro ⟨names, hat, rfl, htemplate⟩
      obtain _ | _ := hat
      exact (if_pos htemplate).symm ▸ List.mem_singleton_self _
  | directory entries ih =>
    obtain ⟨hparts, rfl⟩ := collect_directory_eq_ok.1 h
    rw [List.mem_flatMap]
    constructor
    · rintro ⟨⟨name, inner⟩, hmem, hq⟩
      obtain ⟨part, hpart⟩ := hparts _ hmem
      rw [collected_eq hpart] at hq
      obtain ⟨names, hat, rfl, htemplate⟩ := (ih _ hmem hpart).1 hq
      exact ⟨name :: names, .inside hmem hat, rfl, htemplate⟩
    · rintro ⟨names, hat, rfl, htemplate⟩
      obtain _ | @⟨_, name, inner, _, names, hmem, hat⟩ := hat
      obtain ⟨part, hpart⟩ := hparts _ hmem
      refine ⟨(name, inner), hmem, ?_⟩
      rw [collected_eq hpart]
      exact (ih _ hmem hpart).2 ⟨names, hat, rfl, htemplate⟩

/-- No file is collected twice. -/
theorem pairwise_collect (htree : tree.WellFormed) (h : collect p tree = .ok found) :
    found.Pairwise fun p q => p.components ≠ q.components := by
  induction tree using Tree.entries_induction generalizing p found with
  | refused => cases h
  | file =>
    obtain rfl := Except.ok.inj h
    split <;> simp
  | directory entries ih =>
    have hentries := htree
    obtain _ | ⟨hdistinct, -, hbelow⟩ := hentries
    obtain ⟨hparts, rfl⟩ := collect_directory_eq_ok.1 h
    rw [List.pairwise_flatMap]
    constructor
    · intro entry hmem
      obtain ⟨part, hpart⟩ := hparts _ hmem
      rw [collected_eq hpart]
      exact ih _ hmem (hbelow _ hmem) hpart
    · -- Paths by way of different entries differ in the name of the entry.
      refine (List.pairwise_map.1 hdistinct).imp_of_mem ?_
      intro first second hfirst hsecond hne q hq r hr heq
      obtain ⟨part, hpart⟩ := hparts _ hfirst
      obtain ⟨part', hpart'⟩ := hparts _ hsecond
      rw [collected_eq hpart] at hq
      rw [collected_eq hpart'] at hr
      obtain ⟨names, hat, rfl, -⟩ := (mem_collect_iff hpart).1 hq
      obtain ⟨names', hat', rfl, -⟩ := (mem_collect_iff hpart').1 hr
      have hsame := htree.eq_of_components_below (.inside hfirst hat) (.inside hsecond hat') heq
      exact hne (List.cons.inj hsame).1

/-- The order of the entries decides nothing but the order in which templates are collected. -/
theorem collect_reordered (hother : tree.Reordered other) (h : collect p tree = .ok found) :
    ∃ found', collect p other = .ok found' ∧ found.Perm found' := by
  induction hother generalizing p found with
  | @perm entries others hperm =>
    obtain ⟨hparts, rfl⟩ := collect_directory_eq_ok.1 h
    have hparts' : ∀ e ∈ others, ∃ part, collect (p.join e.1) e.2 = .ok part := fun e he =>
      hparts e (hperm.mem_iff.2 he)
    exact ⟨_, collect_directory_eq_ok.2 ⟨hparts', rfl⟩, hperm.flatMap_right _⟩
  | within _ name rest ih =>
    obtain ⟨hparts, rfl⟩ := collect_directory_eq_ok.1 h
    obtain ⟨⟨part, hpart⟩, hrest⟩ := List.forall_mem_cons.1 hparts
    obtain ⟨part', hpart', hperm⟩ := ih hpart
    refine ⟨_, collect_directory_eq_ok.2 ⟨List.forall_mem_cons.2 ⟨⟨part', hpart'⟩, hrest⟩, rfl⟩, ?_⟩
    rw [List.flatMap_cons, List.flatMap_cons, collected_eq hpart, collected_eq hpart']
    exact hperm.append_right _
  | trans _ _ ih ih' =>
    obtain ⟨found', hfound', hperm⟩ := ih h
    obtain ⟨found'', hfound'', hperm'⟩ := ih' hfound'
    exact ⟨found'', hfound'', hperm.trans hperm'⟩

end

/-- What a search finds in the tree below a directory: the paths of all files with the name of a
template and no others, each of which has companions, in order. Each entry of the tree has a path of
its own, so that none is found twice. -/
structure Finds (directory : Path) (tree : Tree) (found : List Path) : Prop where
  increasing : found.Pairwise Path.Precedes
  mem_iff : ∀ names name inner, tree.At (names ++ [name]) inner →
    (directory.below (names ++ [name]) ∈ found ↔ inner = .file ∧ IsTemplateName name)
  at_of_mem : ∀ p ∈ found, ∃ names name inner,
    tree.At (names ++ [name]) inner ∧ p = directory.below (names ++ [name])
  apart : ∀ names others inner other, tree.At names inner → tree.At others other →
    (directory.below names).components = (directory.below others).components → names = others
  accepted : ∀ p ∈ found, (Companions.of? p).isSome = true

section
variable {directory : Path} {entries others : List (Text × Tree)} {found : List Path}

theorem templates_eq_ok : templates directory entries = .ok found ↔
    ∃ collected, collect directory (.directory entries) = .ok collected ∧
      found = collected.mergeSort Path.le := by
  unfold templates
  show Except.map _ (collect directory (.directory entries)) = _ ↔ _
  cases collect directory (.directory entries) with
  | error e => simp [Except.map]
  | ok collected => simp [Except.map, eq_comm]

theorem templates_eq_error {e : BuildError} (h : templates directory entries = .error e) :
    collect directory (.directory entries) = .error e := by
  change Except.map _ (collect directory (.directory entries)) = _ at h
  cases hcollect : collect directory (.directory entries) with
  | error e' =>
    rw [hcollect] at h
    exact h
  | ok collected =>
    rw [hcollect] at h
    cases h

theorem finds_of_templates (htree : (Tree.directory entries).WellFormed)
    (h : templates directory entries = .ok found) :
    Finds directory (.directory entries) found := by
  obtain ⟨collected, hcollect, rfl⟩ := templates_eq_ok.1 h
  have hmem : ∀ p, p ∈ collected.mergeSort Path.le ↔ ∃ names,
      (Tree.directory entries).At names .file ∧ p = directory.below names ∧ isTemplate p = true :=
    fun p => List.mem_mergeSort.trans (mem_collect_iff hcollect)
  constructor
  case increasing => exact Path.pairwise_precedes_mergeSort (pairwise_collect htree hcollect)
  case apart =>
    intro names others inner other hat hat'
    exact htree.eq_of_components_below hat hat'
  case mem_iff =>
    intro names name inner hat
    have htemplate := isTemplate_below_iff directory names (htree.isEntryName hat name (by simp))
    rw [hmem, ← htemplate]
    constructor
    · rintro ⟨names', hat', heq, hp⟩
      have hnames := htree.eq_of_components_below hat' hat (congrArg Path.components heq.symm)
      rw [hnames] at hat'
      exact ⟨htree.at_unique hat' hat, hp⟩
    · rintro ⟨rfl, hp⟩
      exact ⟨_, hat, rfl, hp⟩
  case at_of_mem =>
    intro p hp
    obtain ⟨names, hat, rfl, -⟩ := (hmem p).1 hp
    rcases List.eq_nil_or_concat names with rfl | ⟨before, name, rfl⟩
    · cases hat
    · rw [List.concat_eq_append] at hat ⊢
      exact ⟨before, name, _, hat, rfl⟩
  case accepted =>
    intro p hp
    obtain ⟨-, -, -, htemplate⟩ := (hmem p).1 hp
    exact isSome_of?_of_isTemplate htemplate

/-- The same templates are found, in the same order. -/
theorem templates_reordered (htree : (Tree.directory entries).WellFormed)
    (hothers : (Tree.directory entries).Reordered (.directory others))
    (h : templates directory entries = .ok found) : templates directory others = .ok found := by
  obtain ⟨collected, hcollect, rfl⟩ := templates_eq_ok.1 h
  obtain ⟨collected', hcollect', hperm⟩ := collect_reordered hothers hcollect
  refine templates_eq_ok.2 ⟨collected', hcollect', ?_⟩
  have hpairwise := pairwise_collect htree hcollect
  have hsorted := Path.pairwise_precedes_mergeSort hpairwise
  have hsorted' := Path.pairwise_precedes_mergeSort (hpairwise.perm hperm Ne.symm)
  have hsame : (collected.mergeSort Path.le).Perm (collected'.mergeSort Path.le) :=
    ((List.mergeSort_perm _ _).trans hperm).trans (List.mergeSort_perm _ _).symm
  exact hsame.eq_of_pairwise (fun p q _ _ hpq hqp => absurd hqp hpq.asymm) hsorted hsorted'

end
end Discovery

namespace Store

variable {σ : Type} [DirectoryAccess (StateM σ)]

/-- Whether there is a directory at a path. -/
def isDirectory (s : σ) (p : Path) : Bool :=
  ((DirectoryAccess.isDirectory p : StateM σ Bool).run s).1

/-- All that is below a directory. -/
def list (s : σ) (p : Path) : Except IoError (List (Text × Tree)) :=
  ((DirectoryAccess.list p : StateM σ (Except IoError (List (Text × Tree)))).run s).1

end Store

/-- A store that is not changed by looking at its directories. -/
class QuietDirectories (σ : Type) [DirectoryAccess (StateM σ)] : Prop where
  isDirectory : ∀ p, Keeps (id : σ → σ) (DirectoryAccess.isDirectory p : StateM σ Bool)
  list : ∀ p, Keeps (id : σ → σ)
    (DirectoryAccess.list p : StateM σ (Except IoError (List (Text × Tree))))

instance : QuietDirectories Disk where
  isDirectory _ _ := rfl
  list _ _ := rfl

theorem exists_mapM_eq_error_iff {α β ε : Type} {f : α → Except ε β} {l : List α} :
    (∃ e, l.mapM f = .error e) ↔ ∃ a ∈ l, ∃ e, f a = .error e := by
  induction l with
  | nil => simp [pure, Except.pure]
  | cons a l ih =>
    rw [List.mapM_cons, List.exists_mem_cons_iff, ← ih]
    cases f a with
    | error e => simp [bind, Except.bind]
    | ok b => cases l.mapM f <;> simp [bind, Except.bind, pure, Except.pure]

namespace Discovery

variable {σ : Type} [DirectoryAccess (StateM σ)]

/-- The answer to a search. -/
def searchAt (s : σ) (directory : Path) : Except BuildError (List Path) :=
  ((search directory : StateM σ (Except BuildError (List Path))).run s).1

/-- The templates that a path given by the user stands for: all below it, if it is a directory, and
otherwise the path itself. -/
def templatesAt (s : σ) (p : Path) : Except BuildError (List Path) :=
  if Store.isDirectory s p then searchAt s p else .ok [p]

theorem searchAt_eq (s : σ) (directory : Path) : searchAt s directory =
    match Store.list s directory with
    | .ok entries => templates directory entries
    | .error e => .error (.io directory e) := by
  unfold searchAt search Store.list
  rw [run_bind_eq]
  cases ((DirectoryAccess.list directory : StateM σ _).run s).1 <;> rfl

theorem exists_templatesAt_eq_error_iff {s : σ} {p : Path} :
    (∃ e, templatesAt s p = .error e) ↔
      Store.isDirectory s p = true ∧ ∃ e, searchAt s p = .error e := by
  unfold templatesAt
  split
  next h => simp [h]
  next h => simp [h]

/-- What the answers to searches of a directory tell of the tree that it lists: a directory below
that cannot be read, if there is one, and otherwise the templates below, whatever the order of the
entries. -/
structure SearchesExactly (s : σ) (directory : Path) (entries : List (Text × Tree)) : Prop where
  ok_iff : (∃ found, searchAt s directory = .ok found) ↔
    ∀ names cause, ¬ (Tree.directory entries).At names (.refused cause)
  refused : ∀ e, searchAt s directory = .error e → ∃ names cause,
    (Tree.directory entries).At names (.refused cause) ∧ e = .io (directory.below names) cause
  finds : ∀ found, searchAt s directory = .ok found →
    Finds directory (.directory entries) found
  reordered : ∀ (s' : σ) others found, Store.list s' directory = .ok others →
    (Tree.directory entries).Reordered (.directory others) →
    (searchAt s' directory = .ok found ↔ searchAt s directory = .ok found)

theorem searchesExactly_of_list {s : σ} {directory : Path} {entries : List (Text × Tree)}
    (h : Store.list s directory = .ok entries) (htree : (Tree.directory entries).WellFormed) :
    SearchesExactly s directory entries := by
  have hsearch : searchAt s directory = templates directory entries := by rw [searchAt_eq, h]
  constructor
  case ok_iff =>
    rw [hsearch, ← exists_collect_iff]
    constructor
    · rintro ⟨found, hfound⟩
      obtain ⟨collected, hcollected, -⟩ := templates_eq_ok.1 hfound
      exact ⟨collected, hcollected⟩
    · rintro ⟨collected, hcollected⟩
      exact ⟨_, templates_eq_ok.2 ⟨collected, hcollected, rfl⟩⟩
  case refused =>
    intro e he
    exact exists_refused_of_collect (templates_eq_error (hsearch.symm.trans he))
  case finds =>
    intro found hfound
    exact finds_of_templates htree (hsearch.symm.trans hfound)
  case reordered =>
    intro s' others found hlist hothers
    have hsearch' : searchAt s' directory = templates directory others := by
      rw [searchAt_eq, hlist]
    rw [hsearch, hsearch']
    exact ⟨templates_reordered (htree.reordered hothers) hothers.symm,
      templates_reordered htree hothers⟩

section
variable [QuietDirectories σ]

theorem run_search (s : σ) (directory : Path) :
    (search directory : StateM σ (Except BuildError (List Path))).run s =
      (searchAt s directory, s) := by
  refine Prod.ext rfl ?_
  have hkeeps : Keeps (id : σ → σ) (search directory) := by
    refine (QuietDirectories.list directory).bind fun answer => ?_
    cases answer <;> exact Keeps.pure _ _
  exact hkeeps s

theorem run_sourceAt (s : σ) (p : Path) :
    (sourceAt p : StateM σ (Except BuildError Source)).run s =
      (if Store.isDirectory s p then (searchAt s p).map (.directory p) else .ok (.template p),
        s) := by
  have hstate : ((DirectoryAccess.isDirectory p : StateM σ Bool).run s).2 = s :=
    QuietDirectories.isDirectory p s
  unfold sourceAt Store.isDirectory
  rw [run_bind_eq, hstate]
  cases ((DirectoryAccess.isDirectory p : StateM σ Bool).run s).1 with
  | false => rfl
  | true =>
    rw [if_pos rfl, if_pos rfl, run_bind_eq, run_search]
    rfl

/-- What paths stand for tells the templates of each, up to the first that cannot be searched. -/
theorem run_sources (s : σ) (paths : List Path) : ∃ found fault,
    (sources paths : StateM σ (List Source × Option BuildError)).run s = ((found, fault), s) ∧
      paths.mapM (templatesAt s) =
        match fault with
        | none => .ok (found.map Source.templates)
        | some e => .error e := by
  induction paths with
  | nil => exact ⟨[], none, rfl, rfl⟩
  | cons p paths ih =>
    obtain ⟨found, fault, hrun, hpaths⟩ := ih
    have htemplates : templatesAt s p = (if Store.isDirectory s p then
        (searchAt s p).map (.directory p) else .ok (.template p)).map Source.templates := by
      unfold templatesAt
      split
      · cases searchAt s p <;> rfl
      · rfl
    unfold sources
    rw [run_bind_eq, run_sourceAt, List.mapM_cons, htemplates, hpaths]
    generalize (if Store.isDirectory s p then (searchAt s p).map (.directory p)
      else .ok (.template p) : Except BuildError Source) = answer
    cases answer with
    | error e => exact ⟨[], some e, rfl, rfl⟩
    | ok source =>
      refine ⟨source :: found, fault, ?_, ?_⟩
      · dsimp only
        rw [run_bind_eq, hrun]
        rfl
      · cases fault <;> rfl

/-- Paths stand for the templates that each of them stands for, in their order. -/
theorem run_expand (s : σ) (paths : List Path) :
    (expand paths : StateM σ (Except BuildError (List Path))).run s =
      ((paths.mapM (templatesAt s)).map List.flatten, s) := by
  obtain ⟨found, fault, hrun, hpaths⟩ := run_sources s paths
  unfold expand
  rw [run_bind_eq, hrun, hpaths]
  cases fault with
  | none =>
    show (Except.ok (found.flatMap Source.templates), s) = _
    rw [List.flatMap_def]
    rfl
  | some e => rfl

end

/-- Discovery is exact. A search of a directory that can be listed finds the templates in its tree,
each once and in the order of paths, and the same ones wherever the directories list the same
entries in another order. It fails where the directory cannot be listed, or one below it cannot be
read. All that is asked of the tree is that its names are those of entries and no two in a directory
are the same. Paths given by the user stand for what is found below each directory, and otherwise
for themselves, one after the other, and fail where one of the searches does. -/
theorem discovery_exact [QuietDirectories σ] (s : σ) :
    (∀ directory entries, Store.list s directory = .ok entries →
        (Tree.directory entries).WellFormed → SearchesExactly s directory entries) ∧
      (∀ directory cause, Store.list s directory = .error cause →
        searchAt s directory = .error (.io directory cause)) ∧
      ∀ paths, (expand paths : StateM σ (Except BuildError (List Path))).run s =
          ((paths.mapM (templatesAt s)).map List.flatten, s) ∧
        ((∃ e, ((expand paths : StateM σ (Except BuildError (List Path))).run s).1 = .error e) ↔
          ∃ p ∈ paths, Store.isDirectory s p = true ∧ ∃ e, searchAt s p = .error e) := by
  refine ⟨fun directory entries => searchesExactly_of_list, fun directory cause hlist => ?_,
    fun paths => ⟨run_expand s paths, ?_⟩⟩
  · rw [searchAt_eq, hlist]
  · have hfails : ∀ answer : Except BuildError (List (List Path)),
        (∃ e, answer.map List.flatten = .error e) ↔ ∃ e, answer = .error e := by
      rintro (e | lists) <;> simp [Except.map]
    rw [run_expand, hfails, exists_mapM_eq_error_iff]
    simp only [exists_templatesAt_eq_error_iff]

/-- Templates at two depths beside a directory with the name of a template and a file that has only
the extension, listed in two orders. In the order of paths the directory comes before the file with
a longer name, although a dot comes before a slash. -/
theorem discovery_exact_nested :
    let page := Entry.file [] 0
    let deep := ("deep".toList, Entry.directory [("Z.cs.mustache".toList, page)])
    let hidden := (".mustache".toList, page)
    let twin := ("b.mustache".toList, page)
    let named := ("x.mustache".toList, Entry.directory [("y.mustache".toList, page)])
    let s : Disk := ⟨[("b".toList, .directory [deep, hidden]), twin, named], [], 0⟩
    let s' : Disk := ⟨[twin, ("b".toList, .directory [hidden, deep]), named], [], 0⟩
    let here : Path := ⟨".".toList⟩
    let found : List Path := [⟨"./b/deep/Z.cs.mustache".toList⟩, ⟨"./b.mustache".toList⟩,
      ⟨"./x.mustache/y.mustache".toList⟩]
    let missing : Path := ⟨"nope/Two.txt.mustache".toList⟩
    (∃ entries, Store.list s here = .ok entries ∧ Finds here (.directory entries) found) ∧
      searchAt s here = .ok found ∧ searchAt s' here = .ok found ∧
      (expand [here, missing] : StateM Disk (Except BuildError (List Path))).run s =
        (.ok (found ++ [missing]), s) := by
  intro page deep hidden twin named s s' here found missing
  let deepTree : Tree := .directory [("Z.cs.mustache".toList, .file)]
  let namedTree : Tree := .directory [("y.mustache".toList, .file)]
  let entries : List (Text × Tree) := [
    ("b".toList, .directory [("deep".toList, deepTree), (".mustache".toList, .file)]),
    ("b.mustache".toList, .file), ("x.mustache".toList, namedTree)]
  let others : List (Text × Tree) := [("b.mustache".toList, .file),
    ("b".toList, .directory [(".mustache".toList, .file), ("deep".toList, deepTree)]),
    ("x.mustache".toList, namedTree)]
  have hlist : Store.list s here = .ok entries := rfl
  have hlist' : Store.list s' here = .ok others := rfl
  have hsorted : found.Pairwise fun p q => p.le q = true := by decide
  have hsearch : searchAt s here = .ok found := by
    rw [searchAt_eq, hlist]
    exact templates_eq_ok.2 ⟨found, rfl, (List.mergeSort_of_pairwise hsorted).symm⟩
  have htree : (Tree.directory entries).WellFormed := by
    have hleaf : ∀ name, Path.IsEntryName name →
        (Tree.directory [(name, .file)]).WellFormed := fun name hname =>
      .directory (by simp) (by simpa using hname) (by simpa using .file)
    refine .directory (by decide) (by decide) ?_
    simp only [entries, List.forall_mem_cons]
    refine ⟨.directory (by decide) (by decide) ?_, .file, hleaf _ (by decide),
      List.forall_mem_nil _⟩
    simp only [List.forall_mem_cons]
    exact ⟨hleaf _ (by decide), .file, List.forall_mem_nil _⟩
  have hreordered : (Tree.directory entries).Reordered (.directory others) :=
    .trans (.within (.perm (.swap _ _ _)) _ _) (.perm (.swap _ _ _))
  obtain ⟨hsearches, -, hexpand⟩ := discovery_exact s
  have hexact := hsearches here entries hlist htree
  refine ⟨⟨entries, hlist, hexact.finds found hsearch⟩, hsearch,
    (hexact.reordered s' others found hlist' hreordered).2 hsearch, ?_⟩
  have hhere : templatesAt s here = .ok found := hsearch
  have hmissing : templatesAt s missing = .ok [missing] := rfl
  rw [(hexpand _).1, List.mapM_cons, hhere, List.mapM_cons, hmissing]
  rfl

end Discovery
end MustacheBuild
