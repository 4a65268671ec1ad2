import Mathlib.Data.List.Basic
import MustacheBuild.Proofs.Build.Comparison
import MustacheBuild.Proofs.Diff.Unified

/-!
What a comparison shows of the outputs that are pending. An output that is there is called pending
where it is read as another text, so that its diff says something; one that is missing is compared
as an empty text.
-/
namespace MustacheBuild

open BuildM (runFrom runFrom_bind_ok)

section
variable {σ : Type} [FileSystem (StateM σ)] [Quiet σ]
variable {p : Path} {t : Text} {e : Encoding} {s s' : σ} {template : Path} {r : Rendered}

/-- There is no file at a path, or one that does not hold a text. -/
def Lacks (s : σ) (p : Path) (t : Text) (e : Encoding) : Prop :=
  Store.isFile s p = false ∨
    ∃ existing, Store.read s p = .ok existing ∧ holdsText e existing t = false

theorem lacks_of_isUpToDate (h : runFrom (isUpToDate p t e) s = (.ok false, s')) :
    Lacks s p t e := by
  rw [isUpToDate, runFrom_bind_ok (runFrom_isFile p s)] at h
  cases hfile : Store.isFile s p with
  | false => exact Or.inl hfile
  | true =>
    rw [hfile, if_pos rfl, BuildM.runFrom_bind, runFrom_readFile] at h
    cases hread : Store.read s p with
    | error err =>
      rw [hread] at h
      cases h
    | ok existing =>
      rw [hread] at h
      exact Or.inr ⟨existing, hread, Except.ok.inj (Prod.mk.inj h).1⟩

/-- A dry run writes no unit, and a unit is pending where its output lacks the text. -/
theorem lacks_of_runUnit (h : (runUnit .dryRun template s).1 = .rendered r) :
    r.verdict ≠ .written ∧ (r.verdict = .wouldWrite → Lacks s r.output r.text r.encoding) := by
  obtain ⟨s₁, hload, ⟨o, -, ho, hrun⟩ | ⟨paths, unit, text, -, -, hrun⟩⟩ :=
    runUnit_stages template s
  · rw [hrun] at h
    exact absurd h (ho r)
  · obtain rfl : s = s₁ := (keeps_loadTemplate Quiet.readsKeep template s).symm.trans hload
    rw [hrun] at h
    rcases hcheck : runFrom (isUpToDate paths.output text unit.encoding) s with
      ⟨_ | _ | _, s₂⟩
    · rw [runFrom_writeText_of_error (by decide) hcheck] at h
      cases h
    · rw [runFrom_writeText_dryRun_of_false hcheck] at h
      cases h
      exact ⟨nofun, fun _ => lacks_of_isUpToDate hcheck⟩
    · rw [runFrom_writeText_of_true (by decide) hcheck] at h
      cases h
      exact ⟨nofun, nofun⟩

/-- In a dry run all units start from the same store. -/
theorem runBatch_dryRun (templates : List Path) (s : σ) :
    runBatch .dryRun templates s = (⟨templates.map fun t => (runUnit .dryRun t s).1⟩, s) := by
  induction templates with
  | nil => rfl
  | cons template templates ih =>
    have hkeep : (runUnit .dryRun template s).2 = s :=
      keeps_buildOne_dryRun Quiet.readsKeep template s
    rw [runBatch_cons, hkeep, ih, List.map_cons]

theorem lacks_of_mem_units {templates : List Path}
    (h : .rendered r ∈ (runBatch .dryRun templates s).1.units) :
    r.verdict ≠ .written ∧ (r.verdict = .wouldWrite → Lacks s r.output r.text r.encoding) := by
  rw [runBatch_dryRun] at h
  obtain ⟨template, -, ho⟩ := List.mem_map.1 h
  exact lacks_of_runUnit ho

theorem changedOutputs_dryRun (templates : List Path) (s : σ) :
    (runBatch .dryRun templates s).1.changedOutputs =
      ((runBatch .dryRun templates s).1.units.filterMap Outcome.pending?).map Rendered.output := by
  rw [Batch.changedOutputs, List.map_filterMap]
  apply List.filterMap_congr
  intro o ho
  cases o with
  | rendered r =>
    have hwritten := (lacks_of_mem_units ho).1
    cases hv : r.verdict with
    | written => exact absurd hv hwritten
    | unchanged => simp [Outcome.changedOutput?, Outcome.pending?, hv]
    | wouldWrite => simp [Outcome.changedOutput?, Outcome.pending?, hv]
  | skipped => rfl
  | failed => rfl

end

/-- A diff of a pending output, which says nothing only of an empty text whose output is missing. -/
structure ShownBy (s : Memory) (r : Rendered) (diff : FileDiff) : Prop where
  path : diff.path = r.output
  text_eq_nil_iff : diff.text = [] ↔ s.file? r.output = none ∧ r.text = []

section
variable {s s' : Memory} {r : Rendered} {answer : Except BuildError FileDiff}

theorem decode_ne_of_holdsText {e : Encoding} {existing : Bytes} {t : Text}
    (h : holdsText e existing t = false) : e.decode existing ≠ t := by
  rintro rfl
  simp [holdsText] at h

/-- A file in memory that is looked at once more is there and can be read. -/
theorem shownBy_of_findsAgain (h : FindsAgain r s answer s')
    (hlacks : Lacks s r.output r.text r.encoding) :
    s' = s ∧ ∃ diff, answer = .ok diff ∧ ShownBy s r diff := by
  cases h with
  | missing hfile =>
    obtain ⟨hnone, rfl⟩ := Prod.mk.inj hfile
    refine ⟨rfl, _, rfl, rfl, ?_⟩
    rw [Diff.unified_eq_nil_iff]
    exact ⟨fun h => ⟨by simpa using hnone, h.symm⟩, fun h => h.2.symm⟩
  | @readable _ _ content hfile hread =>
    obtain ⟨hsome, rfl⟩ := Prod.mk.inj hfile
    obtain ⟨hcontent, rfl⟩ := Prod.mk.inj hread
    refine ⟨rfl, _, rfl, rfl, ?_⟩
    rw [Diff.unified_eq_nil_iff]
    refine iff_of_false ?_ fun h => by simp [h.1] at hsome
    rcases hlacks with hnone | ⟨existing, hexisting, hholds⟩
    · exact absurd (hsome.symm.trans hnone) (by decide)
    · obtain rfl : existing = content := Except.ok.inj (hexisting.symm.trans hcontent)
      exact decode_ne_of_holdsText hholds
  | unreadable hfile hread =>
    obtain ⟨hsome, rfl⟩ := Prod.mk.inj hfile
    obtain ⟨content, hcontent⟩ := Memory.exists_read hsome
    cases hcontent.symm.trans (Prod.mk.inj hread).1

/-- Every pending unit comes out as a diff. -/
theorem shownBy_of_looksAgain {units : List Outcome} {failures : List BuildError}
    {diffs : List FileDiff} (h : LooksAgain s units failures diffs s')
    (hlacks : ∀ r, .rendered r ∈ units → r.verdict = .wouldWrite →
      Lacks s r.output r.text r.encoding) :
    failures = [] ∧ List.Forall₂ (ShownBy s) (units.filterMap Outcome.pending?) diffs := by
  induction h with
  | nil => exact ⟨rfl, .nil⟩
  | settled ho _ ih =>
    rw [List.filterMap_cons_none (Outcome.pending?_eq_none ho)]
    exact ih fun r hr => hlacks r (List.mem_cons_of_mem _ hr)
  | compared hr hfound _ ih =>
    obtain ⟨rfl, diff, hdiff, hshown⟩ :=
      shownBy_of_findsAgain hfound (hlacks _ List.mem_cons_self hr)
    cases hdiff
    rw [List.filterMap_cons_some (Outcome.pending?_rendered hr)]
    obtain ⟨hnone, hrest⟩ := ih fun r hr => hlacks r (List.mem_cons_of_mem _ hr)
    exact ⟨hnone, .cons hshown hrest⟩
  | failed hr hfound _ _ =>
    obtain ⟨-, diff, hdiff, -⟩ := shownBy_of_findsAgain hfound (hlacks _ List.mem_cons_self hr)
    cases hdiff

theorem map_path_of_shownBy {pending : List Rendered} {diffs : List FileDiff}
    (h : List.Forall₂ (ShownBy s) pending diffs) :
    diffs.map FileDiff.path = pending.map Rendered.output := by
  induction h with
  | nil => rfl
  | cons hshown _ ih => rw [List.map_cons, List.map_cons, hshown.path, ih]

end

/-- A comparison in memory shows, in order, the outputs that a dry run calls changed: each has a
diff that says something, apart from missing outputs that are to be empty. -/
theorem runComparison_shows (templates : List Path) (s : Memory) :
    let dry := (runBatch .dryRun templates s).1
    let comparison := (runComparison templates s).1
    comparison.batch = dry ∧ comparison.failures = [] ∧
      comparison.diffs.map FileDiff.path = dry.changedOutputs ∧
      List.Forall₂ (ShownBy s) (dry.units.filterMap Outcome.pending?) comparison.diffs := by
  obtain ⟨hbatch, hlooks⟩ := runComparison_looksAgain templates s
  dsimp only at hbatch hlooks ⊢
  have hstore : (runBatch .dryRun templates s).2 = s := by rw [runBatch_dryRun]
  rw [hstore] at hlooks
  obtain ⟨hnone, hshown⟩ := shownBy_of_looksAgain hlooks fun r hr => (lacks_of_mem_units hr).2
  refine ⟨hbatch, hnone, ?_, hshown⟩
  rw [changedOutputs_dryRun, map_path_of_shownBy hshown]

/-- An empty template with its data, and no output. -/
def emptyTemplateStore : Memory :=
  (Memory.empty.put ⟨"a.txt.mustache".toList⟩ []).put ⟨"a.txt.json".toList⟩ [0x7B, 0x7D]

/-- An output that is missing and is to be empty is out of date, and its diff says nothing. -/
theorem runComparison_shows_nothing :
    let templates : List Path := [⟨"a.txt.mustache".toList⟩]
    (runBatch .dryRun templates emptyTemplateStore).1.changedOutputs = [⟨"a.txt".toList⟩] ∧
      (runComparison templates emptyTemplateStore).1.diffs = [⟨⟨"a.txt".toList⟩, []⟩] := by
  decide +kernel

end MustacheBuild
