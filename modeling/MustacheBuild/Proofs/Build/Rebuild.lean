import MustacheBuild.Build.Comparison
import MustacheBuild.Proofs.Build.Choice
import MustacheBuild.Proofs.Build.Frame

/-!
A build that is repeated finds all its outputs up to date.
-/
namespace MustacheBuild

open BuildM (runFrom)

/-- The output of a template is no file of another one. -/
def Spares (template other : Path) : Prop :=
  ∀ paths ∈ Companions.of? template, ∀ others ∈ Companions.of? other,
    ∀ p ∈ [others.template, others.data, others.output], paths.output.components ≠ p.components

instance (template other : Path) : Decidable (Spares template other) :=
  inferInstanceAs (Decidable (∀ paths ∈ Companions.of? template,
    ∀ others ∈ Companions.of? other, ∀ p ∈ [others.template, others.data, others.output], _ ≠ _))

/-- The outcome of a unit that is built again. -/
def Outcome.settled : Outcome → Outcome
  | rendered r => rendered { r with verdict := .unchanged }
  | o => o

namespace Outcome

theorem changedOutput?_settled (o : Outcome) : o.settled.changedOutput? = none := by
  cases o <;> rfl

theorem pending?_settled (o : Outcome) : o.settled.pending? = none := by
  cases o <;> rfl

end Outcome

namespace Memory

variable {mode : WriteMode} {template : Path} {templates : List Path}

/-- In memory no write fails, and no look at what is there. -/
theorem exists_runFrom_writeText (p : Path) (t : Text) (e : Encoding) (s : Memory) :
    ∃ v s₁, runFrom (writeText .ifChanged p t e) s = (.ok v, s₁) := by
  obtain ⟨b, hb⟩ : ∃ b, runFrom (isUpToDate p t e) s = (.ok b, s) := by
    rw [isUpToDate, BuildM.runFrom_bind_ok (runFrom_isFile p s)]
    cases hfile : Store.isFile s p with
    | false => exact ⟨false, rfl⟩
    | true =>
      obtain ⟨content, hread⟩ := exists_read hfile
      refine ⟨holdsText e content t, ?_⟩
      rw [if_pos rfl, BuildM.runFrom_bind_ok (runFrom_readFile_of_read hread)]
      rfl
  cases b with
  | true => exact ⟨_, _, runFrom_writeText_of_true (by decide) hb⟩
  | false =>
    rw [runFrom_writeText_ifChanged_of_false hb, runFrom_writeText_always, write_eq]
    exact ⟨_, _, rfl⟩

/-- A unit finds its output up to date as long as none of its files has changed since it was
built. -/
theorem runUnit_again (hmode : mode ≠ .always) {s s' : Memory}
    (hfiles : ∀ paths ∈ Companions.of? template, ∀ p ∈ [paths.template, paths.data, paths.output],
      s'.file? p = (runUnit .ifChanged template s).2.file? p)
    (hkeep : ∀ r, (runUnit .ifChanged template s).1 = .rendered r → r.encoding.KeepsMark r.text) :
    runUnit mode template s' = ((runUnit .ifChanged template s).1.settled, s') := by
  have heffect := unitEffect_of_backed backed .ifChanged template s
  have hsame : BuildM.Simulates (Exactly s s') (loadTemplate template)
      (loadTemplate template) := by
    refine simulates_loadTemplate fun paths hpaths => ⟨readsAlike ?_, readsAlike ?_⟩
    · rw [hfiles paths hpaths _ (by simp), Companions.template_of? hpaths]
      exact heffect.ownTemplate.symm
    · rw [hfiles paths hpaths _ (by simp)]
      exact (heffect.ownData paths hpaths).symm
  obtain ⟨answer, hload, hload'⟩ := hsame.of_exactly
  rw [runUnit_eq mode, hload']
  rw [runUnit_eq .ifChanged, hload] at hfiles hkeep ⊢
  rcases answer with e | missing | ⟨paths, unit⟩
  · rfl
  · rfl
  dsimp only at hfiles hkeep ⊢
  cases hrender : renderWith unit.template unit.templateFile unit.data with
  | error e =>
    rw [runFrom_writeRendered_of_error hrender, runFrom_writeRendered_of_error hrender]
    rfl
  | ok text =>
    rw [runFrom_writeRendered_of_ok hrender] at hfiles hkeep
    rw [runFrom_writeRendered_of_ok hrender, runFrom_writeRendered_of_ok hrender]
    obtain ⟨v, s₁, hwrite⟩ := exists_runFrom_writeText paths.output text unit.encoding s
    rw [hwrite] at hfiles hkeep ⊢
    have houtput := hfiles paths (loadUnit_of_loadTemplate hload).1 paths.output (by simp)
    rw [runFrom_writeText_of_readsAlike hmode hwrite (readsAlike houtput.symm) fun _ => hkeep _ rfl]
    rfl

/-- A batch finds all outputs up to date as long as none of its files has changed since it was
built. A unit may use what an earlier one writes, but must not write its files. -/
theorem runBatch_again (mode : WriteMode) (hmode : mode ≠ .always) {s : Memory}
    (hspares : templates.Pairwise fun earlier later => Spares later earlier)
    (hkeep : ∀ r, .rendered r ∈ (runBatch .ifChanged templates s).1.units →
      r.encoding.KeepsMark r.text) :
    runBatch mode templates (runBatch .ifChanged templates s).2 =
      (⟨(runBatch .ifChanged templates s).1.units.map Outcome.settled⟩,
        (runBatch .ifChanged templates s).2) := by
  induction templates generalizing s with
  | nil => rfl
  | cons template templates ih =>
    obtain ⟨hhead, htail⟩ := List.pairwise_cons.1 hspares
    simp only [runBatch_cons, List.mem_cons] at hkeep ⊢
    rw [runUnit_again hmode, ih htail fun r hr => hkeep r (Or.inr hr)]
    · rfl
    · -- The later units leave the files of this one as it left them.
      intro paths hpaths p hp
      refine keeps_file?_buildAll backed .ifChanged (fun later hlater others hothers => ?_) _
      exact (hhead later hlater others hothers paths hpaths p hp).symm
    · exact fun r hr => hkeep r (Or.inl hr.symm)

end Memory

/-- A comparison, run from a state. -/
def runComparison {σ : Type} [FileSystem (StateM σ)] (templates : List Path) (s : σ) :
    Comparison × σ :=
  (compareAll templates : StateM σ Comparison).run s

/-- Where nothing is pending, nothing is compared. -/
theorem runComparison_of_pending_nil {σ : Type} [FileSystem (StateM σ)] {templates : List Path}
    {s : σ} (h : (runBatch .dryRun templates s).1.units.filterMap Outcome.pending? = []) :
    runComparison templates s =
      (⟨(runBatch .dryRun templates s).1, []⟩, (runBatch .dryRun templates s).2) := by
  rw [runComparison, compareAll, run_bind_eq]
  have hunits : (StateT.run (buildAll .dryRun templates : StateM σ Batch) s).1.units.filterMap
      Outcome.pending? = [] := h
  rw [hunits]
  rfl

def Encoding.isUnicode : Encoding → Bool
  | unicode _ _ => true
  | legacy _ => false

/-- What is rendered is Unicode text that begins neither with a mark nor with a null. -/
def Outcome.PlainStart : Outcome → Prop
  | rendered r =>
    r.encoding.isUnicode = true ∧ r.text.head? ≠ some '\uFEFF' ∧ r.text.head? ≠ some '\x00'
  | _ => True

instance : DecidablePred Outcome.PlainStart
  | .rendered _ => inferInstanceAs (Decidable (_ ∧ _ ∧ _))
  | .skipped _ _ => inferInstanceAs (Decidable True)
  | .failed _ _ _ => inferInstanceAs (Decidable True)

theorem keepsMark_of_plainStart {r : Rendered} (hchoosable : r.encoding.Choosable)
    (h : (Outcome.rendered r).PlainStart) : r.encoding.KeepsMark r.text := by
  obtain ⟨hunicode, hmark, hnull⟩ := h
  cases he : r.encoding with
  | unicode form mark =>
    rw [he] at hchoosable
    exact (Encoding.keepsMark_choosable_iff hchoosable _).2 ⟨fun h => hnull h.2, fun h => hmark h.2⟩
  | legacy charset =>
    rw [he] at hunicode
    contradiction

/-- A second build leaves every file and every stamp as the first one left it: what was rendered is
up to date, what was skipped is skipped, what failed fails, and there is nothing to compare. -/
theorem build_again_changes_nothing (templates : List Path) (s : Memory)
    (hspares : templates.Pairwise fun earlier later => Spares later earlier)
    (hplain : ∀ o ∈ (runBatch .ifChanged templates s).1.units, o.PlainStart) :
    let first := runBatch .ifChanged templates s
    let second := runBatch .ifChanged templates first.2
    let comparison := runComparison templates first.2
    second.2 = first.2 ∧ second.1.units = first.1.units.map Outcome.settled ∧
      second.1.changedOutputs = [] ∧ comparison.2 = first.2 ∧ comparison.1.diffs = [] := by
  have hkeep : ∀ r, .rendered r ∈ (runBatch .ifChanged templates s).1.units →
      r.encoding.KeepsMark r.text := by
    intro r hr
    obtain ⟨template, -, s', ho⟩ := exists_runUnit_of_mem_units hr
    exact keepsMark_of_plainStart (choosable_of_runUnit ho.symm) (hplain _ hr)
  have hsecond := Memory.runBatch_again .ifChanged (by decide) hspares hkeep
  have hdry := Memory.runBatch_again .dryRun (by decide) hspares hkeep
  dsimp only
  rw [hsecond, runComparison_of_pending_nil, hdry]
  · refine ⟨rfl, rfl, ?_, rfl, rfl⟩
    rw [Batch.changedOutputs_eq_nil_iff]
    simp [Outcome.changedOutput?_settled]
  · rw [hdry, List.filterMap_eq_nil_iff]
    simp [Outcome.pending?_settled]

/-- A template in UTF-16 with its data, and one that is broken. -/
def unbuiltStore : Memory :=
  (((Memory.empty.put ⟨"a.txt.mustache".toList⟩ [0xFF, 0xFE, 0x68, 0x00]).put
    ⟨"a.txt.json".toList⟩ [0x7B, 0x7D]).put ⟨"c.txt.mustache".toList⟩ [0x7B, 0x7B]).put
      ⟨"c.txt.json".toList⟩ [0x7B, 0x7D]

/-- Those templates, and one that is not there. -/
def unbuiltTemplates : List Path :=
  [⟨"a.txt.mustache".toList⟩, ⟨"b.txt.mustache".toList⟩, ⟨"c.txt.mustache".toList⟩]

theorem build_again_settles_unbuilt :
    let first := runBatch .ifChanged unbuiltTemplates unbuiltStore
    let second := runBatch .ifChanged unbuiltTemplates first.2
    first.1.units.map Outcome.isWritten = [true, false, false] ∧ second.2 = first.2 ∧
      second.1.changedOutputs = [] := by
  have hspares : unbuiltTemplates.Pairwise fun earlier later => Spares later earlier := by
    decide +kernel
  have hplain : ∀ o ∈ (runBatch .ifChanged unbuiltTemplates unbuiltStore).1.units,
      o.PlainStart := by
    decide +kernel
  obtain ⟨hstore, -, hnone, -⟩ := build_again_changes_nothing _ _ hspares hplain
  exact ⟨by decide +kernel, hstore, hnone⟩

end MustacheBuild
