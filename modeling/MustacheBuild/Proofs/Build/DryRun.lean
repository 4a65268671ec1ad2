import MustacheBuild.Proofs.Build.Batch

/-!
A dry run says what a build would do: as long as nothing is to be written the two take the same
steps.
-/
namespace MustacheBuild

section
variable {σ γ : Type} [FileSystem (StateM σ)] {view : σ → γ}

/-- A dry run only reads. -/
theorem keeps_buildOne_dryRun (h : ReadsKeep view) (template : Path) :
    Keeps view (buildOne .dryRun template) := by
  intro s
  obtain ⟨s₁, hview, ⟨o, hrun, -⟩ | ⟨hmode, -⟩⟩ := runUnit_cases h .dryRun template s
  · show view (runUnit .dryRun template s).2 = view s
    rw [hrun]
    exact hview
  · exact absurd rfl hmode

theorem Outcome.changedOutput?_of_ne_rendered {o : Outcome} (h : ∀ r, o ≠ rendered r) :
    o.changedOutput? = none := by
  cases o with
  | rendered r => exact absurd rfl (h r)
  | skipped => rfl
  | failed => rfl

/-- A build does what its dry run does, or it writes or fails where the dry run reports a change. -/
theorem runUnit_lockstep (template : Path) (s : σ) :
    (runUnit .ifChanged template s = runUnit .dryRun template s ∧
        (runUnit .dryRun template s).1.changedOutput? = none) ∨
      ((runUnit .dryRun template s).1.changedOutput? ≠ none ∧
        ((runUnit .ifChanged template s).1.isFailed = true ∨
          (runUnit .ifChanged template s).1.isWritten = true)) := by
  obtain ⟨s₁, -, ⟨o, -, ho, hrun⟩ | ⟨paths, unit, text, -, -, hrun⟩⟩ := runUnit_stages template s
  · rw [hrun, hrun]
    exact Or.inl ⟨rfl, Outcome.changedOutput?_of_ne_rendered ho⟩
  rw [hrun, hrun]
  rcases hcheck : BuildM.runFrom (isUpToDate paths.output text unit.encoding) s₁ with
    ⟨_ | _ | _, s₂⟩
  · rw [runFrom_writeText_of_error (by decide) hcheck,
      runFrom_writeText_of_error (by decide) hcheck]
    exact Or.inl ⟨rfl, rfl⟩
  · rw [runFrom_writeText_dryRun_of_false hcheck, runFrom_writeText_ifChanged_of_false hcheck,
      runFrom_writeText_always]
    refine Or.inr ⟨nofun, ?_⟩
    rcases Store.write s₂ paths.output (unit.encoding.encode text) with ⟨_ | _, _⟩
    · exact Or.inl rfl
    · exact Or.inr rfl
  · rw [runFrom_writeText_of_true (by decide) hcheck,
      runFrom_writeText_of_true (by decide) hcheck]
    exact Or.inl ⟨rfl, rfl⟩

/-- What reports no change was not written. -/
theorem Outcome.isWritten_of_changedOutput? {o : Outcome} (h : o.changedOutput? = none) :
    o.isWritten = false := by
  cases o with
  | rendered r =>
    simp only [changedOutput?] at h
    split at h
    next hv => simp [isWritten, hv]
    next => cases h
  | skipped => rfl
  | failed => rfl

/-- As long as the dry run reports no change, or the build neither fails nor writes, the two are the
same run. -/
theorem runBatch_lockstep {templates : List Path} {s : σ}
    (h : (∀ o ∈ (runBatch .dryRun templates s).1.units, o.changedOutput? = none) ∨
      ∀ o ∈ (runBatch .ifChanged templates s).1.units, o.isFailed = false ∧ o.isWritten = false) :
    runBatch .ifChanged templates s = runBatch .dryRun templates s ∧
      ∀ o ∈ (runBatch .dryRun templates s).1.units, o.changedOutput? = none := by
  induction templates generalizing s with
  | nil =>
    rw [runBatch_nil, runBatch_nil]
    exact ⟨rfl, List.forall_mem_nil _⟩
  | cons template templates ih =>
    simp only [runBatch_cons, List.forall_mem_cons] at h
    obtain ⟨hsame, hnone⟩ | ⟨hchange, hstop⟩ := runUnit_lockstep template s
    · rw [hsame] at h
      obtain ⟨hrest, hunits⟩ := ih (h.imp And.right And.right)
      rw [runBatch_cons, runBatch_cons, hsame, hrest]
      exact ⟨rfl, List.forall_mem_cons.2 ⟨hnone, hunits⟩⟩
    -- Where they part, the one reports a change and the other fails or writes.
    · rcases h with ⟨hnone, -⟩ | ⟨⟨hgood, hunwritten⟩, -⟩
      · exact absurd hnone hchange
      · simp [hgood, hunwritten] at hstop

/-- A dry run is without a complaint if and only if the build succeeds and writes nothing, and then
the two say the same. Whatever reads leave alone in the store is then as before. -/
theorem dryRun_predicts_build (h : ReadsKeep view) (templates : List Path) (s : σ) :
    let dry := runBatch .dryRun templates s
    let build := runBatch .ifChanged templates s
    ((dry.1.succeeded = true ∧ dry.1.changedOutputs = []) ↔
        (build.1.succeeded = true ∧ ∀ o ∈ build.1.units, o.isWritten = false)) ∧
      (dry.1.succeeded = true → dry.1.changedOutputs = [] →
        view build.2 = view s ∧ build.1.units = dry.1.units ∧ build.1.log = dry.1.log) := by
  dsimp only
  simp only [Batch.succeeded_eq_true_iff, Batch.changedOutputs_eq_nil_iff]
  refine ⟨⟨?_, ?_⟩, ?_⟩
  · rintro ⟨hgood, hnone⟩
    obtain ⟨hsame, -⟩ := runBatch_lockstep (Or.inl hnone)
    rw [hsame]
    exact ⟨hgood, fun o ho => Outcome.isWritten_of_changedOutput? (hnone o ho)⟩
  · rintro ⟨hgood, hunwritten⟩
    obtain ⟨hsame, hnone⟩ := runBatch_lockstep (Or.inr fun o ho => ⟨hgood o ho, hunwritten o ho⟩)
    rw [hsame] at hgood
    exact ⟨hgood, hnone⟩
  · intro _ hnone
    obtain ⟨hsame, -⟩ := runBatch_lockstep (Or.inl hnone)
    rw [hsame]
    have hkeeps : Keeps view (buildAll .dryRun templates : StateM σ Batch) :=
      keeps_buildAll fun template _ => keeps_buildOne_dryRun h template
    exact ⟨hkeeps s, rfl, rfl⟩

end

/-- A template with its data and an output that is up to date. -/
def settledFiles : Memory :=
  ((Memory.empty.put ⟨"a.txt.mustache".toList⟩ [0x78]).put
    ⟨"a.txt.json".toList⟩ [0x7B, 0x7D]).put ⟨"a.txt".toList⟩ [0xEF, 0xBB, 0xBF, 0x78]

/-- These files where nothing can be written, and where just one access cannot read. -/
def settledStore (failing : Nat) : Scheduled Memory where
  inner := settledFiles
  accesses := 0
  reads n _ := if n = failing then some ⟨.other, none, "interrupted"⟩ else none
  writes _ _ := some ⟨.other, none, "full"⟩

/-- That template, and one that is not there. -/
def settledTemplates : List Path := [⟨"a.txt.mustache".toList⟩, ⟨"b.txt.mustache".toList⟩]

/-- Three files are read. If the fourth access could not, nothing is to be done; if the first one
cannot, this is an error for the build as well. -/
theorem dryRun_predicts_settled_build :
    (((runBatch .dryRun settledTemplates (settledStore 3)).1.succeeded = true ∧
        (runBatch .dryRun settledTemplates (settledStore 3)).1.changedOutputs = []) ∧
      (runBatch .ifChanged settledTemplates (settledStore 3)).2.inner = settledFiles) ∧
    ¬ ((runBatch .ifChanged settledTemplates (settledStore 0)).1.succeeded = true ∧
      ∀ o ∈ (runBatch .ifChanged settledTemplates (settledStore 0)).1.units,
        o.isWritten = false) := by
  have hgood : (runBatch .dryRun settledTemplates (settledStore 3)).1.succeeded = true := by
    decide +kernel
  have hnone : (runBatch .dryRun settledTemplates (settledStore 3)).1.changedOutputs = [] := by
    decide +kernel
  have hfails : (runBatch .dryRun settledTemplates (settledStore 0)).1.succeeded = false := by
    decide +kernel
  have hpredict (n : Nat) :=
    dryRun_predicts_build Scheduled.readsKeep_inner settledTemplates (settledStore n)
  refine ⟨⟨⟨hgood, hnone⟩, ((hpredict 3).2 hgood hnone).1⟩, fun hbuild => ?_⟩
  have hdry := ((hpredict 0).1.2 hbuild).1
  exact Bool.false_ne_true (hfails.symm.trans hdry)

end MustacheBuild
