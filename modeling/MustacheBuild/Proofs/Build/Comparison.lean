import MustacheBuild.Proofs.Build.DryRun
import MustacheBuild.Proofs.Build.Journal
import MustacheBuild.Proofs.Build.Rebuild

/-!
What a comparison tells: each output that would be written is looked at once more, in whatever state
the file system is by then, and comes out as a diff or as an error.
-/
namespace MustacheBuild

open BuildM (runFrom)
open Reported (say)

/-- A store beside all that it was asked to write, also where it refused. -/
structure Recorded (σ : Type) where
  store : σ
  writes : List (Path × Bytes)

namespace Recorded

variable {σ : Type}

/-- Acts on the store, and leaves the record. -/
def lift {α : Type} (action : StateM σ α) : StateM (Recorded σ) α := fun r =>
  let (a, store) := action r.store
  (a, { r with store })

instance [FileSystem (StateM σ)] : FileSystem (StateM (Recorded σ)) where
  isFile p := lift (FileSystem.isFile p)
  read p := lift (FileSystem.read p)
  write p content := do
    modify fun r => { r with writes := r.writes ++ [(p, content)] }
    lift (FileSystem.write p content)

/-- A store beside itself with a record. -/
def Beside (s : σ) (r : Recorded σ) : Prop := r.store = s

variable [FileSystem (StateM σ)]

theorem actsAlike_beside : ActsAlike (Beside : σ → Recorded σ → Prop) where
  reads p :=
    { isFile := by
        rintro _ r rfl
        exact ⟨rfl, rfl⟩
      read := by
        rintro _ r rfl
        exact ⟨rfl, rfl⟩ }
  write p content := by
    rintro _ r rfl
    exact ⟨rfl, rfl⟩

theorem readsKeep_writes : ReadsKeep (writes : Recorded σ → List (Path × Bytes)) where
  isFile _ _ := rfl
  read _ _ := rfl

end Recorded

section
variable {σ τ γ : Type} [FileSystem (StateM σ)] [FileSystem (StateM τ)] {view : σ → γ}
variable {R : σ → τ → Prop}

theorem keeps_diffOutput (h : ReadsKeep view) (r : Rendered) :
    BuildM.Keeps view (diffOutput r) := by
  unfold diffOutput existingText
  refine BuildM.Keeps.bind ?_ fun existing => BuildM.Keeps.pure view _
  refine (keeps_isFile h r.output).bind fun there => ?_
  cases there with
  | false => exact BuildM.Keeps.pure view []
  | true => exact (keeps_readFile h r.output).bind fun content => BuildM.Keeps.pure view _

/-- A comparison only reads. -/
theorem keeps_compareAll (h : ReadsKeep view) (templates : List Path) :
    Keeps view (compareAll templates) := by
  have hbuild : Keeps view (buildAll .dryRun templates) :=
    keeps_buildAll fun template _ => keeps_buildOne_dryRun h template
  unfold compareAll
  apply hbuild.bind
  intro batch
  have hdiffs : Keeps view
      ((batch.units.filterMap Outcome.pending?).mapM fun r => (diffOutput r).run) :=
    Keeps.mapM fun r _ => keeps_diffOutput h r
  exact hdiffs.bind fun outputs => Keeps.pure view _

theorem simulates_diffOutput (h : ActsAlike R) (r : Rendered) :
    BuildM.Simulates R (diffOutput r) (diffOutput r) := by
  unfold diffOutput existingText
  refine BuildM.Simulates.bind ?_ fun existing => BuildM.Simulates.pure R _
  refine (simulates_isFile (h.reads r.output)).bind fun there => ?_
  cases there with
  | false => exact BuildM.Simulates.pure R []
  | true =>
    exact (simulates_readFile (h.reads r.output)).bind fun content => BuildM.Simulates.pure R _

theorem simulates_compareAll (h : ActsAlike R) (templates : List Path) :
    Simulates R (compareAll templates) (compareAll templates) := by
  have hbuild : Simulates R (templates.mapM (buildOne .dryRun))
      (templates.mapM (buildOne .dryRun)) :=
    Simulates.mapM templates fun template =>
      simulates_buildOne (fun paths _ => ⟨fun p _ => h.reads p, h.write paths.output⟩) .dryRun
  unfold compareAll buildAll
  refine (hbuild.bind fun units => Simulates.pure R _).bind fun batch => ?_
  have hdiffs : Simulates R
      ((batch.units.filterMap Outcome.pending?).mapM fun r => (diffOutput r).run)
      ((batch.units.filterMap Outcome.pending?).mapM fun r => (diffOutput r).run) :=
    Simulates.mapM _ fun r => simulates_diffOutput h r
  exact hdiffs.bind fun outputs => Simulates.pure R _

/-- Beside a record a comparison runs as without it, and nothing is recorded. -/
theorem runComparison_recorded (templates : List Path) (s : σ) (writes : List (Path × Bytes)) :
    runComparison templates (⟨s, writes⟩ : Recorded σ) =
      ((runComparison templates s).1, ⟨(runComparison templates s).2, writes⟩) := by
  obtain ⟨hanswer, hstore⟩ :=
    simulates_compareAll Recorded.actsAlike_beside templates s ⟨s, writes⟩ rfl
  -- The relation on stores says nothing of the record, which is kept as nothing but reads occur.
  have hwrites := keeps_compareAll Recorded.readsKeep_writes templates ⟨s, writes⟩
  have hafter : (runComparison templates (⟨s, writes⟩ : Recorded σ)).2 =
      ⟨(runComparison templates s).2, writes⟩ := by
    cases hrun : (runComparison templates (⟨s, writes⟩ : Recorded σ)).2
    unfold runComparison at hrun
    rw [hrun] at hstore hwrites
    exact congrArg₂ Recorded.mk hstore hwrites
  exact Prod.ext hanswer.symm hafter

end

section
variable {σ : Type} [FileSystem (StateM σ)]

/-- What comes of an output that is looked at once more. Where there is none it is compared as an
empty one. -/
inductive FindsAgain (r : Rendered) (s : σ) : Except BuildError FileDiff → σ → Prop where
  | missing {s₁ : σ}
      (hfile : (FileSystem.isFile r.output : StateM σ Bool).run s = (false, s₁)) :
      FindsAgain r s (.ok ⟨r.output, Diff.unified r.output [] r.text⟩) s₁
  | readable {s₁ s₂ : σ} {content : Bytes}
      (hfile : (FileSystem.isFile r.output : StateM σ Bool).run s = (true, s₁))
      (hread : (FileSystem.read r.output : StateM σ (Except IoError Bytes)).run s₁ =
        (.ok content, s₂)) :
      FindsAgain r s
        (.ok ⟨r.output, Diff.unified r.output (r.encoding.decode content) r.text⟩) s₂
  | unreadable {s₁ s₂ : σ} {e : IoError}
      (hfile : (FileSystem.isFile r.output : StateM σ Bool).run s = (true, s₁))
      (hread : (FileSystem.read r.output : StateM σ (Except IoError Bytes)).run s₁ =
        (.error e, s₂)) :
      FindsAgain r s (.error (.io r.output e)) s₂

/-- What comes of the units of a dry run, one after the other: the errors of the outputs that are
there and cannot be read, the diffs of all others that would be written, and the state behind. -/
inductive LooksAgain : σ → List Outcome → List BuildError → List FileDiff → σ → Prop where
  | nil (s : σ) : LooksAgain s [] [] [] s
  | settled {s s' : σ} {o : Outcome} {units : List Outcome} {failures : List BuildError}
      {diffs : List FileDiff} (ho : ∀ r, o = .rendered r → r.verdict ≠ .wouldWrite)
      (hrest : LooksAgain s units failures diffs s') :
      LooksAgain s (o :: units) failures diffs s'
  | compared {s s₁ s' : σ} {r : Rendered} {diff : FileDiff} {units : List Outcome}
      {failures : List BuildError} {diffs : List FileDiff} (hr : r.verdict = .wouldWrite)
      (hfound : FindsAgain r s (.ok diff) s₁) (hrest : LooksAgain s₁ units failures diffs s') :
      LooksAgain s (.rendered r :: units) failures (diff :: diffs) s'
  | failed {s s₁ s' : σ} {r : Rendered} {e : BuildError} {units : List Outcome}
      {failures : List BuildError} {diffs : List FileDiff} (hr : r.verdict = .wouldWrite)
      (hfound : FindsAgain r s (.error e) s₁) (hrest : LooksAgain s₁ units failures diffs s') :
      LooksAgain s (.rendered r :: units) (e :: failures) diffs s'

variable {s s' : σ} {r : Rendered} {answer : Except BuildError FileDiff}

theorem FindsAgain.runFrom_eq (h : FindsAgain r s answer s') :
    runFrom (diffOutput r) s = (answer, s') := by
  unfold diffOutput existingText
  cases h with
  | missing hfile =>
    rw [BuildM.runFrom_bind, BuildM.runFrom_bind_ok (runFrom_isFile_of_run hfile)]
    rfl
  | readable hfile hread =>
    rw [BuildM.runFrom_bind, BuildM.runFrom_bind_ok (runFrom_isFile_of_run hfile), if_pos rfl,
      BuildM.runFrom_bind_ok (runFrom_readFile_of_run hread)]
    rfl
  | unreadable hfile hread =>
    rw [BuildM.runFrom_bind, BuildM.runFrom_bind_ok (runFrom_isFile_of_run hfile), if_pos rfl,
      BuildM.runFrom_bind_error (runFrom_readFile_of_run hread)]

/-- Whatever the file system answers, something comes of the output. -/
theorem findsAgain_diffOutput (r : Rendered) (s : σ) :
    FindsAgain r s (runFrom (diffOutput r) s).1 (runFrom (diffOutput r) s).2 := by
  rcases hfile : (FileSystem.isFile r.output : StateM σ Bool).run s with ⟨_ | _, s₁⟩
  · have hfound : FindsAgain r s _ _ := .missing hfile
    rwa [hfound.runFrom_eq]
  · rcases hread : (FileSystem.read r.output : StateM σ (Except IoError Bytes)).run s₁ with
      ⟨e | content, s₂⟩
    · have hfound : FindsAgain r s _ _ := .unreadable hfile hread
      rwa [hfound.runFrom_eq]
    · have hfound : FindsAgain r s _ _ := .readable hfile hread
      rwa [hfound.runFrom_eq]

theorem Outcome.pending?_eq_none {o : Outcome}
    (h : ∀ r, o = .rendered r → r.verdict ≠ .wouldWrite) : o.pending? = none := by
  cases o with
  | rendered r => exact if_neg (h r rfl)
  | skipped => rfl
  | failed => rfl

theorem Outcome.pending?_rendered (h : r.verdict = .wouldWrite) :
    (Outcome.rendered r).pending? = some r := if_pos h

theorem Outcome.pending?_cases (o : Outcome) :
    (∀ r, o = .rendered r → r.verdict ≠ .wouldWrite) ∨
      ∃ r, o = .rendered r ∧ r.verdict = .wouldWrite := by
  by_cases h : ∃ r, o = .rendered r ∧ r.verdict = .wouldWrite
  · exact Or.inr h
  · exact Or.inl fun r ho hr => h ⟨r, ho, hr⟩

/-- The outputs that a dry run would write, compared one after the other. -/
def diffAll (units : List Outcome) : StateM σ (List (Except BuildError FileDiff)) :=
  (units.filterMap Outcome.pending?).mapM fun r => (diffOutput r).run

/-- Each unit comes to what it comes to when it is looked at once more. -/
theorem looksAgain_diffAll (b : Batch) (units : List Outcome) (s : σ) :
    LooksAgain s units (Comparison.mk b ((diffAll units).run s).1).failures
      (Comparison.mk b ((diffAll units).run s).1).diffs ((diffAll units).run s).2 := by
  induction units generalizing s with
  | nil => exact .nil s
  | cons o units ih =>
    unfold diffAll
    -- Only a unit that would be written touches the store, and the next one starts from there.
    obtain ho | ⟨r, rfl, hr⟩ := o.pending?_cases
    · rw [List.filterMap_cons_none (Outcome.pending?_eq_none ho)]
      exact .settled ho (ih s)
    · have hfound := findsAgain_diffOutput r s
      rw [List.filterMap_cons_some (Outcome.pending?_rendered hr), List.mapM_cons, run_bind_eq,
        BuildM.run_run]
      rcases hrun : runFrom (diffOutput r) s with ⟨_ | _, s₁⟩ <;> rw [hrun] at hfound
      · exact .failed hr hfound (ih s₁)
      · exact .compared hr hfound (ih s₁)

/-- No unit that would be written is dropped. -/
theorem LooksAgain.length_add_length {units : List Outcome} {failures : List BuildError}
    {diffs : List FileDiff} (h : LooksAgain s units failures diffs s') :
    failures.length + diffs.length = (units.filterMap Outcome.pending?).length := by
  induction h with
  | nil => rfl
  | settled ho _ ih => rw [List.filterMap_cons_none (Outcome.pending?_eq_none ho), ih]
  | compared hr _ _ ih =>
    rw [List.filterMap_cons_some (Outcome.pending?_rendered hr), List.length_cons,
      List.length_cons, ← ih]
    omega
  | failed hr _ _ ih =>
    rw [List.filterMap_cons_some (Outcome.pending?_rendered hr), List.length_cons,
      List.length_cons, ← ih]
    omega

/-- What has been found so far where outputs are looked at once more. -/
structure Findings where
  failures : List BuildError
  diffs : List FileDiff

/-- Looks at the output of a unit, if it would be written, and adds what is found. -/
def Findings.look {m : Type → Type} [Monad m] [FileSystem m] (found : Findings) :
    Outcome → m Findings
  | .rendered r => do
    if r.verdict = .wouldWrite then
      match ← (diffOutput r).run with
      | .ok diff => return { found with diffs := found.diffs ++ [diff] }
      | .error e => return { found with failures := found.failures ++ [e] }
    else return found
  | _ => return found

/-- Compares the templates one after the other, and says everything as it comes. The errors of the
outputs that cannot be read are said when all is done. -/
def reportComparison (templates : List Path) :
    StateM (Reported σ) (List Outcome × List FileDiff) := do
  let units ← reportAll .dryRun templates
  let found ← units.foldlM Findings.look ⟨[], []⟩
  found.failures.forM fun e => say ⟨.error, e.diagnostic⟩
  return (units, found.diffs)

theorem Outcome.bare_rendered (r : Rendered) : (rendered r).bare = rendered r := rfl

/-- What is found goes behind what was found before, and nothing is said. -/
theorem run_look_of_findsAgain (hr : r.verdict = .wouldWrite) (h : FindsAgain r s answer s')
    (j : Journal) (found : Findings) :
    (found.look (.rendered r) : StateM (Reported σ) Findings).run ⟨s, j⟩ =
      (match answer with
        | .ok diff => { found with diffs := found.diffs ++ [diff] }
        | .error e => { found with failures := found.failures ++ [e] }, ⟨s', j⟩) := by
  have hrun : runFrom (diffOutput r) (⟨s, j⟩ : Reported σ) = (answer, ⟨s', j⟩) :=
    runFrom_beside (simulates_diffOutput (Reported.actsAlike_beside j) r) h.runFrom_eq
  rw [Findings.look, if_pos hr, run_bind_eq, BuildM.run_run, hrun]
  cases answer <;> rfl

theorem run_look_of_settled {o : Outcome}
    (ho : ∀ r, o = .rendered r → r.verdict ≠ .wouldWrite) (t : Reported σ) (found : Findings) :
    (found.look o.bare : StateM (Reported σ) Findings).run t = (found, t) := by
  cases o with
  | rendered r =>
    rw [Outcome.bare_rendered, Findings.look, if_neg (ho r rfl)]
    rfl
  | skipped => rfl
  | failed => rfl

/-- The units are looked at in order, beside a journal in which nothing is said. -/
theorem run_foldlM_look {units : List Outcome} {failures : List BuildError} {diffs : List FileDiff}
    (h : LooksAgain s units failures diffs s') (j : Journal) (found : Findings) :
    ((units.map Outcome.bare).foldlM Findings.look found : StateM (Reported σ) Findings).run
        ⟨s, j⟩ =
      (⟨found.failures ++ failures, found.diffs ++ diffs⟩, ⟨s', j⟩) := by
  induction h generalizing found with
  | nil s =>
    rw [List.append_nil, List.append_nil]
    rfl
  | settled ho _ ih =>
    rw [List.map_cons, List.foldlM_cons, run_bind_eq, run_look_of_settled ho, ih]
  | compared hr hfound _ ih =>
    rw [List.map_cons, List.foldlM_cons, run_bind_eq, Outcome.bare_rendered,
      run_look_of_findsAgain hr hfound, ih, List.append_assoc]
    rfl
  | failed hr hfound _ ih =>
    rw [List.map_cons, List.foldlM_cons, run_bind_eq, Outcome.bare_rendered,
      run_look_of_findsAgain hr hfound, ih, List.append_assoc]
    rfl

omit [FileSystem (StateM σ)] in
theorem run_forM_say (failures : List BuildError) (s : σ) (j : Journal) :
    (failures.forM fun e => say ⟨.error, e.diagnostic⟩ : StateM (Reported σ) PUnit).run ⟨s, j⟩ =
      ((), ⟨s, (failures.map fun e => ⟨.error, e.diagnostic⟩).foldl Journal.push j⟩) := by
  induction failures generalizing j with
  | nil => rfl
  | cons e failures ih =>
    exact ih (j.push ⟨.error, e.diagnostic⟩)

/-- The units of the dry run, and what comes of looking at them once more. -/
theorem runComparison_looksAgain (templates : List Path) (s : σ) :
    let dry := runBatch .dryRun templates s
    let comparison := runComparison templates s
    comparison.1.batch = dry.1 ∧
      LooksAgain dry.2 dry.1.units comparison.1.failures comparison.1.diffs comparison.2 :=
  ⟨rfl, looksAgain_diffAll _ _ _⟩

/-- The lines of failures are errors. -/
theorem all_severity_failures (failures : List BuildError) :
    ((failures.map fun e => (⟨.error, e.diagnostic⟩ : LogEntry)).all (·.severity ≠ .error)) =
      failures.isEmpty := by
  cases failures <;> simp

/-- What is said while templates are compared is the log of the comparison, and no error was said if
and only if it succeeds. -/
theorem run_reportComparison (templates : List Path) (s : σ) :
    let comparison := runComparison templates s
    (reportComparison templates : StateM (Reported σ) (List Outcome × List FileDiff)).run
        ⟨s, .start⟩ =
      ((comparison.1.batch.units.map Outcome.bare, comparison.1.diffs),
        ⟨comparison.2, ⟨comparison.1.log, comparison.1.succeeded⟩⟩) := by
  obtain ⟨hbatch, hlooks⟩ := runComparison_looksAgain templates s
  dsimp only
  unfold reportComparison
  rw [run_bind_eq, run_reportAll]
  dsimp only
  rw [run_bind_eq, run_foldlM_look hlooks]
  dsimp only
  rw [run_bind_eq, List.nil_append, List.nil_append, run_forM_say, Journal.foldl_push,
    Comparison.log, Comparison.succeeded, hbatch, all_severity_failures]
  rfl

/-- A comparison reports its dry run, and the failures of looking at outputs once more. -/
structure Comparison.Covers (c : Comparison) (dry : Batch) (failures : List BuildError) : Prop where
  batch : c.batch = dry
  /-- No output that would be written is dropped. -/
  count : failures.length + c.diffs.length = (dry.units.filterMap Outcome.pending?).length
  log : c.log = dry.log ++ failures.map fun e => ⟨.error, e.diagnostic⟩
  succeeded : c.succeeded = false ↔ (∃ o ∈ dry.units, o.isFailed = true) ∨ failures ≠ []

theorem runComparison_covers (templates : List Path) (s : σ) :
    let comparison := (runComparison templates s).1
    comparison.Covers (runBatch .dryRun templates s).1 comparison.failures := by
  obtain ⟨hbatch, hlooks⟩ := runComparison_looksAgain templates s
  dsimp only at hbatch ⊢
  constructor
  · exact hbatch
  · exact hlooks.length_add_length
  · rw [Comparison.log, hbatch]
  · have hfailed : (runBatch .dryRun templates s).1.succeeded = false ↔
        ∃ o ∈ (runBatch .dryRun templates s).1.units, o.isFailed = true := by
      rw [← Bool.not_eq_true, Batch.succeeded_eq_true_iff]
      simp
    rw [Comparison.succeeded, hbatch, Bool.and_eq_false_iff, hfailed, List.isEmpty_eq_false_iff]

/-- Whatever the file system does, and however it changes meanwhile, a comparison writes nothing and
tells all: each unit of the dry run that would be written comes out as a diff against what is there,
or as an error behind the log of the dry run. -/
theorem runComparison_complete (templates : List Path) (s : σ) :
    let dry := runBatch .dryRun templates s
    let comparison := (runComparison templates s).1
    let after := (runComparison templates s).2
    (∀ writes, runComparison templates (⟨s, writes⟩ : Recorded σ) =
        (comparison, ⟨after, writes⟩)) ∧
      (∃ failures, LooksAgain dry.2 dry.1.units failures comparison.diffs after ∧
        comparison.Covers dry.1 failures) ∧
      (reportComparison templates : StateM (Reported σ) (List Outcome × List FileDiff)).run
          ⟨s, .start⟩ =
        ((dry.1.units.map Outcome.bare, comparison.diffs),
          ⟨after, ⟨comparison.log, comparison.succeeded⟩⟩) := by
  obtain ⟨hbatch, hlooks⟩ := runComparison_looksAgain templates s
  have hreport := run_reportComparison templates s
  dsimp only at hbatch hreport ⊢
  rw [hbatch] at hreport
  refine ⟨runComparison_recorded templates s, ⟨_, hlooks, ?_⟩, hreport⟩
  exact runComparison_covers templates s

end

/-- Two templates with their data and an old output each. The first output can be read once. -/
def flakyStore : Faulty Memory where
  inner := (((((Memory.empty.put ⟨"a.txt.mustache".toList⟩ [0x78]).put
    ⟨"a.txt.json".toList⟩ [0x7B, 0x7D]).put ⟨"a.txt".toList⟩ [0x79]).put
      ⟨"b.txt.mustache".toList⟩ [0x78]).put ⟨"b.txt.json".toList⟩ [0x7B, 0x7D]).put
        ⟨"b.txt".toList⟩ [0x79]
  reads := FaultPlan.none.add ⟨"a.txt".toList⟩ ⟨1, "gone"⟩
  writes := .none

example :
    let templates : List Path := [⟨"a.txt.mustache".toList⟩, ⟨"b.txt.mustache".toList⟩]
    let comparison := (runComparison templates flakyStore).1
    comparison.diffs.map FileDiff.path = [⟨"b.txt".toList⟩] ∧
      comparison.log.map LogEntry.severity = [.message, .message, .message, .error] := by
  decide +kernel

end MustacheBuild
