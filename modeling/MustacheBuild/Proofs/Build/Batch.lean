import MustacheBuild.Build.Batch
import MustacheBuild.Proofs.Build.Unit

/-!
A batch builds its units one after the other, each from the state that the one before it left.
-/
namespace MustacheBuild

variable {σ γ : Type} [FileSystem (StateM σ)] {view : σ → γ}

/-- A batch, run from a state. -/
def runBatch (mode : WriteMode) (templates : List Path) (s : σ) : Batch × σ :=
  (buildAll mode templates : StateM σ Batch).run s

theorem runBatch_nil (mode : WriteMode) (s : σ) : runBatch mode [] s = (⟨[]⟩, s) := rfl

theorem runBatch_cons (mode : WriteMode) (template : Path) (templates : List Path) (s : σ) :
    runBatch mode (template :: templates) s =
      (⟨(runUnit mode template s).1 ::
          (runBatch mode templates (runUnit mode template s).2).1.units⟩,
        (runBatch mode templates (runUnit mode template s).2).2) := by
  rw [runBatch, buildAll, List.mapM_cons]
  rfl

/-- A batch is one part and then the other, from the state that the first part left. -/
theorem runBatch_append (mode : WriteMode) (templates others : List Path) (s : σ) :
    runBatch mode (templates ++ others) s =
      (⟨(runBatch mode templates s).1.units ++
          (runBatch mode others (runBatch mode templates s).2).1.units⟩,
        (runBatch mode others (runBatch mode templates s).2).2) := by
  induction templates generalizing s with
  | nil => rfl
  | cons template templates ih => simp only [List.cons_append, runBatch_cons, ih]

/-- The state in which a unit is built, behind those before it. -/
def stateBefore (mode : WriteMode) (templates : List Path) (s : σ) (i : Nat) : σ :=
  (runBatch mode (templates.take i) s).2

@[simp] theorem stateBefore_zero (mode : WriteMode) (templates : List Path) (s : σ) :
    stateBefore mode templates s 0 = s := rfl

@[simp] theorem stateBefore_length (mode : WriteMode) (templates : List Path) (s : σ) :
    stateBefore mode templates s templates.length = (runBatch mode templates s).2 := by
  rw [stateBefore, List.take_length]

@[simp] theorem stateBefore_cons_succ (mode : WriteMode) (template : Path) (templates : List Path)
    (s : σ) (i : Nat) : stateBefore mode (template :: templates) s (i + 1) =
      stateBefore mode templates (runUnit mode template s).2 i := by
  rw [stateBefore, List.take_succ_cons, runBatch_cons]
  rfl

@[simp] theorem length_units (mode : WriteMode) (templates : List Path) (s : σ) :
    (runBatch mode templates s).1.units.length = templates.length := by
  induction templates generalizing s with
  | nil => rfl
  | cons template templates ih =>
    rw [runBatch_cons, List.length_cons, List.length_cons, ih]

@[simp] theorem map_template_units (mode : WriteMode) (templates : List Path) (s : σ) :
    (runBatch mode templates s).1.units.map Outcome.template = templates := by
  induction templates generalizing s with
  | nil => rfl
  | cons template templates ih =>
    rw [runBatch_cons, List.map_cons, template_runUnit, ih]

theorem units_ne_nil {templates : List Path} (h : templates ≠ []) (mode : WriteMode) (s : σ) :
    (runBatch mode templates s).1.units ≠ [] := by
  rw [← List.length_pos_iff, length_units]
  exact List.length_pos_iff.2 h

/-- What holds of the build of every template from every state holds of each unit of a batch. -/
theorem units_forall {P : Path → Outcome → σ → σ → Prop} {mode : WriteMode}
    (h : ∀ template s, P template (runUnit mode template s).1 s (runUnit mode template s).2)
    (templates : List Path) (s : σ) (i : Nat) (ht : i < templates.length)
    (hu : i < (runBatch mode templates s).1.units.length) :
    P templates[i] (runBatch mode templates s).1.units[i] (stateBefore mode templates s i)
      (stateBefore mode templates s (i + 1)) := by
  induction templates generalizing s i with
  | nil => exact absurd ht (Nat.not_lt_zero i)
  | cons template templates ih =>
    simp only [runBatch_cons]
    cases i with
    | zero => simpa using h template s
    | succ i =>
      simpa using ih (runUnit mode template s).2 i (Nat.lt_of_succ_lt_succ ht) (by simpa using ht)

theorem exists_runUnit_of_mem_units {mode : WriteMode} {templates : List Path} {s : σ} {o : Outcome}
    (h : o ∈ (runBatch mode templates s).1.units) :
    ∃ template ∈ templates, ∃ s' : σ, o = (runUnit mode template s').1 := by
  induction templates generalizing s with
  | nil => exact absurd h List.not_mem_nil
  | cons template templates ih =>
    simp only [runBatch_cons, List.mem_cons] at h
    rcases h with rfl | h
    · exact ⟨template, List.mem_cons_self, s, rfl⟩
    · obtain ⟨other, hother, s', ho⟩ := ih h
      exact ⟨other, List.mem_cons_of_mem _ hother, s', ho⟩

/-- A batch leaves what each of its units leaves. -/
theorem keeps_buildAll {mode : WriteMode} {templates : List Path}
    (h : ∀ template ∈ templates, Keeps view (buildOne mode template)) :
    Keeps view (buildAll mode templates) :=
  (Keeps.mapM h).bind fun _ => Keeps.pure view _

namespace Batch

theorem succeeded_eq_true_iff (b : Batch) :
    b.succeeded = true ↔ ∀ o ∈ b.units, o.isFailed = false := by
  simp [succeeded]

theorem log_of_ne_nil {b : Batch} (h : b.units ≠ []) :
    b.log = ⟨.message, version⟩ :: b.units.map Outcome.entry := by
  rw [log, if_neg (by simpa using h)]

/-- Behind the version stands a line for each unit. -/
theorem tail_log (b : Batch) : b.log.tail = b.units.map Outcome.entry := by
  by_cases h : b.units = []
  · simp [log, h]
  · rw [log_of_ne_nil h, List.tail_cons]

theorem log_append {first : Batch} (h : first.units ≠ []) (rest : Batch) :
    (Batch.mk (first.units ++ rest.units)).log = first.log ++ rest.log.tail := by
  rw [log_of_ne_nil (by simp [h]), log_of_ne_nil h, tail_log, List.map_append, List.cons_append]

theorem changedOutputs_eq_nil_iff (b : Batch) :
    b.changedOutputs = [] ↔ ∀ o ∈ b.units, o.changedOutput? = none :=
  List.filterMap_eq_nil_iff

end Batch
end MustacheBuild
