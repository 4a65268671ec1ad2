import MustacheBuild.Proofs.Build.Batch
import MustacheBuild.Store.Faulty

/-!
The log of a batch, line by line: each unit says one line, before the next unit begins, and no unit
changes what was said or is stopped by it.
-/
namespace MustacheBuild

open BuildM (runFrom)

namespace Outcome

/-- What remains of an outcome where a unit that stops gives nothing but its error. -/
def bare : Outcome → Outcome
  | failed p e _ => failed p e none
  | o => o

theorem severity_entry (o : Outcome) :
    o.entry.severity = match o with
      | rendered _ => .message
      | skipped _ _ => .warning
      | failed _ _ _ => .error := by
  match o with
  | rendered r =>
    rw [entry]
    cases r.verdict <;> rfl
  | skipped _ .template => rfl
  | skipped _ (.data _) => rfl
  | failed _ _ _ => rfl

end Outcome

/-- The lines that a build has said so far, and whether no error was among them. -/
structure Journal where
  entries : List LogEntry
  succeeded : Bool
  deriving DecidableEq, Repr

namespace Journal

def start : Journal := ⟨[], true⟩

def push (j : Journal) (entry : LogEntry) : Journal where
  entries := j.entries ++ [entry]
  succeeded := j.succeeded && entry.severity ≠ .error

end Journal

/-- A store with a journal beside it. -/
structure Reported (σ : Type) where
  store : σ
  journal : Journal

namespace Reported

variable {σ : Type}

/-- Acts on the store, and leaves the journal. -/
def lift {α : Type} (action : StateM σ α) : StateM (Reported σ) α := fun r =>
  let (a, store) := action r.store
  (a, { r with store })

instance [FileSystem (StateM σ)] : FileSystem (StateM (Reported σ)) where
  isFile p := lift (FileSystem.isFile p)
  read p := lift (FileSystem.read p)
  write p content := lift (FileSystem.write p content)

def say {m : Type → Type} [MonadState (Reported σ) m] (entry : LogEntry) : m Unit :=
  modify fun r => { r with journal := r.journal.push entry }

/-- A store beside itself with a journal. -/
def Beside (j : Journal) : σ → Reported σ → Prop := fun s r => r = ⟨s, j⟩

theorem actsAlike_beside [FileSystem (StateM σ)] (j : Journal) :
    ActsAlike (Beside j : σ → Reported σ → Prop) where
  reads p :=
    { isFile := by
        rintro s _ rfl
        exact ⟨rfl, rfl⟩
      read := by
        rintro s _ rfl
        exact ⟨rfl, rfl⟩ }
  write p content := by
    rintro s _ rfl
    exact ⟨rfl, rfl⟩

end Reported

open Reported (say)

section
variable {σ : Type} [FileSystem (StateM σ)]

/-- Builds one template and says what became of it, unless it stops at an error. -/
def reportOne (mode : WriteMode) (template : Path) : BuildM (StateM (Reported σ)) Outcome := do
  match ← loadTemplate template with
  | .inl missing =>
    let skipped := Outcome.skipped template missing
    say skipped.entry
    return skipped
  | .inr (paths, unit) =>
    let rendered := Outcome.rendered (← writeRendered mode paths unit)
    say rendered.entry
    return rendered

/-- An error is said here, as it was not said where it was found. -/
def reportUnit (mode : WriteMode) (template : Path) : StateM (Reported σ) Outcome := do
  match ← (reportOne mode template).run with
  | .ok o => return o
  | .error e =>
    say ⟨.error, e.diagnostic⟩
    return .failed template e none

/-- Builds the templates one after the other, and says everything as it comes. -/
def reportAll (mode : WriteMode) (templates : List Path) : StateM (Reported σ) (List Outcome) := do
  if templates.isEmpty then return []
  say ⟨.message, Batch.version⟩
  templates.mapM (reportUnit mode)

variable {s s₁ : σ} {j : Journal}

omit [FileSystem (StateM σ)] in
/-- What is done beside a journal is done as without it, as long as nothing is said. -/
theorem runFrom_beside {α : Type} {action : BuildM (StateM σ) α}
    {other : BuildM (StateM (Reported σ)) α} {answer : Except BuildError α}
    (h : BuildM.Simulates (Reported.Beside j) action other)
    (hrun : runFrom action s = (answer, s₁)) : runFrom other ⟨s, j⟩ = (answer, ⟨s₁, j⟩) := by
  obtain ⟨hanswer, hstates⟩ := h s ⟨s, j⟩ rfl
  rw [hrun] at hanswer hstates
  exact Prod.ext hanswer.symm hstates

/-- A unit stops without a word, or it says its line. -/
theorem runFrom_reportOne (mode : WriteMode) (template : Path) (s : σ) (j : Journal) :
    runFrom (reportOne mode template) ⟨s, j⟩ =
      match runUnit mode template s with
      | (.failed _ e _, s₁) => (.error e, ⟨s₁, j⟩)
      | (o, s₁) => (.ok o, ⟨s₁, j.push o.entry⟩) := by
  have hacts : ActsAlike (Reported.Beside j : σ → Reported σ → Prop) := Reported.actsAlike_beside j
  have hload : BuildM.Simulates (Reported.Beside j) (loadTemplate template)
      (loadTemplate template) :=
    simulates_loadTemplate fun paths _ => ⟨hacts.reads paths.template, hacts.reads paths.data⟩
  rw [runUnit_eq, reportOne, BuildM.runFrom_bind]
  rcases hrun : runFrom (loadTemplate template) s with ⟨_ | _ | ⟨paths, unit⟩, s₁⟩ <;>
    rw [runFrom_beside hload hrun]
  · rfl
  · have hwrite := simulates_writeRendered (hacts.reads _) (hacts.write paths.output) mode unit
    dsimp only
    rw [BuildM.runFrom_bind]
    rcases hrun' : runFrom (writeRendered mode paths unit) s₁ with ⟨_ | r, s₂⟩ <;>
      rw [runFrom_beside hwrite hrun'] <;> rfl

/-- A unit says its line, behind all that was said before. -/
theorem run_reportUnit (mode : WriteMode) (template : Path) (s : σ) (j : Journal) :
    (reportUnit mode template : StateM (Reported σ) Outcome).run ⟨s, j⟩ =
      ((runUnit mode template s).1.bare,
        ⟨(runUnit mode template s).2, j.push (runUnit mode template s).1.entry⟩) := by
  have htemplate := template_runUnit mode template s
  rw [reportUnit, run_bind_eq, BuildM.run_run, runFrom_reportOne]
  rcases hrun : runUnit mode template s with ⟨_ | _ | ⟨p, e, choice⟩, s₁⟩
  · rfl
  · rfl
  · rw [hrun] at htemplate
    obtain rfl : p = template := htemplate
    rfl

/-- The units of a batch say their lines one after the other, behind all that was said before. -/
theorem run_mapM_reportUnit (mode : WriteMode) (templates : List Path) (s : σ) (j : Journal) :
    (templates.mapM (reportUnit mode) : StateM (Reported σ) (List Outcome)).run ⟨s, j⟩ =
      ((runBatch mode templates s).1.units.map Outcome.bare,
        ⟨(runBatch mode templates s).2,
          ((runBatch mode templates s).1.units.map Outcome.entry).foldl Journal.push j⟩) := by
  induction templates generalizing s j with
  | nil => rfl
  | cons template templates ih =>
    rw [List.mapM_cons, run_bind_eq, run_reportUnit]
    dsimp only
    rw [run_bind_eq, ih, runBatch_cons]
    rfl

end

theorem Journal.foldl_push (entries : List LogEntry) (j : Journal) :
    entries.foldl Journal.push j =
      ⟨j.entries ++ entries, j.succeeded && entries.all (·.severity ≠ .error)⟩ := by
  induction entries generalizing j with
  | nil => simp
  | cons entry entries ih => simp [ih, push, Bool.and_assoc]

/-- The line that a unit says, in the severity of what became of it. -/
structure Reports (entry : LogEntry) (o : Outcome) : Prop where
  line : entry = o.entry
  message : entry.severity = .message ↔ ∃ r, o = .rendered r
  warning : entry.severity = .warning ↔ ∃ p missing, o = .skipped p missing
  error : entry.severity = .error ↔ o.isFailed = true

theorem Outcome.reports_entry (o : Outcome) : Reports o.entry o where
  line := rfl
  message := by
    rw [severity_entry]
    cases o <;> simp
  warning := by
    rw [severity_entry]
    cases o <;> simp
  error := by
    rw [severity_entry]
    cases o <;> simp [isFailed]

namespace Batch

theorem succeeded_eq_all_entries (b : Batch) :
    b.succeeded = (b.units.map Outcome.entry).all (·.severity ≠ .error) := by
  rw [Bool.eq_iff_iff, succeeded_eq_true_iff]
  simp [(Outcome.reports_entry _).error]

/-- A batch has a unit for each template, in order, and a line for each unit behind the version. It
succeeds as long as no unit fails. -/
structure Aligned (templates : List Path) (b : Batch) : Prop where
  templates_units : b.units.map Outcome.template = templates
  length_log : b.log.length = b.units.length + 1
  head_log : b.log.head? = some ⟨.message, version⟩
  line : ∀ (i : Nat) (hu : i < b.units.length) (hl : i + 1 < b.log.length),
    Reports b.log[i + 1] b.units[i]
  succeeded_iff : b.succeeded = true ↔ ∀ o ∈ b.units, o.isFailed = false

/-- One batch followed by another one, under the version of the first. -/
structure Joined (first rest whole : Batch) : Prop where
  units : whole.units = first.units ++ rest.units
  log : whole.log = first.log ++ rest.log.tail
  succeeded : whole.succeeded = (first.succeeded && rest.succeeded)

theorem aligned_of_ne_nil {b : Batch} (h : b.units ≠ []) :
    b.Aligned (b.units.map Outcome.template) where
  templates_units := rfl
  length_log := by simp [log_of_ne_nil h]
  head_log := by rw [log_of_ne_nil h, List.head?_cons]
  line i hu hl := by
    simp only [log_of_ne_nil h, List.getElem_cons_succ, List.getElem_map]
    exact Outcome.reports_entry _
  succeeded_iff := succeeded_eq_true_iff b

theorem joined_append {first : Batch} (h : first.units ≠ []) (rest : Batch) :
    Joined first rest ⟨first.units ++ rest.units⟩ where
  units := rfl
  log := log_append h rest
  succeeded := by simp [succeeded]

end Batch

/-- What is said while a batch runs is its log, and no error was said if and only if it succeeds. -/
theorem run_reportAll {σ : Type} [FileSystem (StateM σ)] (mode : WriteMode)
    (templates : List Path) (s : σ) :
    (reportAll mode templates : StateM (Reported σ) (List Outcome)).run ⟨s, .start⟩ =
      ((runBatch mode templates s).1.units.map Outcome.bare,
        ⟨(runBatch mode templates s).2,
          ⟨(runBatch mode templates s).1.log, (runBatch mode templates s).1.succeeded⟩⟩) := by
  rw [reportAll]
  by_cases hnil : templates = []
  · subst hnil
    rfl
  · have hunits : (runBatch mode templates s).1.units ≠ [] := units_ne_nil hnil mode s
    rw [if_neg (by simpa using hnil), run_bind_eq]
    have hsay : (say ⟨.message, Batch.version⟩ : StateM (Reported σ) Unit).run ⟨s, .start⟩ =
        ((), ⟨s, Journal.start.push ⟨.message, Batch.version⟩⟩) := rfl
    rw [hsay, run_mapM_reportUnit, Journal.foldl_push, Batch.log_of_ne_nil hunits,
      Batch.succeeded_eq_all_entries]
    rfl

/-- Whatever the file system does, a batch is aligned, its log is what is said while it runs, and it
is one part of it and then the other: a unit that fails is felt by later ones in files alone. -/
theorem runBatch_isolated {σ : Type} [FileSystem (StateM σ)] (mode : WriteMode)
    (templates : List Path) (s : σ) (h : templates ≠ []) :
    let batch := (runBatch mode templates s).1
    let after := (runBatch mode templates s).2
    batch.Aligned templates ∧
      (reportAll mode templates : StateM (Reported σ) (List Outcome)).run ⟨s, .start⟩ =
        (batch.units.map Outcome.bare, ⟨after, ⟨batch.log, batch.succeeded⟩⟩) ∧
      ∀ others : List Path,
        let rest := runBatch mode others after
        let whole := runBatch mode (templates ++ others) s
        batch.Joined rest.1 whole.1 ∧ whole.2 = rest.2 := by
  have hunits := units_ne_nil h mode s
  refine ⟨?_, run_reportAll mode templates s, fun others => ?_⟩
  · have haligned := Batch.aligned_of_ne_nil hunits
    rwa [map_template_units] at haligned
  · rw [runBatch_append]
    exact ⟨Batch.joined_append hunits _, rfl⟩

/-- Two templates with their data. The first one cannot be read. -/
def faultingStore : Faulty Memory where
  inner := (((Memory.empty.put ⟨"a.txt.mustache".toList⟩ [0x78]).put
    ⟨"a.txt.json".toList⟩ [0x7B, 0x7D]).put ⟨"c.txt.mustache".toList⟩ [0x78]).put
      ⟨"c.txt.json".toList⟩ [0x7B, 0x7D]
  reads := FaultPlan.none.add ⟨"a.txt.mustache".toList⟩ ⟨0, "gone"⟩
  writes := .none

/-- A unit that fails and one that is skipped do not stop the third one. -/
theorem runBatch_isolated_faulting :
    let templates : List Path := [⟨"a.txt.mustache".toList⟩, ⟨"b.txt.mustache".toList⟩]
    let others : List Path := [⟨"c.txt.mustache".toList⟩]
    let first := runBatch .ifChanged templates faultingStore
    let rest := runBatch .ifChanged others first.2
    let whole := runBatch .ifChanged (templates ++ others) faultingStore
    templates ≠ [] ∧ first.1.Aligned templates ∧ first.1.Joined rest.1 whole.1 ∧
      whole.1.log.map LogEntry.severity = [.message, .error, .warning, .message] := by
  intro templates others
  have htemplates : templates ≠ [] := by decide
  obtain ⟨haligned, -, hjoined⟩ :=
    runBatch_isolated .ifChanged templates faultingStore htemplates
  have hseverities : (runBatch .ifChanged (templates ++ others) faultingStore).1.log.map
      LogEntry.severity = [.message, .error, .warning, .message] := by
    decide +kernel
  exact ⟨htemplates, haligned, (hjoined others).1, hseverities⟩

end MustacheBuild
