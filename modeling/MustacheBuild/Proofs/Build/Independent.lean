import MustacheBuild.Proofs.Build.DryRun
import MustacheBuild.Proofs.Build.Rebuild

/-!
Units that do not write each other's files are each built as if they were alone. So their order
makes no difference, and a dry run foresees what the build does.
-/
namespace MustacheBuild

open BuildM (runFrom)

namespace Memory

/-- The content of the file at a path, if there is one. -/
def bytes? (s : Memory) (p : Path) : Option Bytes := (s.file? p).map StampedFile.content

/-- The files of a template hold the same bytes in both, if they exist. -/
def AgreesFor (template : Path) (s s' : Memory) : Prop :=
  ∀ paths ∈ Companions.of? template, ∀ p ∈ [paths.template, paths.data, paths.output],
    s.bytes? p = s'.bytes? p

variable {mode : WriteMode} {template p : Path} {templates : List Path} {s s' : Memory}

theorem bytes?_put (s : Memory) (p q : Path) (content : Bytes) :
    (s.put p content).bytes? q =
      if q.components = p.components then some content else s.bytes? q := by
  rw [bytes?, file?_put]
  split <;> rfl

theorem isSome_file?_eq (h : s.bytes? p = s'.bytes? p) :
    (s.file? p).isSome = (s'.file? p).isSome := by
  simpa [bytes?] using congrArg Option.isSome h

theorem bytes?_of_components {q : Path} (h : p.components = q.components) (s : Memory) :
    s.bytes? p = s.bytes? q := by rw [bytes?, bytes?, file?, file?, h]

theorem read_eq (h : s.bytes? p = s'.bytes? p) : s.read p = s'.read p := by
  rw [bytes?, bytes?] at h
  rw [read, read]
  cases hs : s.file? p <;> cases hs' : s'.file? p <;> simp_all

/-- What a template's unit reads and writes is the same as long as its files hold the same bytes. -/
theorem simulates_agreesFor (mode : WriteMode) (template : Path) :
    Simulates (AgreesFor template) (buildOne mode template) (buildOne mode template) := by
  refine simulates_buildOne (fun paths hpaths => ⟨fun p hp => ⟨?_, ?_⟩, ?_⟩) mode
  · exact fun s s' h => ⟨isSome_file?_eq (h paths hpaths p hp), h⟩
  · exact fun s s' h => ⟨read_eq (h paths hpaths p hp), h⟩
  · intro content s s' h
    refine ⟨rfl, fun others hothers q hq => ?_⟩
    show (s.put paths.output content).bytes? q = (s'.put paths.output content).bytes? q
    rw [bytes?_put, bytes?_put, h others hothers q hq]

/-- A unit leaves the files of a template alone if its output is none of them. -/
theorem agreesFor_of_spares {other : Path} (h : Spares template other) (mode : WriteMode)
    (s : Memory) : AgreesFor other (runUnit mode template s).2 s := by
  intro others hothers p hp
  have hfile := (unitEffect_of_backed backed mode template s).file?_of_ne (p := p)
    fun paths hpaths => (h paths hpaths others hothers p hp).symm
  exact congrArg (Option.map StampedFile.content) hfile

/-- Where no unit writes a file of a later one, each comes to the outcome that it has alone. -/
theorem units_of_spares (h : templates.Pairwise Spares) (mode : WriteMode) (s : Memory) :
    (runBatch mode templates s).1.units =
      templates.map fun template => (runUnit mode template s).1 := by
  induction templates generalizing s with
  | nil => rfl
  | cons template templates ih =>
    obtain ⟨hhead, htail⟩ := List.pairwise_cons.1 h
    have hlater : ∀ later ∈ templates, (runUnit mode later (runUnit mode template s).2).1 =
        (runUnit mode later s).1 := fun later hmem =>
      (simulates_agreesFor mode later _ _ (agreesFor_of_spares (hhead later hmem) mode s)).1
    rw [runBatch_cons, ih htail, List.map_cons, List.map_congr_left hlater]

/-- Where no unit writes a file of another one, each leaves its files as it leaves them alone. -/
theorem agreesFor_runBatch (h : templates.Pairwise fun a b => Spares a b ∧ Spares b a)
    (mode : WriteMode) (s : Memory) (htemplate : template ∈ templates) :
    AgreesFor template (runBatch mode templates s).2 (runUnit mode template s).2 := by
  induction templates generalizing s with
  | nil => exact absurd htemplate List.not_mem_nil
  | cons first templates ih =>
    obtain ⟨hhead, htail⟩ := List.pairwise_cons.1 h
    rw [runBatch_cons]
    intro paths hpaths p hp
    rcases List.mem_cons.1 htemplate with rfl | hlater
    -- The units behind the first one leave its files alone.
    · have hp : ∀ later ∈ templates, ∀ others, Companions.of? later = some others →
          p.components ≠ others.output.components := fun later hlater others hothers =>
        ((hhead later hlater).2 others hothers paths hpaths p hp).symm
      exact congrArg (Option.map StampedFile.content) (keeps_file?_buildAll backed mode hp _)
    -- The first unit leaves the files of a later one alone, and that is built as if from `s`.
    · have hagree := agreesFor_of_spares (hhead template hlater).1 mode s
      rw [ih htail _ hlater paths hpaths p hp]
      exact (simulates_agreesFor mode template _ _ hagree).2 paths hpaths p hp

end Memory

/-- The order of units that do not write each other's files makes no difference: every file holds
the same bytes in the end, and each template has the outcome and the line of the log that it has
when it is built alone. -/
theorem runBatch_of_perm {templates others : List Path} (hperm : others.Perm templates)
    (hspares : templates.Pairwise fun a b => Spares a b ∧ Spares b a) (mode : WriteMode)
    (s : Memory) :
    let first := runBatch mode templates s
    let second := runBatch mode others s
    let outcome (template : Path) : Outcome := (runUnit mode template s).1
    (∀ p, second.2.bytes? p = first.2.bytes? p) ∧
      first.1.units = templates.map outcome ∧ second.1.units = others.map outcome ∧
      first.1.log.tail = templates.map (fun template => (outcome template).entry) ∧
      second.1.log.tail = others.map fun template => (outcome template).entry := by
  have hspares' : others.Pairwise fun a b => Spares a b ∧ Spares b a :=
    hperm.symm.pairwise hspares And.symm
  have hunits := Memory.units_of_spares (hspares.imp And.left) mode s
  have hunits' := Memory.units_of_spares (hspares'.imp And.left) mode s
  refine ⟨fun p => ?_, hunits, hunits', ?_, ?_⟩
  -- An output is as its unit leaves it in either order, and all else is as it was.
  · by_cases hp : ∃ template ∈ templates, ∃ paths ∈ Companions.of? template,
        p.components = paths.output.components
    · obtain ⟨template, htemplate, paths, hpaths, hp⟩ := hp
      rw [Memory.bytes?_of_components hp, Memory.bytes?_of_components hp,
        Memory.agreesFor_runBatch hspares mode s htemplate paths hpaths _ (by simp),
        Memory.agreesFor_runBatch hspares' mode s (hperm.mem_iff.2 htemplate) paths hpaths _
          (by simp)]
    · push Not at hp
      have hfile := keeps_file?_buildAll Memory.backed mode hp s
      have hfile' := keeps_file?_buildAll Memory.backed mode
        (fun template htemplate => hp template (hperm.mem_iff.1 htemplate)) s
      exact congrArg (Option.map StampedFile.content) (hfile'.trans hfile.symm)
  · rw [Batch.tail_log, hunits, List.map_map]
    rfl
  · rw [Batch.tail_log, hunits', List.map_map]
    rfl

/-- Two templates that are written and one that is not there, from either end. -/
theorem runBatch_of_perm_reversed :
    let s := unbuiltStore.put ⟨"c.txt.mustache".toList⟩ [0x78]
    let first := runBatch .ifChanged unbuiltTemplates s
    let second := runBatch .ifChanged unbuiltTemplates.reverse s
    (unbuiltTemplates.Pairwise fun a b => Spares a b ∧ Spares b a) ∧
      first.1.units.map Outcome.isWritten = [true, false, true] ∧
      (∀ p, second.2.bytes? p = first.2.bytes? p) ∧
      second.1.log.tail = unbuiltTemplates.reverse.map fun template =>
        (runUnit .ifChanged template s).1.entry := by
  intro s
  have hspares : unbuiltTemplates.Pairwise fun a b => Spares a b ∧ Spares b a := by
    decide +kernel
  have hperm : unbuiltTemplates.reverse.Perm unbuiltTemplates := List.reverse_perm _
  obtain ⟨hbytes, -, -, -, hlog⟩ := runBatch_of_perm hperm hspares .ifChanged s
  exact ⟨hspares, by decide +kernel, hbytes, hlog⟩

/-! ## Dry runs -/

def Verdict.foreseen : Verdict → Verdict
  | written => wouldWrite
  | v => v

/-- What is said before a unit is written. -/
def Outcome.foreseen : Outcome → Outcome
  | rendered r => rendered { r with verdict := r.verdict.foreseen }
  | o => o

/-- The text of a unit and the encoding in which it is written. -/
def Outcome.rendering? : Outcome → Option (Text × Encoding)
  | rendered r => some (r.text, r.encoding)
  | _ => none

namespace Outcome

theorem foreseen_of_ne_rendered {o : Outcome} (h : ∀ r, o ≠ rendered r) : o.foreseen = o := by
  cases o with
  | rendered r => exact absurd rfl (h r)
  | skipped => rfl
  | failed => rfl

theorem isWritten_foreseen (o : Outcome) : o.foreseen.isWritten = false := by
  cases o with
  | rendered r => cases hv : r.verdict <;> simp [foreseen, isWritten, Verdict.foreseen, hv]
  | skipped => rfl
  | failed => rfl

theorem isFailed_foreseen (o : Outcome) : o.foreseen.isFailed = o.isFailed := by
  cases o <;> rfl

theorem rendering?_foreseen (o : Outcome) : o.foreseen.rendering? = o.rendering? := by
  cases o <;> rfl

theorem changedOutput?_foreseen (o : Outcome) :
    o.foreseen.changedOutput? = o.changedOutput? := by
  cases o with
  | rendered r => cases hv : r.verdict <;> simp [foreseen, changedOutput?, Verdict.foreseen, hv]
  | skipped => rfl
  | failed => rfl

end Outcome

namespace Memory

/-- A dry run of the writing says what the writing does, as no write fails. -/
theorem runFrom_writeText_dryRun (p : Path) (t : Text) (e : Encoding) (s : Memory) :
    (runFrom (writeText .dryRun p t e) s).1 =
      (runFrom (writeText .ifChanged p t e) s).1.map Verdict.foreseen := by
  rcases hcheck : runFrom (isUpToDate p t e) s with ⟨_ | _ | _, s₁⟩
  · rw [runFrom_writeText_of_error (by decide) hcheck,
      runFrom_writeText_of_error (by decide) hcheck]
    rfl
  · rw [runFrom_writeText_dryRun_of_false hcheck, runFrom_writeText_ifChanged_of_false hcheck,
      runFrom_writeText_always, write_eq]
    rfl
  · rw [runFrom_writeText_of_true (by decide) hcheck,
      runFrom_writeText_of_true (by decide) hcheck]
    rfl

theorem runUnit_dryRun (template : Path) (s : Memory) :
    (runUnit .dryRun template s).1 = (runUnit .ifChanged template s).1.foreseen := by
  obtain ⟨s₁, -, ⟨o, -, ho, hrun⟩ | ⟨paths, unit, text, -, -, hrun⟩⟩ := runUnit_stages template s
  · rw [hrun, hrun, Outcome.foreseen_of_ne_rendered ho]
  · rw [hrun, hrun, Prod.map_fst, Prod.map_fst, runFrom_writeText_dryRun]
    cases (runFrom (writeText .ifChanged paths.output text unit.encoding) s₁).1 <;> rfl

end Memory

/-- Where no unit writes a file of a later one, a dry run changes nothing and foresees every unit of
the build: the same texts in the same encodings, the same outputs to change, the same failures. -/
theorem dryRun_foresees_build {templates : List Path} (hspares : templates.Pairwise Spares)
    (s : Memory) :
    let dry := runBatch .dryRun templates s
    let build := runBatch .ifChanged templates s
    dry.2 = s ∧ dry.1.units = build.1.units.map Outcome.foreseen ∧
      (∀ o ∈ dry.1.units, o.isWritten = false) ∧
      dry.1.succeeded = build.1.succeeded ∧
      dry.1.units.map Outcome.rendering? = build.1.units.map Outcome.rendering? ∧
      dry.1.changedOutputs = build.1.changedOutputs := by
  have hkeeps : Keeps (id : Memory → Memory) (buildAll .dryRun templates) :=
    keeps_buildAll fun template _ => keeps_buildOne_dryRun Quiet.readsKeep template
  have hunits : (runBatch .dryRun templates s).1.units =
      (runBatch .ifChanged templates s).1.units.map Outcome.foreseen := by
    rw [Memory.units_of_spares hspares, Memory.units_of_spares hspares, List.map_map]
    exact List.map_congr_left fun template _ => Memory.runUnit_dryRun template s
  dsimp only
  refine ⟨hkeeps s, hunits, ?_, ?_, ?_, ?_⟩
  · rw [hunits]
    simp [Outcome.isWritten_foreseen]
  · rw [Batch.succeeded, hunits, List.any_map]
    exact congrArg (fun f => !List.any _ f) (funext Outcome.isFailed_foreseen)
  · rw [hunits, List.map_map]
    exact congrArg (List.map · _) (funext Outcome.rendering?_foreseen)
  · rw [Batch.changedOutputs, hunits, List.filterMap_map]
    exact congrArg (List.filterMap · _) (funext Outcome.changedOutput?_foreseen)

theorem dryRun_foresees_unbuilt :
    let dry := runBatch .dryRun unbuiltTemplates unbuiltStore
    let build := runBatch .ifChanged unbuiltTemplates unbuiltStore
    unbuiltTemplates.Pairwise Spares ∧
      build.1.units.map Outcome.isWritten = [true, false, false] ∧ dry.2 = unbuiltStore ∧
      dry.1.units = build.1.units.map Outcome.foreseen ∧
      dry.1.changedOutputs = build.1.changedOutputs := by
  have hspares : unbuiltTemplates.Pairwise Spares := by decide +kernel
  obtain ⟨hstore, hunits, -, -, -, hchanged⟩ := dryRun_foresees_build hspares unbuiltStore
  exact ⟨hspares, by decide +kernel, hstore, hunits, hchanged⟩

end MustacheBuild
