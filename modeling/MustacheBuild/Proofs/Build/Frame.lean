import MustacheBuild.Proofs.Build.Batch
import MustacheBuild.Proofs.Path.Companions

/-!
What a build leaves alone: every file, unless a unit is written, and then all but its output.
-/
namespace MustacheBuild

/-- One file was written, at the next tick of the clock, and no other was touched. -/
structure WrittenTo (p : Path) (content : Bytes) (before after : Memory) : Prop where
  file : after.file? p = some ⟨content, before.clock + 1⟩
  others : ∀ q : Path, q.components ≠ p.components → after.file? q = before.file? q

/-- What the build of a template does to the files, as its outcome tells. -/
structure UnitEffect (template : Path) (o : Outcome) (before after : Memory) : Prop where
  /-- Files and stamps are those before, unless the output was written. -/
  untouched : o.isWritten = false → after = before
  written : ∀ r, o = .rendered r → r.verdict = .written →
    (∃ paths, Companions.of? template = some paths ∧ r.output = paths.output) ∧
      WrittenTo r.output (r.encoding.encode r.text) before after
  ownTemplate : after.file? template = before.file? template
  ownData : ∀ paths, Companions.of? template = some paths →
    after.file? paths.data = before.file? paths.data

theorem Memory.writtenTo_put (s : Memory) (p : Path) (content : Bytes) :
    WrittenTo p content s (s.put p content) :=
  ⟨s.file?_put_self p content, fun _ hq => s.file?_put_of_ne content hq⟩

theorem UnitEffect.of_untouched (template : Path) {o : Outcome} (h : o.isWritten = false)
    (s : Memory) : UnitEffect template o s s where
  untouched _ := rfl
  written r hr hv := by
    have hwritten : o.isWritten = true := Outcome.isWritten_eq_true_iff.2 ⟨r, hr, hv⟩
    rw [h] at hwritten
    contradiction
  ownTemplate := rfl
  ownData _ _ := rfl

theorem UnitEffect.of_written {template : Path} {paths : Companions}
    (h : Companions.of? template = some paths) (unit : SourceUnit) (text : Text)
    {before after : Memory}
    (hw : WrittenTo paths.output (unit.encoding.encode text) before after) :
    UnitEffect template (.rendered (.ofVerdict paths unit text .written)) before after where
  untouched := nofun
  written r hr _ := by
    obtain rfl : Rendered.ofVerdict paths unit text .written = r := by simpa using hr
    exact ⟨⟨paths, h, rfl⟩, hw⟩
  ownTemplate := hw.others template (Companions.output_ne_template h).symm
  ownData found hfound := by
    obtain rfl : paths = found := by simpa [h] using hfound
    exact hw.others paths.data (Companions.output_ne_data h).symm

/-- A unit leaves every path that is not its output. -/
theorem UnitEffect.file?_of_ne {template p : Path} {o : Outcome} {before after : Memory}
    (h : UnitEffect template o before after)
    (hp : ∀ paths, Companions.of? template = some paths → p.components ≠ paths.output.components) :
    after.file? p = before.file? p := by
  cases ho : o.isWritten with
  | false => rw [h.untouched ho]
  | true =>
    obtain ⟨r, hr, hv⟩ := Outcome.isWritten_eq_true_iff.1 ho
    obtain ⟨⟨paths, hpaths, hout⟩, hw⟩ := h.written r hr hv
    exact hw.others p (hout ▸ hp paths hpaths)

section
variable {σ : Type} [FileSystem (StateM σ)] {files : σ → Memory}

/-- The reads of a unit change no file, and its write, if it fails, none either. -/
theorem unitEffect_of_backed (h : Backed files) (mode : WriteMode) (template : Path) (s : σ) :
    UnitEffect template (runUnit mode template s).1 (files s)
      (files (runUnit mode template s).2) := by
  obtain ⟨s₁, hfiles, ⟨o, hrun, ho⟩ | ⟨-, paths, unit, text, hpaths, hrun⟩⟩ :=
    runUnit_cases h.reads mode template s
  · rw [hrun, ← hfiles]
    exact .of_untouched template ho (files s₁)
  · rw [hrun, ← hfiles]
    rcases hwrite : Store.write s₁ paths.output (unit.encoding.encode text) with ⟨answer, s₂⟩
    have hcases := h.write s₁ paths.output (unit.encoding.encode text)
    rw [hwrite] at hcases
    obtain ⟨e, rfl, hsame⟩ | ⟨rfl, hput⟩ := hcases
    · dsimp only at hsame ⊢
      rw [hsame]
      exact .of_untouched template rfl (files s₁)
    · dsimp only at hput ⊢
      rw [hput]
      exact .of_written hpaths unit text (Memory.writtenTo_put _ _ _)

/-- A batch leaves every path that is no template's output. -/
theorem keeps_file?_buildAll (h : Backed files) (mode : WriteMode) {templates : List Path}
    {p : Path} (hp : ∀ template ∈ templates, ∀ paths, Companions.of? template = some paths →
      p.components ≠ paths.output.components) :
    Keeps (fun s => (files s).file? p) (buildAll mode templates) :=
  keeps_buildAll fun template htemplate s =>
    (unitEffect_of_backed h mode template s).file?_of_ne (hp template htemplate)

/-- Each unit of a batch changes at most its own output, as its outcome tells, and so the batch
leaves all paths that are no template's output. -/
theorem runBatch_frame (h : Backed files) (mode : WriteMode) (templates : List Path) (s : σ) :
    let filesBefore (i : Nat) : Memory := files (stateBefore mode templates s i)
    (runBatch mode templates s).1.units.length = templates.length ∧
      filesBefore 0 = files s ∧
      filesBefore templates.length = files (runBatch mode templates s).2 ∧
      (∀ (i : Nat) (ht : i < templates.length)
          (hu : i < (runBatch mode templates s).1.units.length),
        UnitEffect templates[i] (runBatch mode templates s).1.units[i] (filesBefore i)
          (filesBefore (i + 1))) ∧
      ∀ p : Path, (∀ template ∈ templates, ∀ paths, Companions.of? template = some paths →
          p.components ≠ paths.output.components) →
        (files (runBatch mode templates s).2).file? p = (files s).file? p := by
  refine ⟨length_units mode templates s, rfl, ?_, ?_, fun p hp => ?_⟩
  · exact congrArg files (stateBefore_length mode templates s)
  · exact units_forall (P := fun template o before after =>
      UnitEffect template o (files before) (files after))
      (unitEffect_of_backed h mode) templates s
  · exact keeps_file?_buildAll h mode hp s

end

/-- A template with its data. -/
def pageFiles : Memory :=
  (Memory.empty.put ⟨"a.txt.mustache".toList⟩ [0x78]).put ⟨"a.txt.json".toList⟩ [0x7B, 0x7D]

/-- That template, built twice. -/
def pageTwice : List Path := [⟨"a.txt.mustache".toList⟩, ⟨"a.txt.mustache".toList⟩]

/-- The data can be read once. -/
def pageFading : Faulty Memory :=
  ⟨pageFiles, FaultPlan.none.add ⟨"a.txt.json".toList⟩ ⟨1, "gone"⟩, .none⟩

/-- Only the very first access fails. -/
def pageRecovering : Scheduled Memory :=
  ⟨pageFiles, 0, fun n _ => if n = 0 then some ⟨.other, none, "busy"⟩ else none, fun _ _ => none⟩

/-- Where the second build fails, it leaves what the first one wrote; where the first one fails, the
second starts from the files as they were. -/
theorem runBatch_frame_page :
    ((runBatch .always pageTwice pageFading).1.units.map Outcome.isWritten = [true, false] ∧
      (runBatch .always pageTwice pageFading).2.inner =
        (stateBefore .always pageTwice pageFading 1).inner) ∧
    ((runBatch .always pageTwice pageRecovering).1.units.map Outcome.isWritten = [false, true] ∧
      ∃ r : Rendered, WrittenTo r.output (r.encoding.encode r.text) pageFiles
        (runBatch .always pageTwice pageRecovering).2.inner) := by
  have hfading : (runBatch .always pageTwice pageFading).1.units.map Outcome.isWritten =
      [true, false] := by decide +kernel
  have hrecovering : (runBatch .always pageTwice pageRecovering).1.units.map Outcome.isWritten =
      [false, true] := by decide +kernel
  have flag {flags : List Bool} {units : List Outcome} (h : units.map Outcome.isWritten = flags)
      (i : Nat) (hi : i < units.length) : flags[i]? = some units[i].isWritten := by
    rw [← h, List.getElem?_map, List.getElem?_eq_getElem hi, Option.map_some]
  refine ⟨⟨hfading, ?_⟩, hrecovering, ?_⟩
  · obtain ⟨hlength, -, hend, hunits, -⟩ :=
      runBatch_frame Faulty.backed .always pageTwice pageFading
    have hbound : 1 < (runBatch .always pageTwice pageFading).1.units.length := by
      rw [hlength]
      decide
    have hfailed := Option.some.inj (flag hfading 1 hbound)
    exact hend.symm.trans ((hunits 1 (by decide) hbound).untouched hfailed.symm)
  · obtain ⟨hlength, hstart, hend, hunits, -⟩ :=
      runBatch_frame Scheduled.backed .always pageTwice pageRecovering
    have hbound : 1 < (runBatch .always pageTwice pageRecovering).1.units.length := by
      rw [hlength]
      decide
    have hfailed := Option.some.inj (flag hrecovering 0 (by omega))
    have hwritten := Option.some.inj (flag hrecovering 1 hbound)
    have hfirst := (hunits 0 (by decide) (by omega)).untouched hfailed.symm
    obtain ⟨r, hr, hv⟩ := Outcome.isWritten_eq_true_iff.1 hwritten.symm
    have heffect := ((hunits 1 (by decide) hbound).written r hr hv).2
    rw [hfirst, hstart] at heffect
    exact ⟨r, hend ▸ heffect⟩

end MustacheBuild
