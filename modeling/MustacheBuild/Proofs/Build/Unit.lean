import MustacheBuild.Build.Unit
import MustacheBuild.Proofs.Build.Write
import MustacheBuild.Proofs.Path.Companions

/-!
What the build of one template does to a store: it reads, and then writes the output if it writes
at all.
-/
namespace MustacheBuild

open BuildM (runFrom runFrom_bind_ok runFrom_bind_error)

namespace Outcome

/-- The template of a unit. -/
def template : Outcome → Path
  | rendered r => r.template
  | skipped p _ => p
  | failed p _ _ => p

/-- A unit whose output was written. -/
def isWritten : Outcome → Bool
  | rendered r => r.verdict = .written
  | _ => false

/-- The outcome of a unit that has been loaded. -/
def ofResult (template : Path) (choice : EncodingChoice) : Except BuildError Rendered → Outcome
  | .ok result => rendered result
  | .error e => failed template e (some choice)

theorem isWritten_eq_true_iff {o : Outcome} :
    o.isWritten = true ↔ ∃ r, o = rendered r ∧ r.verdict = .written := by
  cases o <;> simp [isWritten]

theorem isWritten_of_ne_rendered {o : Outcome} (h : ∀ r, o ≠ rendered r) : o.isWritten = false := by
  cases o with
  | rendered r => exact absurd rfl (h r)
  | skipped => rfl
  | failed => rfl

end Outcome

/-- What is said of a rendered text, for each answer to its writing. -/
def Rendered.ofVerdict (paths : Companions) (unit : SourceUnit) (text : Text) (v : Verdict) :
    Rendered where
  template := paths.template
  output := paths.output
  text := text
  choice := unit.choice
  verdict := v

/-- The outcome of a unit whose text has been rendered, for each answer to its writing. -/
def Outcome.ofAnswer (template : Path) (paths : Companions) (unit : SourceUnit) (text : Text)
    (answer : Except BuildError Verdict) : Outcome :=
  ofResult template unit.choice (answer.map (.ofVerdict paths unit text))

section
variable {σ γ : Type} [FileSystem (StateM σ)] {view : σ → γ}
variable {mode : WriteMode} {template : Path} {paths : Companions} {unit : SourceUnit} {s s₁ : σ}

omit [FileSystem (StateM σ)] in
theorem keeps_orStop {ε α : Type} (wrong : ε → BuildError) (result : Except ε α) :
    BuildM.Keeps view (orStop wrong result : BuildM (StateM σ) α) := fun _ => rfl

omit [FileSystem (StateM σ)] in
theorem runFrom_orStop_of_ok {ε α : Type} {wrong : ε → BuildError} {result : Except ε α} {a : α}
    (h : result = .ok a) :
    runFrom (orStop wrong result : BuildM (StateM σ) α) s = (.ok a, s) := by
  rw [h]
  rfl

omit [FileSystem (StateM σ)] in
theorem eq_ok_of_runFrom_orStop {ε α : Type} {wrong : ε → BuildError} {result : Except ε α} {a : α}
    (h : runFrom (orStop wrong result : BuildM (StateM σ) α) s = (.ok a, s₁)) :
    result = .ok a ∧ s₁ = s := by
  cases result <;> cases h
  exact ⟨rfl, rfl⟩

theorem keeps_loadUnit (h : ReadsKeep view) (paths : Companions) :
    BuildM.Keeps view (loadUnit paths) :=
  (keeps_readFile h _).bind fun _ => (keeps_orStop _ _).bind fun _ =>
    (keeps_orStop _ _).bind fun _ => (keeps_readFile h _).bind fun _ =>
      (keeps_orStop _ _).bind fun _ => BuildM.Keeps.pure view _

theorem keeps_missing? (h : ReadsKeep view) (paths : Companions) :
    BuildM.Keeps view (missing? paths) := by
  refine (keeps_isFile h _).bind fun template => ?_
  cases template with
  | false => exact BuildM.Keeps.pure view _
  | true =>
    refine (keeps_isFile h _).bind fun data => ?_
    cases data <;> exact BuildM.Keeps.pure view _

theorem keeps_loadTemplate (h : ReadsKeep view) (template : Path) :
    BuildM.Keeps view (loadTemplate template) := by
  rw [loadTemplate]
  split
  · exact BuildM.Keeps.throw view _
  · refine (keeps_missing? h _).bind fun missing => ?_
    cases missing with
    | some missing => exact BuildM.Keeps.pure view _
    | none => exact (keeps_loadUnit h _).bind fun _ => BuildM.Keeps.pure view _

section
variable [Quiet σ]

theorem runFrom_missing?_of_isFile (htemplate : Store.isFile s paths.template = true)
    (hdata : Store.isFile s paths.data = true) : runFrom (missing? paths) s = (.ok none, s) := by
  rw [missing?, runFrom_bind_ok (runFrom_isFile _ s), htemplate, if_pos rfl,
    runFrom_bind_ok (runFrom_isFile _ s), hdata]
  rfl

/-- A unit is loaded where both files can be read, the data file is in order, and an encoding that
is known is asked for. -/
theorem runFrom_loadUnit_of_ok {content bytes : Bytes} {data : Data} {field : Option Text}
    {choice : EncodingChoice} (hcontent : Store.read s paths.data = .ok content)
    (hdata : DataFile.load (Encoding.plainUtf8.decode content) paths.data.fileName = .ok data)
    (hfield : DataFile.encodingField data paths.data.fileName = .ok field)
    (hbytes : Store.read s paths.template = .ok bytes)
    (hchoice : chooseEncoding paths.data.fileName field bytes = .ok choice) :
    runFrom (loadUnit paths) s =
      (.ok { template := choice.resolved.decode bytes, templateFile := paths.template.fileName,
             dataText := Encoding.plainUtf8.decode content, dataFile := paths.data.fileName,
             choice, data }, s) := by
  rw [loadUnit, runFrom_bind_ok (runFrom_readFile_of_read hcontent)]
  dsimp only
  rw [runFrom_bind_ok (runFrom_orStop_of_ok hdata), runFrom_bind_ok (runFrom_orStop_of_ok hfield),
    runFrom_bind_ok (runFrom_readFile_of_read hbytes),
    runFrom_bind_ok (runFrom_orStop_of_ok hchoice)]
  rfl

theorem runFrom_loadTemplate_of_ok (hpaths : Companions.of? template = some paths)
    (htemplate : Store.isFile s paths.template = true)
    (hdata : Store.isFile s paths.data = true)
    (hload : runFrom (loadUnit paths) s = (.ok unit, s)) :
    runFrom (loadTemplate template) s = (.ok (.inr (paths, unit)), s) := by
  rw [loadTemplate, hpaths]
  dsimp only
  rw [runFrom_bind_ok (runFrom_missing?_of_isFile htemplate hdata)]
  dsimp only
  rw [runFrom_bind_ok hload]
  rfl

end

section
variable {τ : Type} [FileSystem (StateM τ)] {R : σ → τ → Prop}

omit [FileSystem (StateM σ)] [FileSystem (StateM τ)] in
theorem simulates_orStop {ε α : Type} (wrong : ε → BuildError) (result : Except ε α) :
    BuildM.Simulates R (orStop wrong result : BuildM (StateM σ) α) (orStop wrong result) :=
  fun _ _ h => ⟨rfl, h⟩

theorem simulates_loadUnit (htemplate : ReadsAlike R paths.template)
    (hdata : ReadsAlike R paths.data) : BuildM.Simulates R (loadUnit paths) (loadUnit paths) :=
  (simulates_readFile hdata).bind fun _ => .bind (simulates_orStop _ _) fun _ =>
    .bind (simulates_orStop _ _) fun _ => (simulates_readFile htemplate).bind fun _ =>
      .bind (simulates_orStop _ _) fun _ => .pure R _

theorem simulates_missing? (htemplate : ReadsAlike R paths.template)
    (hdata : ReadsAlike R paths.data) : BuildM.Simulates R (missing? paths) (missing? paths) := by
  refine (simulates_isFile htemplate).bind fun template => ?_
  cases template with
  | false => exact .pure R _
  | true =>
    refine (simulates_isFile hdata).bind fun data => ?_
    cases data <;> exact .pure R _

/-- What is loaded depends on the template and its data file alone. -/
theorem simulates_loadTemplate (h : ∀ paths, Companions.of? template = some paths →
    ReadsAlike R paths.template ∧ ReadsAlike R paths.data) :
    BuildM.Simulates R (loadTemplate template) (loadTemplate template) := by
  rw [loadTemplate, loadTemplate]
  split
  · exact .throw R _
  next paths hpaths =>
    obtain ⟨htemplate, hdata⟩ := h paths hpaths
    refine (simulates_missing? htemplate hdata).bind fun missing => ?_
    cases missing with
    | some missing => exact .pure R _
    | none => exact (simulates_loadUnit htemplate hdata).bind fun _ => .pure R _

theorem simulates_writeRendered (hreads : ReadsAlike R paths.output)
    (hwrites : WritesAlike R paths.output) (mode : WriteMode) (unit : SourceUnit) :
    BuildM.Simulates R (writeRendered mode paths unit) (writeRendered mode paths unit) :=
  .bind (simulates_orStop _ _) fun _ =>
    (simulates_writeText hreads hwrites mode _ _).bind fun _ => .pure R _

end

/-- The encoding of a unit was chosen by its data file and its template. -/
theorem exists_chooseEncoding_of_loadUnit (h : runFrom (loadUnit paths) s = (.ok unit, s₁)) :
    ∃ field bytes, chooseEncoding paths.data.fileName field bytes = .ok unit.choice := by
  obtain ⟨content, s₂, -, h⟩ := BuildM.eq_ok_of_runFrom_bind h
  obtain ⟨data, s₃, -, h⟩ := BuildM.eq_ok_of_runFrom_bind h
  obtain ⟨field, s₄, -, h⟩ := BuildM.eq_ok_of_runFrom_bind h
  obtain ⟨bytes, s₅, -, h⟩ := BuildM.eq_ok_of_runFrom_bind h
  obtain ⟨choice, s₆, hchoice, h⟩ := BuildM.eq_ok_of_runFrom_bind h
  cases h
  exact ⟨field, bytes, (eq_ok_of_runFrom_orStop hchoice).1⟩

/-- What has been loaded belongs to the template. -/
theorem loadUnit_of_loadTemplate
    (h : runFrom (loadTemplate template) s = (.ok (.inr (paths, unit)), s₁)) :
    Companions.of? template = some paths ∧ ∃ s₂, runFrom (loadUnit paths) s₂ = (.ok unit, s₁) := by
  rw [loadTemplate] at h
  split at h
  next => cases h
  next found hfound =>
    obtain ⟨missing, s₂, -, h⟩ := BuildM.eq_ok_of_runFrom_bind h
    split at h
    next => cases h
    next =>
      obtain ⟨unit', s₃, hload, h⟩ := BuildM.eq_ok_of_runFrom_bind h
      cases h
      exact ⟨hfound, s₂, hload⟩

theorem runFrom_writeRendered_of_error {e : InvalidTemplate}
    (h : renderWith unit.template unit.templateFile unit.data = .error e) :
    runFrom (writeRendered mode paths unit) s = (.error (.template e), s) := by
  rw [writeRendered, h]
  rfl

theorem runFrom_writeRendered_of_ok {text : Text}
    (h : renderWith unit.template unit.templateFile unit.data = .ok text) :
    runFrom (writeRendered mode paths unit) s =
      Prod.map (Except.map (Rendered.ofVerdict paths unit text)) id
        (runFrom (writeText mode paths.output text unit.encoding) s) := by
  have hrun : runFrom (writeRendered mode paths unit) s =
      runFrom (writeText mode paths.output text unit.encoding >>= fun v =>
        pure (Rendered.ofVerdict paths unit text v)) s := by
    rw [writeRendered, h]
    rfl
  rw [hrun, BuildM.runFrom_bind]
  rcases runFrom (writeText mode paths.output text unit.encoding) s with ⟨_ | _, _⟩ <;> rfl

/-- A unit, run from a state. -/
def runUnit (mode : WriteMode) (template : Path) (s : σ) : Outcome × σ :=
  (buildOne mode template : StateM σ Outcome).run s

/-- A template is loaded, and what has been loaded is rendered and written. -/
theorem runUnit_eq (mode : WriteMode) (template : Path) (s : σ) :
    runUnit mode template s =
      match runFrom (loadTemplate template) s with
      | (.error e, s₁) => (.failed template e none, s₁)
      | (.ok (.inl missing), s₁) => (.skipped template missing, s₁)
      | (.ok (.inr (paths, unit)), s₁) =>
        Prod.map (Outcome.ofResult template unit.choice) id
          (runFrom (writeRendered mode paths unit) s₁) := by
  rw [runUnit, buildOne, run_bind_eq, BuildM.run_run]
  rcases runFrom (loadTemplate template) s with ⟨_ | _ | ⟨paths, unit⟩, s₁⟩
  · rfl
  · rfl
  · dsimp only
    rw [run_bind_eq, BuildM.run_run]
    rcases runFrom (writeRendered mode paths unit) s₁ with ⟨_ | _, _⟩ <;> rfl

/-- From states in a relation a unit comes to the same outcome if its three files are read alike and
its output is written alike. -/
theorem simulates_buildOne {τ : Type} [FileSystem (StateM τ)] {R : σ → τ → Prop}
    (h : ∀ paths, Companions.of? template = some paths →
      (∀ p ∈ [paths.template, paths.data, paths.output], ReadsAlike R p) ∧
        WritesAlike R paths.output) (mode : WriteMode) :
    Simulates R (buildOne mode template : StateM σ Outcome) (buildOne mode template) := by
  intro s t hst
  have hload : BuildM.Simulates R (loadTemplate template) (loadTemplate template) :=
    simulates_loadTemplate fun paths hpaths =>
      ⟨(h paths hpaths).1 _ (by simp), (h paths hpaths).1 _ (by simp)⟩
  obtain ⟨hanswer, hstates⟩ := hload s t hst
  show (runUnit mode template s).1 = (runUnit mode template t).1 ∧
    R (runUnit mode template s).2 (runUnit mode template t).2
  rw [runUnit_eq, runUnit_eq]
  rcases hs : runFrom (loadTemplate template) s with ⟨answer, s₁⟩
  rcases ht : runFrom (loadTemplate template) t with ⟨answer', t₁⟩
  rw [hs, ht] at hanswer hstates
  obtain rfl : answer = answer' := hanswer
  rcases answer with e | missing | ⟨paths, unit⟩
  · exact ⟨rfl, hstates⟩
  · exact ⟨rfl, hstates⟩
  · obtain ⟨hreads, hwrites⟩ := h paths (loadUnit_of_loadTemplate hs).1
    obtain ⟨hrendered, hafter⟩ :=
      simulates_writeRendered (hreads _ (by simp)) hwrites mode unit s₁ t₁ hstates
    exact ⟨congrArg (Outcome.ofResult template unit.choice) hrendered, hafter⟩

/-- Whatever the mode, a unit stops before its output is looked at, or it comes to write the same
text from the same state. -/
theorem runUnit_stages (template : Path) (s : σ) :
    ∃ s₁, (runFrom (loadTemplate template) s).2 = s₁ ∧
      ((∃ o, o.template = template ∧ (∀ r, o ≠ .rendered r) ∧
          ∀ mode, runUnit mode template s = (o, s₁)) ∨
        ∃ paths unit text, runFrom (loadTemplate template) s = (.ok (.inr (paths, unit)), s₁) ∧
          renderWith unit.template unit.templateFile unit.data = .ok text ∧
          ∀ mode, runUnit mode template s =
            Prod.map (Outcome.ofAnswer template paths unit text) id
              (runFrom (writeText mode paths.output text unit.encoding) s₁)) := by
  rcases hload : runFrom (loadTemplate template) s with ⟨e | missing | ⟨paths, unit⟩, s₁⟩
  · refine ⟨s₁, rfl, Or.inl ⟨.failed template e none, rfl, ?_, fun mode => ?_⟩⟩
    · intro r
      simp
    · rw [runUnit_eq, hload]
  · refine ⟨s₁, rfl, Or.inl ⟨.skipped template missing, rfl, ?_, fun mode => ?_⟩⟩
    · intro r
      simp
    · rw [runUnit_eq, hload]
  · cases hrender : renderWith unit.template unit.templateFile unit.data with
    | error e =>
      refine ⟨s₁, rfl, Or.inl
        ⟨.failed template (.template e) (some unit.choice), rfl, ?_, fun mode => ?_⟩⟩
      · intro r
        simp
      · rw [runUnit_eq, hload]
        dsimp only
        rw [runFrom_writeRendered_of_error hrender]
        rfl
    | ok text =>
      refine ⟨s₁, rfl, Or.inr ⟨paths, unit, text, rfl, hrender, fun mode => ?_⟩⟩
      rw [runUnit_eq, hload]
      dsimp only
      rw [runFrom_writeRendered_of_ok hrender, Prod.map_map]
      rfl

theorem template_runUnit (mode : WriteMode) (template : Path) (s : σ) :
    (runUnit mode template s).1.template = template := by
  obtain ⟨s₁, -, ⟨o, ho, -, hrun⟩ | ⟨paths, unit, text, hload, -, hrun⟩⟩ :=
    runUnit_stages template s
  · rw [hrun]
    exact ho
  · rw [hrun]
    rcases runFrom (writeText mode paths.output text unit.encoding) s₁ with ⟨_ | v, s₂⟩
    · rfl
    · exact Companions.template_of? (loadUnit_of_loadTemplate hload).1

/-- What is rendered has been loaded, and its text is what the template says of the data. -/
theorem exists_of_runUnit_eq_rendered {r : Rendered}
    (h : (runUnit mode template s).1 = .rendered r) :
    ∃ paths unit s₁ text v, runFrom (loadTemplate template) s = (.ok (.inr (paths, unit)), s₁) ∧
      renderWith unit.template unit.templateFile unit.data = .ok text ∧
      r = .ofVerdict paths unit text v := by
  obtain ⟨s₁, -, ⟨o, -, ho, hrun⟩ | ⟨paths, unit, text, hload, hrender, hrun⟩⟩ :=
    runUnit_stages template s
  · rw [hrun] at h
    exact absurd h (ho r)
  · rw [hrun] at h
    rcases hwrite : runFrom (writeText mode paths.output text unit.encoding) s₁ with
      ⟨_ | v, s₂⟩ <;> rw [hwrite] at h <;> cases h
    exact ⟨paths, unit, s₁, text, v, hload, hrender, rfl⟩

/-- A unit reads, and then writes its output if it is a unit that writes. -/
theorem runUnit_cases (h : ReadsKeep view) (mode : WriteMode) (template : Path) (s : σ) :
    ∃ s₁, view s₁ = view s ∧
      ((∃ o, runUnit mode template s = (o, s₁) ∧ o.isWritten = false) ∨
        (mode ≠ .dryRun ∧ ∃ paths unit text, Companions.of? template = some paths ∧
          runUnit mode template s =
            match Store.write s₁ paths.output (unit.encoding.encode text) with
            | (.ok (), s₂) => (.rendered (.ofVerdict paths unit text .written), s₂)
            | (.error e, s₂) =>
              (.failed template (.io paths.output e) (some unit.choice), s₂))) := by
  have hview := keeps_loadTemplate h template s
  obtain ⟨s₁, rfl, ⟨o, -, ho, hrun⟩ | ⟨paths, unit, text, hload, -, hrun⟩⟩ :=
    runUnit_stages template s
  · exact ⟨_, hview, Or.inl ⟨o, hrun mode, Outcome.isWritten_of_ne_rendered ho⟩⟩
  rw [hrun]
  obtain ⟨s₂, hview₂, ⟨err, hwrite⟩ | ⟨-, hwrite⟩ | ⟨-, hwrite⟩ | ⟨hmode, hwrite⟩⟩ :=
    runFrom_writeText_cases h mode paths.output text unit.encoding
      (runFrom (loadTemplate template) s).2
  · rw [hwrite]
    exact ⟨s₂, hview₂.trans hview, Or.inl ⟨_, rfl, rfl⟩⟩
  · rw [hwrite]
    exact ⟨s₂, hview₂.trans hview, Or.inl ⟨_, rfl, rfl⟩⟩
  · rw [hwrite]
    exact ⟨s₂, hview₂.trans hview, Or.inl ⟨_, rfl, rfl⟩⟩
  · rw [hwrite, runFrom_writeText_always]
    refine ⟨s₂, hview₂.trans hview, Or.inr
      ⟨hmode, paths, unit, text, (loadUnit_of_loadTemplate hload).1, ?_⟩⟩
    rcases Store.write s₂ paths.output (unit.encoding.encode text) with ⟨_ | _, _⟩ <;> rfl

end
end MustacheBuild
