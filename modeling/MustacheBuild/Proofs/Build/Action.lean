import MustacheBuild.Build.Write
import MustacheBuild.Proofs.Store.Laws

/-!
Runs of actions that may stop at an error, from a state of the store.
-/
namespace MustacheBuild
namespace BuildM

variable {σ τ α β γ : Type}

/-- What an action answers from a state, and the state behind it. -/
def runFrom (action : BuildM (StateM σ) α) (s : σ) : Except BuildError α × σ :=
  (ExceptT.run action).run s

theorem run_run (action : BuildM (StateM σ) α) (s : σ) :
    (ExceptT.run action).run s = runFrom action s := rfl

@[simp] theorem runFrom_pure (a : α) (s : σ) :
    runFrom (pure a : BuildM (StateM σ) α) s = (.ok a, s) := rfl

@[simp] theorem runFrom_throw (e : BuildError) (s : σ) :
    runFrom (throw e : BuildM (StateM σ) α) s = (.error e, s) := rfl

/-- The second action starts where the first one ended, if that did not stop. -/
theorem runFrom_bind (action : BuildM (StateM σ) α) (next : α → BuildM (StateM σ) β) (s : σ) :
    runFrom (action >>= next) s =
      match runFrom action s with
      | (.ok a, s') => runFrom (next a) s'
      | (.error e, s') => (.error e, s') := by
  have hrun : runFrom (action >>= next) s =
      ((ExceptT.bindCont next (runFrom action s).1 : StateM σ _).run (runFrom action s).2) := rfl
  rw [hrun]
  rcases runFrom action s with ⟨_ | _, _⟩ <;> rfl

theorem runFrom_bind_ok {action : BuildM (StateM σ) α} {next : α → BuildM (StateM σ) β}
    {s s' : σ} {a : α} (h : runFrom action s = (.ok a, s')) :
    runFrom (action >>= next) s = runFrom (next a) s' := by
  rw [runFrom_bind, h]

theorem runFrom_bind_error {action : BuildM (StateM σ) α} {next : α → BuildM (StateM σ) β}
    {s s' : σ} {e : BuildError} (h : runFrom action s = (.error e, s')) :
    runFrom (action >>= next) s = (.error e, s') := by
  rw [runFrom_bind, h]

/-- What has answered went through both actions. -/
theorem eq_ok_of_runFrom_bind {action : BuildM (StateM σ) α} {next : α → BuildM (StateM σ) β}
    {s s' : σ} {b : β} (h : runFrom (action >>= next) s = (.ok b, s')) :
    ∃ a s₁, runFrom action s = (.ok a, s₁) ∧ runFrom (next a) s₁ = (.ok b, s') := by
  rw [runFrom_bind] at h
  split at h
  next a s₁ ha => exact ⟨a, s₁, ha, h⟩
  next => cases h

/-- An action leaves what a view of the state shows, also when it stops. -/
def Keeps (view : σ → γ) (action : BuildM (StateM σ) α) : Prop :=
  ∀ s, view (runFrom action s).2 = view s

theorem Keeps.pure (view : σ → γ) (a : α) : Keeps view (Pure.pure a : BuildM (StateM σ) α) :=
  fun _ => rfl

theorem Keeps.throw (view : σ → γ) (e : BuildError) :
    Keeps view (MonadExcept.throw e : BuildM (StateM σ) α) := fun _ => rfl

theorem Keeps.bind {view : σ → γ} {action : BuildM (StateM σ) α}
    {next : α → BuildM (StateM σ) β} (h : Keeps view action) (hnext : ∀ a, Keeps view (next a)) :
    Keeps view (action >>= next) := by
  intro s
  have haction := h s
  rw [runFrom_bind]
  split
  next a s' ha =>
    rw [ha] at haction
    exact (hnext a s').trans haction
  next e s' he =>
    rw [he] at haction
    exact haction

/-- From states in a relation two actions give the same answer, or stop at the same error, and lead
to states in it. -/
def Simulates (R : σ → τ → Prop) (action : BuildM (StateM σ) α) (other : BuildM (StateM τ) α) :
    Prop :=
  ∀ s t, R s t →
    (runFrom action s).1 = (runFrom other t).1 ∧ R (runFrom action s).2 (runFrom other t).2

theorem Simulates.pure (R : σ → τ → Prop) (a : α) :
    Simulates R (Pure.pure a) (Pure.pure a) := fun _ _ h => ⟨rfl, h⟩

theorem Simulates.throw (R : σ → τ → Prop) (e : BuildError) :
    Simulates R (MonadExcept.throw e : BuildM (StateM σ) α) (MonadExcept.throw e) :=
  fun _ _ h => ⟨rfl, h⟩

theorem Simulates.bind {R : σ → τ → Prop} {action : BuildM (StateM σ) α}
    {other : BuildM (StateM τ) α} {next : α → BuildM (StateM σ) β}
    {nextOther : α → BuildM (StateM τ) β} (h : Simulates R action other)
    (hnext : ∀ a, Simulates R (next a) (nextOther a)) :
    Simulates R (action >>= next) (other >>= nextOther) := by
  intro s t hst
  obtain ⟨hanswer, hstates⟩ := h s t hst
  rw [runFrom_bind, runFrom_bind]
  rcases hs : runFrom action s with ⟨answer, s₁⟩
  rcases ht : runFrom other t with ⟨answer', t₁⟩
  rw [hs, ht] at hanswer hstates
  obtain rfl : answer = answer' := hanswer
  cases answer with
  | error e => exact ⟨rfl, hstates⟩
  | ok a => exact hnext a s₁ t₁ hstates

/-- Two states that are left as they are give the same answer. -/
theorem Simulates.of_exactly {s : σ} {t : τ} {action : BuildM (StateM σ) α}
    {other : BuildM (StateM τ) α} (h : Simulates (Exactly s t) action other) :
    ∃ answer, runFrom action s = (answer, s) ∧ runFrom other t = (answer, t) := by
  obtain ⟨hanswer, hs, ht⟩ := h s t ⟨rfl, rfl⟩
  exact ⟨(runFrom action s).1, Prod.ext rfl hs, Prod.ext hanswer.symm ht⟩

end BuildM

section

open BuildM (runFrom)

variable {σ τ γ : Type} [FileSystem (StateM σ)] [FileSystem (StateM τ)] {view : σ → γ}
variable {R : σ → τ → Prop} {p : Path}

theorem simulates_isFile (h : ReadsAlike R p) : BuildM.Simulates R (isFile p) (isFile p) :=
  fun s t hst => ⟨congrArg Except.ok (h.isFile s t hst).1, (h.isFile s t hst).2⟩

theorem simulates_readFile (h : ReadsAlike R p) : BuildM.Simulates R (readFile p) (readFile p) :=
  fun s t hst =>
    ⟨congrArg (Except.mapError (BuildError.io p)) (h.read s t hst).1, (h.read s t hst).2⟩

theorem simulates_writeFile (h : WritesAlike R p) (content : Bytes) :
    BuildM.Simulates R (writeFile p content) (writeFile p content) :=
  fun s t hst =>
    ⟨congrArg (Except.mapError (BuildError.io p)) (h content s t hst).1, (h content s t hst).2⟩

theorem keeps_isFile (h : ReadsKeep view) (p : Path) : BuildM.Keeps view (isFile p) := h.isFile p

theorem keeps_readFile (h : ReadsKeep view) (p : Path) : BuildM.Keeps view (readFile p) :=
  h.read p

theorem runFrom_isFile_of_run {s s' : σ} {there : Bool}
    (h : (FileSystem.isFile p : StateM σ Bool).run s = (there, s')) :
    runFrom (isFile p) s = (.ok there, s') :=
  congrArg (Prod.map Except.ok id) h

theorem runFrom_readFile_of_run {s s' : σ} {answer : Except IoError Bytes}
    (h : (FileSystem.read p : StateM σ (Except IoError Bytes)).run s = (answer, s')) :
    runFrom (readFile p) s = (answer.mapError (.io p), s') :=
  congrArg (Prod.map (Except.mapError (BuildError.io p)) id) h

theorem runFrom_isFile [Quiet σ] (p : Path) (s : σ) :
    runFrom (isFile p) s = (.ok (Store.isFile s p), s) :=
  Prod.ext rfl (keeps_isFile Quiet.readsKeep p s)

theorem runFrom_readFile [Quiet σ] (p : Path) (s : σ) :
    runFrom (readFile p) s = ((Store.read s p).mapError (.io p), s) :=
  Prod.ext rfl (keeps_readFile Quiet.readsKeep p s)

theorem runFrom_readFile_of_read [Quiet σ] {s : σ} {content : Bytes}
    (h : Store.read s p = .ok content) : runFrom (readFile p) s = (.ok content, s) := by
  rw [runFrom_readFile, h]
  rfl

theorem runFrom_writeFile (p : Path) (content : Bytes) (s : σ) :
    runFrom (writeFile p content) s =
      ((Store.write s p content).1.mapError (.io p), (Store.write s p content).2) := rfl

end
end MustacheBuild
