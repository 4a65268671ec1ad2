import MustacheBuild.Store.Faulty
import MustacheBuild.Store.Memory

/-!
What builds rely on: files are not changed by looking at them, and a file that has been written is
there with the content that was written.
-/
namespace MustacheBuild

section
variable {σ α β γ : Type}

theorem run_bind_eq (action : StateM σ α) (next : α → StateM σ β) (s : σ) :
    (action >>= next).run s = (next (action.run s).1).run (action.run s).2 := rfl

/-- An action leaves what a view of the state shows. -/
def Keeps (view : σ → γ) (action : StateM σ α) : Prop := ∀ s, view (action.run s).2 = view s

theorem Keeps.pure (view : σ → γ) (a : α) : Keeps view (Pure.pure a : StateM σ α) := fun _ => rfl

theorem Keeps.bind {view : σ → γ} {action : StateM σ α} {next : α → StateM σ β}
    (h : Keeps view action) (hnext : ∀ a, Keeps view (next a)) : Keeps view (action >>= next) :=
  fun s => (hnext _ _).trans (h s)

theorem Keeps.mapM {view : σ → γ} {action : α → StateM σ β} {l : List α}
    (h : ∀ a ∈ l, Keeps view (action a)) : Keeps view (l.mapM action) := by
  induction l with
  | nil => exact Keeps.pure view []
  | cons a l ih =>
    obtain ⟨ha, hl⟩ := List.forall_mem_cons.1 h
    rw [List.mapM_cons]
    exact ha.bind fun _ => (ih hl).bind fun _ => Keeps.pure view _

variable {τ : Type} {R : σ → τ → Prop}

/-- From states in a relation two actions give the same answer and lead to states in it. -/
def Simulates (R : σ → τ → Prop) (action : StateM σ α) (other : StateM τ α) : Prop :=
  ∀ s t, R s t → (action.run s).1 = (other.run t).1 ∧ R (action.run s).2 (other.run t).2

theorem Simulates.pure (R : σ → τ → Prop) (a : α) :
    Simulates R (Pure.pure a) (Pure.pure a) := fun _ _ hst => ⟨rfl, hst⟩

theorem Simulates.bind {action : StateM σ α} {other : StateM τ α} {next : α → StateM σ β}
    {nextOther : α → StateM τ β} (h : Simulates R action other)
    (hnext : ∀ a, Simulates R (next a) (nextOther a)) :
    Simulates R (action >>= next) (other >>= nextOther) := by
  intro s t hst
  obtain ⟨hanswer, hstates⟩ := h s t hst
  rw [run_bind_eq, run_bind_eq, ← hanswer]
  exact hnext _ _ _ hstates

theorem Simulates.mapM {action : α → StateM σ β} {other : α → StateM τ β} (l : List α)
    (h : ∀ a, Simulates R (action a) (other a)) : Simulates R (l.mapM action) (l.mapM other) := by
  induction l with
  | nil => exact Simulates.pure R []
  | cons a l ih =>
    rw [List.mapM_cons, List.mapM_cons]
    apply (h a).bind
    intro b
    apply ih.bind
    intro bs
    exact Simulates.pure R (b :: bs)

end

namespace Store

variable {σ : Type} [FileSystem (StateM σ)]

/-- Whether there is a file at a path. -/
def isFile (s : σ) (p : Path) : Bool := ((FileSystem.isFile p : StateM σ Bool).run s).1

/-- What is read at a path. -/
def read (s : σ) (p : Path) : Except IoError Bytes :=
  ((FileSystem.read p : StateM σ (Except IoError Bytes)).run s).1

/-- What is answered to a write, and the store behind it. -/
def write (s : σ) (p : Path) (content : Bytes) : Except IoError Unit × σ :=
  (FileSystem.write p content : StateM σ (Except IoError Unit)).run s

end Store

/-- One state beside one other. -/
def Exactly {σ τ : Type} (s : σ) (t : τ) : σ → τ → Prop := fun x y => x = s ∧ y = t

/-- Looking at a file and reading it from states in a relation gives the same answers and leads to
states in it. -/
structure ReadsAlike {σ τ : Type} [FileSystem (StateM σ)] [FileSystem (StateM τ)]
    (R : σ → τ → Prop) (p : Path) : Prop where
  isFile : Simulates R (FileSystem.isFile p : StateM σ Bool) (FileSystem.isFile p : StateM τ Bool)
  read : Simulates R (FileSystem.read p : StateM σ (Except IoError Bytes))
    (FileSystem.read p : StateM τ (Except IoError Bytes))

/-- Writing a file from states in a relation gives the same answer and leads to states in it. -/
def WritesAlike {σ τ : Type} [FileSystem (StateM σ)] [FileSystem (StateM τ)]
    (R : σ → τ → Prop) (p : Path) : Prop :=
  ∀ content, Simulates R (FileSystem.write p content : StateM σ (Except IoError Unit))
    (FileSystem.write p content : StateM τ (Except IoError Unit))

/-- All access to files from states in a relation gives the same answers and leads to states in
it. -/
structure ActsAlike {σ τ : Type} [FileSystem (StateM σ)] [FileSystem (StateM τ)]
    (R : σ → τ → Prop) : Prop where
  reads : ∀ p, ReadsAlike R p
  write : ∀ p content, Simulates R (FileSystem.write p content : StateM σ (Except IoError Unit))
    (FileSystem.write p content : StateM τ (Except IoError Unit))

/-- Looking at files and reading them leaves what a view of the store shows. -/
structure ReadsKeep {σ γ : Type} [FileSystem (StateM σ)] (view : σ → γ) : Prop where
  isFile : ∀ p, Keeps view (FileSystem.isFile p : StateM σ Bool)
  read : ∀ p, Keeps view (FileSystem.read p : StateM σ (Except IoError Bytes))

/-- A store that is not changed by looking at files and reading them. -/
class Quiet (σ : Type) [FileSystem (StateM σ)] : Prop where
  readsKeep : ReadsKeep (id : σ → σ)

/-- A quiet store in which a file that has been written is there, with the content written. -/
class Faithful (σ : Type) [FileSystem (StateM σ)] : Prop extends Quiet σ where
  isFile_of_write {s s' : σ} {p : Path} {content : Bytes}
    (h : Store.write s p content = (.ok (), s')) : Store.isFile s' p = true
  read_of_write {s s' : σ} {p : Path} {content : Bytes}
    (h : Store.write s p content = (.ok (), s')) : Store.read s' p = .ok content

namespace Memory

theorem write_eq (s : Memory) (p : Path) (content : Bytes) :
    Store.write s p content = (.ok (), s.put p content) := rfl

theorem file?_put_self (s : Memory) (p : Path) (content : Bytes) :
    (s.put p content).file? p = some ⟨content, s.clock + 1⟩ := by
  rw [file?_put, if_pos rfl]

theorem file?_put_of_ne (s : Memory) {p q : Path} (content : Bytes)
    (h : q.components ≠ p.components) : (s.put p content).file? q = s.file? q := by
  rw [file?_put, if_neg h]

/-- Two memories with the same file at a path are read alike there. -/
theorem readsAlike {s s' : Memory} {p : Path} (h : s.file? p = s'.file? p) :
    ReadsAlike (Exactly s s') p where
  isFile := by
    rintro _ _ ⟨rfl, rfl⟩
    exact ⟨congrArg Option.isSome h, rfl, rfl⟩
  read := by
    rintro x y ⟨rfl, rfl⟩
    refine ⟨?_, rfl, rfl⟩
    show x.read p = y.read p
    rw [Memory.read, Memory.read, h]

theorem isFile_of_read {s : Memory} {p : Path} {content : Bytes} (h : s.read p = .ok content) :
    Store.isFile s p = true := by
  show (s.file? p).isSome = true
  rw [Memory.read] at h
  cases hfile : s.file? p with
  | none =>
    rw [hfile] at h
    cases h
  | some f => rfl

/-- What is there can be read. -/
theorem exists_read {s : Memory} {p : Path} (h : Store.isFile s p = true) :
    ∃ content, Store.read s p = .ok content := by
  obtain ⟨f, hf⟩ : ∃ f, s.file? p = some f := Option.isSome_iff_exists.1 h
  refine ⟨f.content, ?_⟩
  show s.read p = _
  rw [Memory.read, hf]

instance : Faithful Memory where
  readsKeep := ⟨fun _ _ => rfl, fun _ _ => rfl⟩
  isFile_of_write {s s' p content} h := by
    obtain rfl : s.put p content = s' := (Prod.mk.inj h).2
    show ((s.put p content).file? p).isSome = true
    rw [file?_put_self]
    rfl
  read_of_write {s s' p content} h := by
    obtain rfl : s.put p content = s' := (Prod.mk.inj h).2
    show (s.put p content).read p = _
    rw [Memory.read, file?_put_self]

end Memory

namespace Faulty

variable {σ : Type} [FileSystem (StateM σ)]

/-- A read that fails touches no file, and one that goes through is a read of the store within. -/
theorem readsKeep_inner [Quiet σ] : ReadsKeep (inner : Faulty σ → σ) where
  isFile p s := Quiet.readsKeep.isFile p s.inner
  read p s := by
    show (StateT.run (FileSystem.read p : StateM (Faulty σ) _) s).2.inner = s.inner
    simp only [StateT.run, FileSystem.read]
    split
    · rfl
    · exact Quiet.readsKeep.read p s.inner

/-- A write fails and touches no file, or is a write to the store within. -/
theorem inner_write (s : Faulty σ) (p : Path) (content : Bytes) :
    (∃ e, (Store.write s p content).1 = .error e ∧ (Store.write s p content).2.inner = s.inner) ∨
      ((Store.write s p content).1 = (Store.write s.inner p content).1 ∧
        (Store.write s p content).2.inner = (Store.write s.inner p content).2) := by
  simp only [Store.write, StateT.run, FileSystem.write]
  split
  next e writes _ => exact Or.inl ⟨e, rfl, rfl⟩
  next => exact Or.inr ⟨rfl, rfl⟩

end Faulty

/-- A file system `σ` with a plan that decides on each access by its number: some fail, and later
ones may go through again. An access that fails does nothing. -/
structure Scheduled (σ : Type) where
  inner : σ
  /-- How often files were read or written so far. -/
  accesses : Nat
  reads : Nat → Path → Option IoError
  writes : Nat → Path → Option IoError

namespace Scheduled

variable {σ α : Type}

/-- The next access, which fails with the error that is planned for it, if there is one. -/
def access (planned : Option IoError) (action : StateM σ (Except IoError α)) :
    StateM (Scheduled σ) (Except IoError α) := fun s =>
  match planned with
  | some e => (.error e, { s with accesses := s.accesses + 1 })
  | none =>
    let (answer, inner) := action s.inner
    (answer, { s with inner, accesses := s.accesses + 1 })

instance [FileSystem (StateM σ)] : FileSystem (StateM (Scheduled σ)) where
  isFile p := fun s =>
    let (found, inner) := (FileSystem.isFile p : StateM σ Bool) s.inner
    (found, { s with inner })
  read p := fun s => access (s.reads s.accesses p) (FileSystem.read p) s
  write p content := fun s => access (s.writes s.accesses p) (FileSystem.write p content) s

/-- An access fails and touches no file, or is one to the store within. -/
theorem access_cases (planned : Option IoError) (action : StateM σ (Except IoError α))
    (s : Scheduled σ) :
    (∃ e, ((access planned action).run s).1 = .error e ∧
        ((access planned action).run s).2.inner = s.inner) ∨
      (((access planned action).run s).1 = (action.run s.inner).1 ∧
        ((access planned action).run s).2.inner = (action.run s.inner).2) := by
  cases planned with
  | some e => exact Or.inl ⟨e, rfl, rfl⟩
  | none => exact Or.inr ⟨rfl, rfl⟩

variable [FileSystem (StateM σ)]

theorem readsKeep_inner [Quiet σ] : ReadsKeep (inner : Scheduled σ → σ) where
  isFile p s := Quiet.readsKeep.isFile p s.inner
  read p s := by
    rcases access_cases (s.reads s.accesses p) (FileSystem.read p) s with ⟨e, -, hsame⟩ | ⟨-, hread⟩
    · exact hsame
    · exact hread.trans (Quiet.readsKeep.read p s.inner)

end Scheduled

/-- A store over files in memory: reads leave them alone, and a write goes into them or fails and
leaves them alone. -/
structure Backed {σ : Type} [FileSystem (StateM σ)] (files : σ → Memory) : Prop where
  reads : ReadsKeep files
  write : ∀ (s : σ) (p : Path) (content : Bytes),
    (∃ e, (Store.write s p content).1 = .error e ∧ files (Store.write s p content).2 = files s) ∨
      ((Store.write s p content).1 = .ok () ∧
        files (Store.write s p content).2 = (files s).put p content)

theorem Memory.backed : Backed (id : Memory → Memory) where
  reads := Quiet.readsKeep
  write _ _ _ := Or.inr ⟨rfl, rfl⟩

theorem Faulty.backed : Backed (Faulty.inner : Faulty Memory → Memory) where
  reads := readsKeep_inner
  write := inner_write

theorem Scheduled.backed : Backed (Scheduled.inner : Scheduled Memory → Memory) where
  reads := readsKeep_inner
  write s p content := access_cases (s.writes s.accesses p) (FileSystem.write p content) s

end MustacheBuild
