import MustacheBuild.Proofs.Store.Laws

/-!
What modification times in memory tell: which files were written between two states of a run, and
which of two files was written later.
-/
namespace MustacheBuild

/-- What is done with files in memory. A text is written encoded, and read as bytes that are then
decoded. -/
inductive Access where
  | add (p : Path) (content : Bytes)
  | write (p : Path) (content : Bytes)
  | writeText (p : Path) (t : Text) (e : Encoding)
  | isFile (p : Path)
  | read (p : Path)

namespace Access

/-- The memory behind an access. -/
def after (s : Memory) : Access → Memory
  | add p content => s.put p content
  | write p content => (Store.write s p content).2
  | writeText p t e => (Store.write s p (e.encode t)).2
  | isFile p => ((FileSystem.isFile p : StateM Memory Bool).run s).2
  | read p => ((FileSystem.read p : StateM Memory (Except IoError Bytes)).run s).2

/-- The memory behind a run of accesses. -/
def run (s : Memory) (accesses : List Access) : Memory := accesses.foldl after s

/-- The path that is written, if the access is a write. -/
def target? : Access → Option Path
  | add p _ | write p _ | writeText p _ _ => some p
  | isFile _ | read _ => none

/-- The access writes the file at a path, however the path is spelled. -/
def Writes (a : Access) (p : Path) : Prop := ∃ q, a.target? = some q ∧ q.components = p.components

end Access

/-- The times in a memory lie between the first tick of the clock and the last one, and no tick is
the time of two files. -/
structure Memory.Stamped (s : Memory) : Prop where
  bounds : ∀ p time, s.modified p = .ok time → 1 ≤ time ∧ time ≤ s.clock
  apart : ∀ p q time, s.modified p = .ok time → s.modified q = .ok time →
    p.components = q.components

/-- What the time `now` of a file tells in a state `s`, behind a run that began when the time of the
file was `time`: whether the file was written in between, and which files were not written since. -/
structure TellsWrites (between : List Access) (s : Memory) (p : Path) (time now : Nat) : Prop where
  same_iff : now = time ↔ ∀ a ∈ between, ¬ a.Writes p
  later : (∃ a ∈ between, a.Writes p) → time < now
  latest : ∀ before a behind, between = before ++ a :: behind → a.Writes p →
    (∀ b ∈ behind, ¬ b.Writes p) → ∀ q other, q.components ≠ p.components →
      (∀ b ∈ behind, ¬ b.Writes q) → s.modified q = .ok other → other < now

section
variable {s : Memory} {p q : Path} {content : Bytes} {time : Nat} {a : Access}
  {accesses : List Access}

namespace Memory

theorem modified_put_of_eq (h : q.components = p.components) :
    (s.put p content).modified q = .ok (s.clock + 1) := by
  rw [modified, file?_put, if_pos h]

theorem modified_put_of_ne (h : q.components ≠ p.components) :
    (s.put p content).modified q = s.modified q := by
  rw [modified, modified, file?_put, if_neg h]

/-- The files that are there are those that have a time. -/
theorem isFile_iff_modified : Store.isFile s p = true ↔ ∃ time, s.modified p = .ok time := by
  show (s.file? p).isSome = true ↔ _
  rw [modified]
  cases s.file? p with
  | none => simp
  | some f => simp

theorem modified_empty (p : Path) (time : Nat) : Memory.empty.modified p ≠ .ok time := nofun

theorem stamped_empty : Memory.empty.Stamped where
  bounds p time h := absurd h (modified_empty p time)
  apart p _ time h := absurd h (modified_empty p time)

/-- A file that is written gets a time that no file has, since all others are at most the clock. -/
theorem Stamped.put (h : s.Stamped) (p : Path) (content : Bytes) : (s.put p content).Stamped where
  bounds q time hq := by
    rw [clock_put]
    by_cases hpath : q.components = p.components
    · rw [modified_put_of_eq hpath] at hq
      obtain rfl : s.clock + 1 = time := Except.ok.inj hq
      omega
    · rw [modified_put_of_ne hpath] at hq
      obtain ⟨hfirst, hlast⟩ := h.bounds q time hq
      omega
  apart q r time hq hr := by
    have hold : ∀ x : Path, s.modified x ≠ .ok (s.clock + 1) := by
      intro x hx
      have := (h.bounds x _ hx).2
      omega
    by_cases hq' : q.components = p.components <;> by_cases hr' : r.components = p.components
    · rw [hq', hr']
    · rw [modified_put_of_eq hq'] at hq
      rw [modified_put_of_ne hr', ← hq] at hr
      exact absurd hr (hold r)
    · rw [modified_put_of_eq hr'] at hr
      rw [modified_put_of_ne hq', ← hr] at hq
      exact absurd hq (hold q)
    · rw [modified_put_of_ne hq'] at hq
      rw [modified_put_of_ne hr'] at hr
      exact h.apart q r time hq hr

end Memory

namespace Access

/-! ## One access -/

/-- An access leaves the memory as it is or puts a file into it. -/
theorem after_cases (s : Memory) (a : Access) :
    (a.target? = none ∧ a.after s = s) ∨
      ∃ p content, a.target? = some p ∧ a.after s = s.put p content := by
  cases a with
  | add p content | write p content => exact Or.inr ⟨p, content, rfl, rfl⟩
  | writeText p t e => exact Or.inr ⟨p, e.encode t, rfl, rfl⟩
  | isFile p | read p => exact Or.inl ⟨rfl, rfl⟩

theorem not_writes_of_target? (h : a.target? = none) (p : Path) : ¬ a.Writes p := by
  rintro ⟨q, hq, -⟩
  rw [h] at hq
  contradiction

theorem writes_iff (h : a.target? = some q) : a.Writes p ↔ p.components = q.components := by
  simp [Writes, h, eq_comm]

theorem Writes.not_of_ne (h : a.Writes p) (hq : q.components ≠ p.components) : ¬ a.Writes q := by
  rintro ⟨r, hr, hrq⟩
  obtain ⟨r', hr', hrp⟩ := h
  obtain rfl : r = r' := Option.some.inj (hr.symm.trans hr')
  exact hq (hrq.symm.trans hrp)

theorem clock_le_after (s : Memory) (a : Access) : s.clock ≤ (a.after s).clock := by
  rcases after_cases s a with ⟨-, h⟩ | ⟨p, content, -, h⟩
  · exact Nat.le_of_eq (congrArg Memory.clock h.symm)
  · rw [h]
    exact Nat.le_succ s.clock

theorem stamped_after (h : s.Stamped) (a : Access) : (a.after s).Stamped := by
  rcases after_cases s a with ⟨-, hafter⟩ | ⟨p, content, -, hafter⟩ <;> rw [hafter]
  · exact h
  · exact h.put p content

theorem modified_after_of_writes (h : a.Writes p) (s : Memory) :
    (a.after s).modified p = .ok (s.clock + 1) := by
  rcases after_cases s a with ⟨htarget, -⟩ | ⟨q, content, htarget, hafter⟩
  · exact absurd h (not_writes_of_target? htarget p)
  · rw [hafter, Memory.modified_put_of_eq ((writes_iff htarget).1 h)]

theorem modified_after_of_not_writes (h : ¬ a.Writes p) (s : Memory) :
    (a.after s).modified p = s.modified p := by
  rcases after_cases s a with ⟨-, hafter⟩ | ⟨q, content, htarget, hafter⟩
  · rw [hafter]
  · rw [hafter, Memory.modified_put_of_ne fun hpath => h ((writes_iff htarget).2 hpath)]

/-! ## Runs -/

theorem run_append (s : Memory) (accesses more : List Access) :
    run s (accesses ++ more) = run (run s accesses) more := List.foldl_append

theorem clock_le_run (s : Memory) (accesses : List Access) : s.clock ≤ (run s accesses).clock := by
  induction accesses generalizing s with
  | nil => exact Nat.le_refl _
  | cons a accesses ih => exact Nat.le_trans (clock_le_after s a) (ih (a.after s))

theorem stamped_run (h : s.Stamped) (accesses : List Access) : (run s accesses).Stamped := by
  induction accesses generalizing s with
  | nil => exact h
  | cons a accesses ih => exact ih (stamped_after h a)

theorem modified_run_of_not_writes (h : ∀ a ∈ accesses, ¬ a.Writes p) (s : Memory) :
    (run s accesses).modified p = s.modified p := by
  induction accesses generalizing s with
  | nil => rfl
  | cons a accesses ih =>
    obtain ⟨ha, hrest⟩ := List.forall_mem_cons.1 h
    exact (ih hrest (a.after s)).trans (modified_after_of_not_writes ha s)

/-- The last write decides the time, and it is later than all that was before it. -/
theorem modified_run_of_last {behind : List Access} (h : a.Writes p)
    (hbehind : ∀ b ∈ behind, ¬ b.Writes p) (s : Memory) (accesses : List Access) :
    (run s (accesses ++ a :: behind)).modified p = .ok ((run s accesses).clock + 1) := by
  rw [run_append]
  exact (modified_run_of_not_writes hbehind _).trans (modified_after_of_writes h _)

/-- A file that was not written since the last write to another one has an earlier time. -/
theorem modified_lt_of_last (h : s.Stamped) {before behind : List Access} {now other : Nat}
    (ha : a.Writes p) (hbehind : ∀ b ∈ behind, ¬ b.Writes p) (hq : q.components ≠ p.components)
    (hsince : ∀ b ∈ behind, ¬ b.Writes q)
    (hnow : (run s (before ++ a :: behind)).modified p = .ok now)
    (hother : (run s (before ++ a :: behind)).modified q = .ok other) : other < now := by
  rw [modified_run_of_last ha hbehind] at hnow
  obtain rfl : (run s before).clock + 1 = now := Except.ok.inj hnow
  have hnone : ∀ b ∈ a :: behind, ¬ b.Writes q :=
    List.forall_mem_cons.2 ⟨ha.not_of_ne hq, hsince⟩
  rw [run_append, modified_run_of_not_writes hnone] at hother
  have := ((stamped_run h before).bounds q other hother).2
  omega

/-- Of the writes to a path one is the last. -/
theorem exists_last (h : ∃ a ∈ accesses, a.Writes p) : ∃ before a behind,
    accesses = before ++ a :: behind ∧ a.Writes p ∧ ∀ b ∈ behind, ¬ b.Writes p := by
  induction accesses with
  | nil => simp at h
  | cons first accesses ih =>
    by_cases hrest : ∃ a ∈ accesses, a.Writes p
    · obtain ⟨before, a, behind, rfl, hlast⟩ := ih hrest
      exact ⟨first :: before, a, behind, rfl, hlast⟩
    · have hfirst : first.Writes p := by simpa [hrest] using h
      exact ⟨[], first, accesses, rfl, hfirst, fun b hb hwrites => hrest ⟨b, hb, hwrites⟩⟩

/-- A file that is written in a run gets a time behind the clock before the run. -/
theorem modified_run_of_written (h : ∃ a ∈ accesses, a.Writes p) (s : Memory) :
    ∃ now, (run s accesses).modified p = .ok now ∧ s.clock < now := by
  obtain ⟨before, a, behind, rfl, ha, hbehind⟩ := exists_last h
  have hclock := clock_le_run s before
  exact ⟨_, modified_run_of_last ha hbehind s before, by omega⟩

/-- Behind a run there are the files that were there before and those that it wrote. -/
theorem isFile_run_iff (s : Memory) (accesses : List Access) :
    Store.isFile (run s accesses) p = true ↔
      Store.isFile s p = true ∨ ∃ a ∈ accesses, a.Writes p := by
  by_cases hwritten : ∃ a ∈ accesses, a.Writes p
  · obtain ⟨now, hnow, -⟩ := modified_run_of_written hwritten s
    exact iff_of_true (Memory.isFile_iff_modified.2 ⟨now, hnow⟩) (Or.inr hwritten)
  · have hnone : ∀ a ∈ accesses, ¬ a.Writes p := fun a ha hwrites => hwritten ⟨a, ha, hwrites⟩
    rw [or_iff_left hwritten, Memory.isFile_iff_modified, Memory.isFile_iff_modified,
      modified_run_of_not_writes hnone]

end Access

theorem exists_tellsWrites (h : s.Stamped) (between : List Access) (hp : s.modified p = .ok time) :
    ∃ now, (Access.run s between).modified p = .ok now ∧
      TellsWrites between (Access.run s between) p time now := by
  have htime := (h.bounds p time hp).2
  by_cases hwritten : ∃ a ∈ between, a.Writes p
  · obtain ⟨now, hnow, hclock⟩ := Access.modified_run_of_written hwritten s
    obtain ⟨a, ha, hwrites⟩ := hwritten
    refine ⟨now, hnow, ?_, fun _ => by omega, ?_⟩
    · exact iff_of_false (by omega) fun hnone => hnone a ha hwrites
    · rintro before a behind rfl ha hbehind q other hq hsince hother
      exact Access.modified_lt_of_last h ha hbehind hq hsince hnow hother
  · have hnone : ∀ a ∈ between, ¬ a.Writes p := fun a ha hwrites => hwritten ⟨a, ha, hwrites⟩
    refine ⟨time, (Access.modified_run_of_not_writes hnone s).trans hp, iff_of_true rfl hnone,
      fun h => absurd h hwritten, ?_⟩
    rintro before a behind rfl ha
    exact absurd ha (hnone a (by simp))

/-- In each state of a run that began without files there are the files that were written, and each
has a time, which is a tick of the clock that no other file has. From one state to another a file
keeps its time exactly if it was not written in between; and if it was, its time is later than
before, and later than that of each file that was not written since. -/
theorem modified_tells_writes (earlier between : List Access) :
    let s := Access.run Memory.empty earlier
    (∀ p, Store.isFile s p = true ↔ ∃ a ∈ earlier, a.Writes p) ∧
      (∀ p, Store.isFile s p = true ↔ ∃ time, s.modified p = .ok time) ∧
      s.Stamped ∧
      ∀ p, Store.isFile s p = true →
        ∃ time now, s.modified p = .ok time ∧ (Access.run s between).modified p = .ok now ∧
          TellsWrites between (Access.run s between) p time now := by
  intro s
  have hstamped : s.Stamped := Access.stamped_run Memory.stamped_empty earlier
  refine ⟨fun p => ?_, fun p => Memory.isFile_iff_modified, hstamped, fun p hp => ?_⟩
  · have hempty : Store.isFile Memory.empty p ≠ true := nofun
    rw [Access.isFile_run_iff, or_iff_right hempty]
  · obtain ⟨time, htime⟩ := Memory.isFile_iff_modified.1 hp
    obtain ⟨now, hnow, htells⟩ := exists_tellsWrites hstamped between htime
    exact ⟨time, now, htime, hnow, htells⟩

/-- Two files that were written once each, and then the first of them once more under another
spelling of its path: its time is later than before and than that of the other, which is as it
was. -/
theorem modified_tells_second_write :
    let s := Access.run Memory.empty [.add ⟨['a']⟩ [1], .write ⟨['b']⟩ [2], .read ⟨['a']⟩]
    let between := [.writeText ⟨['a', '/', '.']⟩ ['x'] .plainUtf8, .isFile ⟨['b']⟩]
    (Store.isFile s ⟨['a']⟩ = true ∧ Store.isFile s ⟨['b']⟩ = true) ∧
      TellsWrites between (Access.run s between) ⟨['a']⟩ 1 3 ∧
      TellsWrites between (Access.run s between) ⟨['b']⟩ 2 2 := by
  intro s between
  have htells := (modified_tells_writes
    [.add ⟨['a']⟩ [1], .write ⟨['b']⟩ [2], .read ⟨['a']⟩] between).2.2.2
  have ha : Store.isFile s ⟨['a']⟩ = true := by decide
  have hb : Store.isFile s ⟨['b']⟩ = true := by decide
  refine ⟨⟨ha, hb⟩, ?_, ?_⟩
  · obtain ⟨time, now, htime, hnow, h⟩ := htells ⟨['a']⟩ ha
    obtain rfl : 1 = time := Except.ok.inj htime
    obtain rfl : 3 = now := Except.ok.inj hnow
    exact h
  · obtain ⟨time, now, htime, hnow, h⟩ := htells ⟨['b']⟩ hb
    obtain rfl : 2 = time := Except.ok.inj htime
    obtain rfl : 2 = now := Except.ok.inj hnow
    exact h

end
end MustacheBuild
