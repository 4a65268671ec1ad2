import MustacheBuild.Proofs.Build.Action
import MustacheBuild.Proofs.Encoding.Misread

/-!
Writing a text twice writes it once, as long as what was written is recognized, and what is called
up to date is the text that is asked for.
-/
namespace MustacheBuild

open BuildM (runFrom runFrom_bind_ok runFrom_bind_error)

section
variable {σ γ : Type} [FileSystem (StateM σ)] {view : σ → γ}
variable {mode : WriteMode} {p : Path} {t : Text} {e : Encoding} {s s' : σ}

theorem keeps_isUpToDate (h : ReadsKeep view) (p : Path) (t : Text) (e : Encoding) :
    BuildM.Keeps view (isUpToDate p t e) := by
  refine (keeps_isFile h p).bind fun there => ?_
  cases there with
  | false => exact BuildM.Keeps.pure view false
  | true => exact (keeps_readFile h p).bind fun _ => BuildM.Keeps.pure view _

section
variable {τ : Type} [FileSystem (StateM τ)] {R : σ → τ → Prop}

theorem simulates_isUpToDate (h : ReadsAlike R p) (t : Text) (e : Encoding) :
    BuildM.Simulates R (isUpToDate p t e) (isUpToDate p t e) := by
  refine (simulates_isFile h).bind fun there => ?_
  cases there with
  | false => exact .pure R false
  | true => exact (simulates_readFile h).bind fun _ => .pure R _

theorem simulates_writeText (hreads : ReadsAlike R p) (hwrites : WritesAlike R p)
    (mode : WriteMode) (t : Text) (e : Encoding) :
    BuildM.Simulates R (writeText mode p t e) (writeText mode p t e) := by
  have hwrite : BuildM.Simulates R (writeFile p (e.encode t) >>= fun _ => pure Verdict.written)
      (writeFile p (e.encode t) >>= fun _ => pure Verdict.written) :=
    (simulates_writeFile hwrites _).bind fun _ => .pure R _
  have hcheck := simulates_isUpToDate hreads t e
  cases mode with
  | always => exact hwrite
  | dryRun =>
    refine hcheck.bind fun upToDate => ?_
    cases upToDate <;> exact .pure R _
  | ifChanged =>
    refine hcheck.bind fun upToDate => ?_
    cases upToDate with
    | true => exact .pure R _
    | false => exact hwrite

end

theorem runFrom_writeText_always (p : Path) (t : Text) (e : Encoding) (s : σ) :
    runFrom (writeText .always p t e) s =
      match Store.write s p (e.encode t) with
      | (.ok (), s') => (.ok .written, s')
      | (.error err, s') => (.error (.io p err), s') := by
  have hrun : writeText .always p t e = (writeFile p (e.encode t) >>= fun _ => pure .written :
      BuildM (StateM σ) Verdict) := rfl
  rw [hrun, BuildM.runFrom_bind, runFrom_writeFile]
  rcases Store.write s p (e.encode t) with ⟨_ | _, _⟩ <;> rfl

theorem runFrom_writeText_of_error {err : BuildError} (hmode : mode ≠ .always)
    (h : runFrom (isUpToDate p t e) s = (.error err, s')) :
    runFrom (writeText mode p t e) s = (.error err, s') := by
  rw [writeText, if_neg hmode, runFrom_bind_error h]

theorem runFrom_writeText_of_true (hmode : mode ≠ .always)
    (h : runFrom (isUpToDate p t e) s = (.ok true, s')) :
    runFrom (writeText mode p t e) s = (.ok .unchanged, s') := by
  rw [writeText, if_neg hmode, runFrom_bind_ok h]
  rfl

theorem runFrom_writeText_of_false (hmode : mode ≠ .always)
    (h : runFrom (isUpToDate p t e) s = (.ok false, s')) :
    runFrom (writeText mode p t e) s =
      if mode = .dryRun then (.ok .wouldWrite, s') else runFrom (writeText .always p t e) s' := by
  rw [writeText, if_neg hmode, runFrom_bind_ok h]
  cases mode <;> rfl

theorem runFrom_writeText_dryRun_of_false (h : runFrom (isUpToDate p t e) s = (.ok false, s')) :
    runFrom (writeText .dryRun p t e) s = (.ok .wouldWrite, s') := by
  rw [runFrom_writeText_of_false (by decide) h, if_pos rfl]

theorem runFrom_writeText_ifChanged_of_false
    (h : runFrom (isUpToDate p t e) s = (.ok false, s')) :
    runFrom (writeText .ifChanged p t e) s = runFrom (writeText .always p t e) s' := by
  rw [runFrom_writeText_of_false (by decide) h, if_neg (by decide)]

/-- Behind the reads all is done, or what is left to do is to write the file. -/
theorem runFrom_writeText_cases (h : ReadsKeep view) (mode : WriteMode) (p : Path) (t : Text)
    (e : Encoding) (s : σ) : ∃ s₁, view s₁ = view s ∧
      ((∃ err, runFrom (writeText mode p t e) s = (.error err, s₁)) ∨
        (mode ≠ .always ∧ runFrom (writeText mode p t e) s = (.ok .unchanged, s₁)) ∨
        (mode = .dryRun ∧ runFrom (writeText mode p t e) s = (.ok .wouldWrite, s₁)) ∨
        (mode ≠ .dryRun ∧
          runFrom (writeText mode p t e) s = runFrom (writeText .always p t e) s₁)) := by
  by_cases hmode : mode = .always
  · subst hmode
    exact ⟨s, rfl, Or.inr (Or.inr (Or.inr ⟨by decide, rfl⟩))⟩
  have hview := keeps_isUpToDate h p t e s
  rcases hrun : runFrom (isUpToDate p t e) s with ⟨err | _ | _, s₁⟩ <;> rw [hrun] at hview <;>
    refine ⟨s₁, hview, ?_⟩
  · exact Or.inl ⟨err, runFrom_writeText_of_error hmode hrun⟩
  · by_cases hdry : mode = .dryRun
    · subst hdry
      exact Or.inr (Or.inr (Or.inl ⟨rfl, runFrom_writeText_dryRun_of_false hrun⟩))
    · have hwrite := runFrom_writeText_of_false hmode hrun
      rw [if_neg hdry] at hwrite
      exact Or.inr (Or.inr (Or.inr ⟨hdry, hwrite⟩))
  · exact Or.inr (Or.inl ⟨hmode, runFrom_writeText_of_true hmode hrun⟩)

end

section
variable {σ : Type} [FileSystem (StateM σ)] [Quiet σ]
variable {mode : WriteMode} {p : Path} {t : Text} {e : Encoding} {s s' : σ} {v : Verdict}

theorem runFrom_isUpToDate_eq_true_iff :
    runFrom (isUpToDate p t e) s = (.ok true, s) ↔ Store.isFile s p = true ∧
      ∃ existing, Store.read s p = .ok existing ∧ holdsText e existing t = true := by
  rw [isUpToDate, runFrom_bind_ok (runFrom_isFile p s)]
  cases hfile : Store.isFile s p with
  | false => simp
  | true =>
    rw [if_pos rfl, BuildM.runFrom_bind, runFrom_readFile]
    cases Store.read s p <;> simp [Except.mapError]

theorem runFrom_isUpToDate_of_missing (h : Store.isFile s p = false) :
    runFrom (isUpToDate p t e) s = (.ok false, s) := by
  rw [isUpToDate, runFrom_bind_ok (runFrom_isFile p s), h]
  rfl

/-- Where nothing is changed by looking, a file is up to date if it is there and holds the text. -/
theorem runFrom_writeText_eq_unchanged_iff (hmode : mode ≠ .always) :
    runFrom (writeText mode p t e) s = (.ok .unchanged, s) ↔ Store.isFile s p = true ∧
      ∃ existing, Store.read s p = .ok existing ∧ holdsText e existing t = true := by
  rw [← runFrom_isUpToDate_eq_true_iff]
  constructor
  · intro h
    rcases hrun : runFrom (isUpToDate p t e) s with ⟨_ | _ | _, s₁⟩
    · rw [runFrom_writeText_of_error hmode hrun] at h
      cases h
    · rw [runFrom_writeText_of_false hmode hrun] at h
      split at h
      · cases h
      · rw [runFrom_writeText_always] at h
        split at h <;> cases h
    · rw [runFrom_writeText_of_true hmode hrun] at h
      rw [(Prod.mk.inj h).2]
  · exact runFrom_writeText_of_true hmode

/-- A file in which another form is seen, with the bytes of the text in its own form behind that
form's mark. -/
def Disguised (form : UnicodeForm) (existing : Bytes) (t : Text) : Prop :=
  ∃ seen, seen ≠ form ∧ UnicodeForm.announced? existing = some seen ∧
    existing = seen.mark ++ form.encode t

theorem holdsText_unicode_iff {form : UnicodeForm} {mark : Bool} {existing : Bytes} :
    holdsText (.unicode form mark) existing t = true ↔
      (Encoding.unicode form mark).decode existing = t ∨ Disguised form existing t := by
  rw [holdsText, Bool.or_eq_true, beq_iff_eq, beq_iff_eq]
  constructor
  · rintro (hbytes | hread)
    · have hbytes : Encoding.stripMark existing = form.encode t := hbytes
      cases hseen : UnicodeForm.announced? existing with
      | none =>
        rw [Encoding.stripMark_of_none hseen] at hbytes
        rw [Encoding.decode_of_none _ hseen, hbytes]
        exact Or.inl (form.decode_encode t)
      | some seen =>
        by_cases hsame : seen = form
        · subst hsame
          rw [Encoding.decode_of_announced? _ hseen, hbytes]
          exact Or.inl (seen.decode_encode t)
        · refine Or.inr ⟨seen, hsame, hseen, ?_⟩
          rw [← hbytes, Encoding.append_stripMark hseen]
    · exact Or.inl hread
  · rintro (hread | ⟨seen, -, hseen, hbytes⟩)
    · exact Or.inr hread
    · rw [← Encoding.append_stripMark hseen] at hbytes
      exact Or.inl (List.append_cancel_left hbytes)

/-- What is written is recognized if no other mark is seen in it, or if it is read back all the
same. -/
theorem holdsText_encode_iff :
    holdsText e (e.encode t) t = true ↔ e.KeepsMark t ∨ e.decode (e.encode t) = t := by
  rw [holdsText, Bool.or_eq_true, beq_iff_eq, beq_iff_eq, Encoding.stripMark_encode_iff]

/-- Unicode text is read back only where no other mark is seen. -/
theorem keepsMark_or_decode_iff : (e.KeepsMark t ∨ e.decode (e.encode t) = t) ↔
    e.KeepsMark t ∨ ∃ charset, e = .legacy charset ∧ e.decode (e.encode t) = t := by
  cases e with
  | unicode form mark => simp [Encoding.decode_encode_iff]
  | legacy charset => simp

/-- A text is called up to date where the file is read as that text, and where the file is
disguised. -/
theorem writeText_unicode_eq_unchanged_iff {form : UnicodeForm} {mark : Bool}
    (hmode : mode ≠ .always) :
    runFrom (writeText mode p t (.unicode form mark)) s = (.ok .unchanged, s) ↔
      Store.isFile s p = true ∧ ∃ existing, Store.read s p = .ok existing ∧
        ((Encoding.unicode form mark).decode existing = t ∨ Disguised form existing t) := by
  rw [runFrom_writeText_eq_unchanged_iff hmode]
  simp only [holdsText_unicode_iff]

/-- A file that differs from the text by its mark alone. -/
theorem writeText_marked_eq_unchanged :
    let p : Path := ⟨"a.txt".toList⟩
    let s := Memory.empty.put p [0xEF, 0xBB, 0xBF, 0x68, 0x69]
    runFrom (writeText .dryRun p "hi".toList .plainUtf8) s = (.ok .unchanged, s) :=
  (writeText_unicode_eq_unchanged_iff (by decide)).2
    ⟨rfl, _, rfl, Or.inl (by decide)⟩

/-- Two bytes of ASCII behind the mark of UTF-16 are one other character. -/
theorem writeText_disguised_eq_unchanged :
    let p : Path := ⟨"a.txt".toList⟩
    let existing : Bytes := [0xFF, 0xFE, 0x68, 0x69]
    (runFrom (writeText .ifChanged p "hi".toList .plainUtf8) (Memory.empty.put p existing)).1 =
      .ok .unchanged ∧ Encoding.plainUtf8.decode existing = ['楨'] := by
  decide

end

section
variable {σ : Type} [FileSystem (StateM σ)] [Faithful σ]
variable {mode : WriteMode} {p : Path} {t : Text} {e : Encoding} {s s' : σ} {v : Verdict}

/-- A text is found in a file that is still as it was left when the text was written or found. -/
theorem runFrom_writeText_of_readsAlike {s₁ : σ} (hmode : mode ≠ .always)
    (h : runFrom (writeText .ifChanged p t e) s = (.ok v, s₁))
    (hfile : ReadsAlike (Exactly s₁ s') p) (hkeep : v = .written → e.KeepsMark t) :
    runFrom (writeText mode p t e) s' = (.ok .unchanged, s') := by
  have hthere : Store.isFile s₁ p = Store.isFile s' p := (hfile.isFile s₁ s' ⟨rfl, rfl⟩).1
  have hread : Store.read s₁ p = Store.read s' p := (hfile.read s₁ s' ⟨rfl, rfl⟩).1
  rw [runFrom_writeText_eq_unchanged_iff hmode, ← hthere, ← hread]
  obtain ⟨s₂, rfl, ⟨err, hrun⟩ | ⟨-, hrun⟩ | ⟨hdry, -⟩ | ⟨-, hrun⟩⟩ :=
    runFrom_writeText_cases Quiet.readsKeep .ifChanged p t e s
  · rw [hrun] at h
    cases h
  · rw [hrun] at h
    obtain ⟨-, rfl⟩ : Verdict.unchanged = v ∧ s₂ = s₁ := by simpa using h
    exact (runFrom_writeText_eq_unchanged_iff (by decide)).1 hrun
  · cases hdry
  · rw [hrun, runFrom_writeText_always] at h
    split at h
    next s₃ hwrite =>
      obtain ⟨rfl, rfl⟩ : Verdict.written = v ∧ s₃ = s₁ := by simpa using h
      exact ⟨Faithful.isFile_of_write hwrite, _, Faithful.read_of_write hwrite,
        holdsText_encode_iff.2 (Or.inl (hkeep rfl))⟩
    next => cases h

/-- A text that has been written is not written again, and the file is left alone, if and only if
it was up to date before or what was written is recognized. -/
theorem writeText_again_iff (hmode : mode ≠ .dryRun)
    (h : runFrom (writeText mode p t e) s = (.ok v, s')) :
    runFrom (writeText .ifChanged p t e) s' = (.ok .unchanged, s') ↔
      v = .unchanged ∨ e.KeepsMark t ∨
        ∃ charset, e = .legacy charset ∧ e.decode (e.encode t) = t := by
  obtain ⟨s₁, rfl, ⟨err, hrun⟩ | ⟨halways, hrun⟩ | ⟨hdry, -⟩ | ⟨-, hrun⟩⟩ :=
    runFrom_writeText_cases Quiet.readsKeep mode p t e s
  · rw [hrun] at h
    cases h
  · rw [hrun] at h
    obtain ⟨rfl, rfl⟩ : Verdict.unchanged = v ∧ s₁ = s' := by simpa using h
    have hfirst := (runFrom_writeText_eq_unchanged_iff halways).1 hrun
    simpa using (runFrom_writeText_eq_unchanged_iff (by decide)).2 hfirst
  · exact absurd hdry hmode
  · rw [hrun, runFrom_writeText_always] at h
    split at h
    next s₂ hwrite =>
      obtain ⟨rfl, rfl⟩ : Verdict.written = v ∧ s₂ = s' := by simpa using h
      rw [runFrom_writeText_eq_unchanged_iff (by decide), Faithful.isFile_of_write hwrite,
        Faithful.read_of_write hwrite, ← keepsMark_or_decode_iff, ← holdsText_encode_iff]
      simp
    next => cases h

/-- A text in UTF-16 is written once. -/
theorem writeText_again_utf16 :
    let p : Path := ⟨"a.txt".toList⟩
    let e : Encoding := .unicode (.utf16 .little) true
    let s := Memory.empty.put p (e.encode "ab".toList)
    runFrom (writeText .always p "ab".toList e) Memory.empty = (.ok .written, s) ∧
      runFrom (writeText .ifChanged p "ab".toList e) s = (.ok .unchanged, s) :=
  have hmode : WriteMode.always ≠ .dryRun := by decide
  ⟨rfl, (writeText_again_iff hmode rfl).2 (Or.inr (Or.inl (by decide)))⟩

/-- Two letters whose bytes are those of a mark are written again and again. -/
theorem writeText_again_windows1252 :
    let p : Path := ⟨"a.txt".toList⟩
    let write := writeText .ifChanged p "ÿþ".toList (.legacy (.singleByte .windows1252))
    let first := runFrom write Memory.empty
    let second := runFrom write first.2
    first.1 = .ok .written ∧ second.1 = .ok .written ∧
      (first.2.modified p, second.2.modified p) = (.ok 1, .ok 2) := by
  decide +kernel

end
end MustacheBuild
