import MustacheBuild.Proofs.Store.Replacement

/-!
A write to a disk is all or nothing: either the file is there with its new content or all files are
as they were, nothing is left beside it, and what is new are directories above it.
-/
namespace MustacheBuild
namespace Disk

variable {d d' : Disk} {l l' : Location} {p : Path} {content : Bytes}

/-- The content of a file has been replaced, or the file has been created. -/
structure Written (d d' : Disk) (p : Path) (content : Bytes) : Prop where
  /-- The path leads to a file that holds the content. -/
  readFile : d'.readFile p = .ok content
  /-- It stands where no directory was. Elsewhere all is as it was, but for new directories above
  the path, and the other files are read as before. -/
  target : ∃ target, d'.locate p = .ok target ∧ d.itemAt? target ≠ some .directory ∧
    (∀ l, l ≠ target → d.KeepsAt d' (·.IsAbove p) l) ∧
    ∀ q old, d.locate q ≠ .ok target → d.readFile q = .ok old → d'.readFile q = .ok old
  workingDirectory : d'.workingDirectory = d.workingDirectory
  /-- Nothing is left where the file was written first. -/
  nothing : d'.Nothing (temporary p)

/-- A write has been refused. -/
structure Refused (d d' : Disk) (p : Path) : Prop where
  /-- All is as it was, but for new directories above the path. -/
  extended : d.Extends d' (·.IsAbove p)
  readFile : ∀ q old, d.readFile q = .ok old → d'.readFile q = .ok old
  /-- Nothing is left where the file was written first. -/
  nothing : d'.Nothing (temporary p)

theorem Extends.refused (h : d.Extends d' (·.IsAbove p)) (hnothing : d'.Nothing (temporary p)) :
    d.Refused d' p where
  extended := h
  readFile _ _ := readFile_of_keepsAt h.grows fun l _ => h.keeps l
  nothing := hnothing

theorem Extends.written {d₁ : Disk} {target : Location} (h : d.Extends d₁ (·.IsAbove p))
    (hnothing : d₁.Nothing (temporary p)) (hreplaced : d₁.Replaced d' p content target) :
    d.Written d' p content where
  readFile := readFile_eq_ok.2 ⟨target, _, hreplaced.locate, hreplaced.self⟩
  target := by
    have hgrows := h.grows.trans hreplaced.grows
    have hkeeps : ∀ l, l ≠ target → d.KeepsAt d' (·.IsAbove p) l := fun l hl =>
      (h.keeps l).trans (Or.inl (hreplaced.others hnothing l hl)) hreplaced.grows
    refine ⟨target, hreplaced.locate, fun hitem => ?_, hkeeps, fun q old hq => ?_⟩
    · have hitem' := hgrows.directories target (isDirectoryAt_iff.2 hitem)
      rw [isDirectoryAt_iff, hreplaced.self] at hitem'
      cases hitem'
    · exact readFile_of_keepsAt hgrows fun l hl => hkeeps l fun heq => hq (heq ▸ hl)
  workingDirectory := (h.grows.trans hreplaced.grows).workingDirectory
  nothing := hreplaced.nothing

end Disk
end MustacheBuild
