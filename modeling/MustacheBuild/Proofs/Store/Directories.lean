import MustacheBuild.Proofs.Path.Above
import MustacheBuild.Proofs.Store.Disk

/-!
Directories that are created on the way to a path: each is where a path above it leads, and nothing
else in the tree changes, also when one of them is refused.
-/
namespace MustacheBuild
namespace Disk

variable {d d' d'' : Disk} {l : Location} {p q : Path} {created : Path → Prop}

/-- At a location there is what was there, or a directory in place of nothing. It is one to which a
path of some kind leads. -/
def KeepsAt (d d' : Disk) (created : Path → Prop) (l : Location) : Prop :=
  d'.itemAt? l = d.itemAt? l ∨
    d.itemAt? l = none ∧ d'.itemAt? l = some .directory ∧ ∃ q, created q ∧ d'.locate q = .ok l

theorem KeepsAt.of_some {item : Item} (h : d.KeepsAt d' created l)
    (hitem : d.itemAt? l = some item) : d'.itemAt? l = some item := by
  rcases h with hsame | ⟨hnone, -⟩
  · rw [hsame, hitem]
  · rw [hnone] at hitem
    cases hitem

theorem KeepsAt.trans (h : d.KeepsAt d' created l) (h' : d'.KeepsAt d'' created l)
    (hgrows : d'.Grows d'') : d.KeepsAt d'' created l := by
  rcases h with hsame | ⟨hnone, hthere, q, hq, hlocate⟩
  · unfold KeepsAt at h'
    rwa [hsame] at h'
  · have hthere' := h'.of_some hthere
    obtain ⟨e, he⟩ := exists_entryAt?_of_itemAt? hthere'
    exact Or.inr ⟨hnone, hthere', q, hq, hgrows.locate hlocate he⟩

/-- Nothing in a tree has changed, but that directories have been created to which paths of some
kind lead. -/
structure Extends (d d' : Disk) (created : Path → Prop) : Prop where
  keeps : ∀ l, d.KeepsAt d' created l
  workingDirectory : d'.workingDirectory = d.workingDirectory
  time : d'.time = d.time

theorem Extends.grows (h : d.Extends d' created) : d.Grows d' where
  directories l hl := by
    rw [isDirectoryAt_iff] at hl ⊢
    exact (h.keeps l).of_some hl
  workingDirectory := h.workingDirectory

theorem Extends.trans (h : d.Extends d' created) (h' : d'.Extends d'' created) :
    d.Extends d'' created where
  keeps l := (h.keeps l).trans (h'.keeps l) h'.grows
  workingDirectory := h'.workingDirectory.trans h.workingDirectory
  time := h'.time.trans h.time

/-- A file can be read if it is where the path leads to. -/
theorem readFile_eq_ok {content : Bytes} : d.readFile p = .ok content ↔
    ∃ l time, d.locate p = .ok l ∧ d.itemAt? l = some (.file content time) := by
  unfold readFile
  constructor
  · intro h
    obtain ⟨e, he, h⟩ := exists_of_bind_eq_ok h
    obtain ⟨l, hlocate, hentry⟩ := entry_eq_ok.1 he
    cases e with
    | directory entries => cases h
    | file old time =>
      obtain rfl := Except.ok.inj h
      exact ⟨l, time, hlocate, itemAt?_of_entryAt? hentry⟩
  · rintro ⟨l, time, hlocate, hitem⟩
    rw [entry_eq_ok.2 ⟨l, hlocate, entryAt?_of_itemAt? hitem⟩]
    rfl

/-- A file that is kept is read as before. -/
theorem readFile_of_keepsAt {content : Bytes} (hgrows : d.Grows d')
    (h : ∀ l, d.locate p = .ok l → d.KeepsAt d' created l) (hread : d.readFile p = .ok content) :
    d'.readFile p = .ok content := by
  obtain ⟨l, time, hlocate, hitem⟩ := readFile_eq_ok.1 hread
  have hitem' := (h l hlocate).of_some hitem
  obtain ⟨e, he⟩ := exists_entryAt?_of_itemAt? hitem'
  exact readFile_eq_ok.2 ⟨l, time, hgrows.locate hlocate he, hitem'⟩

end Disk
end MustacheBuild
