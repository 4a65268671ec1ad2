import MustacheBuild.Proofs.Store.Directories
import MustacheBuild.Proofs.Store.Laws

/-!
A file that is written beside its place and moved there: where that goes through it is there with
what was written, and where it is refused nothing has changed.
-/
namespace MustacheBuild
namespace Disk

variable {d d' : Disk} {l : Location} {p : Path} {content : Bytes}

/-- A path leads to nothing. -/
def Nothing (d : Disk) (p : Path) : Prop := ∀ e, d.entry p ≠ .ok e

namespace Place

/-- The path ends in a name, with no slash behind it. -/
structure EndsInName (place : d.Place p) : Prop where
  isName : isName place.name = true
  slashed : place.slashed = false

namespace EndsInName

variable {place : d.Place p}

theorem pieces (h : place.EndsInName) : p.pieces = place.before ++ [place.name] := by
  obtain ⟨behind, hpieces, -, hnil⟩ :=
    piecesOf_of_splitTarget place.split (ne_nil_of_isName h.isName)
  rw [hnil h.slashed] at hpieces
  exact hpieces

theorem locate (h : place.EndsInName) (hcheck : checkPath p = .ok ()) {item : Item}
    (hitem : d.itemAt? place.target = some item) : d.locate p = .ok place.target := by
  obtain ⟨e, he⟩ := exists_entryAt?_of_itemAt? hitem
  refine place.locate hcheck h.isName he fun hslashed => ?_
  rw [h.slashed] at hslashed
  cases hslashed

/-- A path leads to nothing if nothing is in its place. -/
theorem nothing (h : place.EndsInName) (hnone : d.itemAt? place.target = none) : d.Nothing p := by
  intro e he
  obtain ⟨l, hlocate, hentry⟩ := entry_eq_ok.1 he
  rw [place.target_of_locate h.isName h.slashed hlocate, Disk.itemAt?_eq_none.1 hnone] at hentry
  cases hentry

/-- There is nothing in the place of a path that leads to nothing. -/
theorem itemAt?_eq_none (h : place.EndsInName) (hcheck : checkPath p = .ok ())
    (hnothing : d.Nothing p) : d.itemAt? place.target = none := by
  cases hitem : d.itemAt? place.target with
  | none => rfl
  | some item =>
    obtain ⟨e, he⟩ := exists_entryAt?_of_itemAt? hitem
    exact absurd (entry_eq_ok.2 ⟨_, h.locate hcheck hitem, he⟩) (hnothing e)

theorem exists_of_grows (h : place.EndsInName) (hd : d.Grows d') :
    ∃ place' : d'.Place p, place'.target = place.target ∧ place'.EndsInName := by
  obtain ⟨place', htarget, hname, hslashed⟩ := place.exists_of_grows hd
  exact ⟨place', htarget, by rw [hname, h.isName], by rw [hslashed, h.slashed]⟩

end EndsInName
end Place

/-- The temporary file lies where the path ends, with a longer name. -/
theorem pieces_temporary (p : Path) : ∃ before last, p.pieces = before ++ [last] ∧
    (temporary p).pieces = before ++ [last ++ ".stache.tmp".toList] :=
  Path.pieces_append_text p.text (by decide)

theorem target_temporary_ne {place : d.Place p} {tmp : d'.Place (temporary p)}
    (hplace : place.EndsInName) (htmp : tmp.EndsInName) : tmp.target ≠ place.target := by
  intro heq
  obtain ⟨before, last, hpieces, hpieces'⟩ := pieces_temporary p
  rw [hplace.pieces] at hpieces
  rw [htmp.pieces] at hpieces'
  obtain ⟨-, hlast⟩ := List.append_inj' hpieces rfl
  obtain ⟨-, hlast'⟩ := List.append_inj' hpieces' rfl
  have hname : tmp.name = place.name := (List.cons.inj heq).1
  have hbase : place.name = last := (List.cons.inj hlast).1
  have hlonger : tmp.name = last ++ ".stache.tmp".toList := (List.cons.inj hlast').1
  rw [hname, hbase] at hlonger
  have hlength := congrArg List.length hlonger
  rw [List.length_append] at hlength
  exact absurd hlength (by simp)

theorem createFile_eq_ok (h : d.createFile p content = .ok d') :
    checkPath p = .ok () ∧ ∃ place : d.Place p, place.EndsInName ∧
      d.itemAt? place.target ≠ some .directory ∧
      d.Puts d' place.target (some (.file content (d.time + 1))) := by
  unfold createFile at h
  obtain ⟨_, hcheck, h⟩ := exists_of_bind_eq_ok h
  rcases hsplit : splitTarget p with ⟨before, name, slashed⟩
  rw [hsplit] at h
  obtain ⟨⟨l, entries⟩, hdir, h⟩ := exists_of_bind_eq_ok h
  dsimp only at h
  split at h
  · cases h
  next hname =>
    obtain ⟨hslashed, hname⟩ : slashed = false ∧ isName name = true := by simpa using hname
    obtain ⟨found, hfound, h⟩ := exists_of_bind_eq_ok h
    obtain ⟨hlength, rfl⟩ := lookUp_eq_ok hfound
    split at h
    · cases h
    next hfree =>
      obtain rfl := Except.ok.inj h
      let place : d.Place p := ⟨before, name, slashed, l, entries, hsplit, hdir, hlength⟩
      have htarget := place.itemAt?_ne_directory hfree
      exact ⟨hcheck, place, ⟨hname, hslashed⟩, htarget,
        place.puts_set htarget (Entry.isLeaf_of_item nofun)⟩

theorem renameFile_eq_ok {source target : Path} (h : d.renameFile source target = .ok d') :
    checkPath target = .ok () ∧ ∃ (old : d.Place source) (new : d.Place target) (d₁ : Disk)
      (content : Bytes) (time : Nat), new.EndsInName ∧
      d.itemAt? old.target = some (.file content time) ∧
      d.itemAt? new.target ≠ some .directory ∧ d.Puts d₁ old.target none ∧
      d₁.Puts d' new.target (some (.file content time)) := by
  unfold renameFile at h
  obtain ⟨_, -, h⟩ := exists_of_bind_eq_ok h
  obtain ⟨_, hcheck, h⟩ := exists_of_bind_eq_ok h
  rcases hsplit₀ : splitTarget source with ⟨before₀, name₀, slashed₀⟩
  rcases hsplit : splitTarget target with ⟨before, name, slashed⟩
  rw [hsplit₀, hsplit] at h
  obtain ⟨⟨l₀, entries₀⟩, hdir₀, h⟩ := exists_of_bind_eq_ok h
  obtain ⟨⟨l, entries⟩, hdir, h⟩ := exists_of_bind_eq_ok h
  dsimp only at h
  split at h
  · cases h
  next hname =>
    obtain ⟨found₀, hfound₀, h⟩ := exists_of_bind_eq_ok h
    obtain ⟨hlength₀, rfl⟩ := lookUp_eq_ok hfound₀
    split at h
    next content time hold =>
      obtain ⟨found, hfound, h⟩ := exists_of_bind_eq_ok h
      obtain ⟨hlength, rfl⟩ := lookUp_eq_ok hfound
      split at h
      · cases h
      next hslashed =>
        split at h
        · cases h
        next hfree =>
          obtain rfl := Except.ok.inj h
          let old : d.Place source :=
            ⟨before₀, name₀, slashed₀, l₀, entries₀, hsplit₀, hdir₀, hlength₀⟩
          let new : d.Place target := ⟨before, name, slashed, l, entries, hsplit, hdir, hlength⟩
          have hitem : d.itemAt? old.target = some (.file content time) := by
            rw [old.itemAt?_target, hold]
            rfl
          have htarget := new.itemAt?_ne_directory hfree
          have hremoved := old.puts_remove (by simp [hitem])
          -- The file is put where the directory is that it goes to once it is gone.
          obtain ⟨entries', hdir'⟩ := (hremoved.grows (by simp [hitem])).directoryOf hdir
          let new' : Place _ target := { new with entries := entries', directory := hdir' }
          have htarget' : itemAt? _ new'.target ≠ some .directory :=
            hremoved.ne_directory htarget
          exact ⟨hcheck, old, new, _, content, time,
            ⟨by simpa using hname, by simpa using hslashed⟩, hitem, htarget, hremoved,
            new'.puts_set htarget' (Entry.isLeaf_of_item nofun)⟩
    next => cases h

/-- A file has been replaced: its new content is where its path leads, nothing is left beside it,
and the rest of the tree is as it was, if nothing had been beside it. -/
structure Replaced (d d' : Disk) (p : Path) (content : Bytes) (target : Location) : Prop where
  locate : d'.locate p = .ok target
  self : d'.itemAt? target = some (.file content (d.time + 1))
  others : d.Nothing (temporary p) → ∀ l, l ≠ target → d'.itemAt? l = d.itemAt? l
  nothing : d'.Nothing (temporary p)
  grows : d.Grows d'
  time : d'.time = d.time

theorem exists_replaced_of_moved {d₁ : Disk} (hcreate : d.createFile (temporary p) content = .ok d₁)
    (hrename : d₁.renameFile (temporary p) p = .ok d') :
    ∃ target, d.Replaced d' p content target := by
  obtain ⟨hcheck₀, tmp, htmp, hfree₀, hput₁⟩ := createFile_eq_ok hcreate
  obtain ⟨hcheck, old, new, d₂, moved, time, hnew, hold, hfree, hput₂, hput₃⟩ :=
    renameFile_eq_ok hrename
  have hgrows₁ := hput₁.grows hfree₀
  -- The file that is moved is the one that was created.
  rw [tmp.target_eq hgrows₁ old] at hold hput₂
  rw [hput₁.self] at hold
  obtain ⟨rfl, rfl⟩ : content = moved ∧ d.time + 1 = time := by simpa using hold
  have hgrows₂ := hput₂.grows (by simp [hput₁.self])
  have hmoved := hgrows₂.trans (hput₃.grows (hput₂.ne_directory hfree))
  have hgrows := hgrows₁.trans hmoved
  have hne := target_temporary_ne hnew htmp
  refine ⟨new.target, ?locate, hput₃.self, ?others, ?nothing, hgrows,
    hput₃.time.trans (hput₂.time.trans hput₁.time)⟩
  case locate =>
    obtain ⟨new', htarget, hnew'⟩ := hnew.exists_of_grows hmoved
    rw [← htarget]
    exact hnew'.locate hcheck (by rw [htarget, hput₃.self])
  case others =>
    intro hnothing l hl
    rw [hput₃.of_ne hl]
    by_cases hltmp : l = tmp.target
    · rw [hltmp, hput₂.self, htmp.itemAt?_eq_none hcheck₀ hnothing]
    · rw [hput₂.of_ne hltmp, hput₁.of_ne hltmp]
  case nothing =>
    obtain ⟨tmp', htarget, htmp'⟩ := htmp.exists_of_grows hgrows
    apply htmp'.nothing
    rw [htarget, hput₃.of_ne hne, hput₂.self]

theorem exists_replaced (h : d.replaceFile p content = (none, d')) :
    ∃ target, d.Replaced d' p content target := by
  unfold replaceFile at h
  split at h
  · cases h
  next d₁ hcreate =>
    split at h
    next d₂ hrename =>
      obtain rfl : d₂ = d' := (Prod.mk.inj h).2
      exact exists_replaced_of_moved hcreate hrename
    next => cases h

theorem writeFile_eq {fault : Option DiskFault} (h : d.writeFile p content = (fault, d')) :
    (∃ e, fault = some e ∧ d.createAbove p = (some e, d')) ∨
      ∃ d₁, d.createAbove p = (none, d₁) ∧ d₁.replaceFile p content = (fault, d') := by
  unfold writeFile at h
  rcases habove : d.createAbove p with ⟨_ | e, d₁⟩
  · rw [habove] at h
    exact Or.inr ⟨d₁, rfl, h⟩
  · rw [habove] at h
    obtain ⟨rfl, rfl⟩ := Prod.mk.inj h
    exact Or.inl ⟨e, rfl, rfl⟩

theorem write_of_writeFile (h : d.writeFile p content = (none, d')) :
    Store.write d p content = (.ok (), d') := by
  simp only [Store.write, StateT.run, FileSystem.write, h]

theorem write_of_refused {e : DiskFault} (h : d.writeFile p content = (some e, d')) :
    Store.write d p content = (.error e.toIoError, d') := by
  simp only [Store.write, StateT.run, FileSystem.write, h]

theorem exists_readFile_of_write (h : Store.write d p content = (.ok (), d')) :
    ∃ l time, d'.locate p = .ok l ∧ d'.itemAt? l = some (.file content time) := by
  rcases hwrite : d.writeFile p content with ⟨_ | e, d₂⟩
  · obtain rfl : d₂ = d' := (Prod.mk.inj ((write_of_writeFile hwrite).symm.trans h)).2
    obtain ⟨_, hfault, -⟩ | ⟨d₁, -, hreplace⟩ := writeFile_eq hwrite
    · cases hfault
    · obtain ⟨target, hreplaced⟩ := exists_replaced hreplace
      exact ⟨target, _, hreplaced.locate, hreplaced.self⟩
  · rw [write_of_refused hwrite] at h
    cases h

instance : Faithful Disk where
  readsKeep := ⟨fun _ _ => rfl, fun _ _ => rfl⟩
  isFile_of_write {d d' p content} h := by
    obtain ⟨l, time, hlocate, hitem⟩ := exists_readFile_of_write h
    show d'.isFile p = true
    unfold isFile
    rw [entry_eq_ok.2 ⟨l, hlocate, entryAt?_of_itemAt? hitem⟩]
    rfl
  read_of_write {d d' p content} h := by
    show (d'.readFile p).mapError DiskFault.toIoError = _
    rw [readFile_eq_ok.2 (exists_readFile_of_write h)]
    rfl

end Disk
end MustacheBuild
