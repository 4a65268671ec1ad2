import MustacheBuild.Proofs.Path.Pieces
import MustacheBuild.Proofs.Store.Laws
import MustacheBuild.Proofs.Store.Tree

/-!
Walks along paths in directory trees, and the places in which paths are looked up: they are the same
in trees with the same directories, also where more have been created.
-/
namespace MustacheBuild

/-- What has been answered went through both actions. -/
theorem exists_of_bind_eq_ok {ε α β : Type} {x : Except ε α} {f : α → Except ε β} {b : β}
    (h : x >>= f = .ok b) : ∃ a, x = .ok a ∧ f a = .ok b := by
  cases x with
  | error e => cases h
  | ok a => exact ⟨a, rfl, h⟩

namespace Disk

variable {d d' : Disk} {l l' : Location} {p : Path} {entries : Entries}

theorem entryAt?_eq (d : Disk) (l : Location) :
    d.entryAt? l = (Entry.directory d.entries).at? l.reverse := by
  unfold entryAt?
  generalize Entry.directory d.entries = e
  induction l.reverse generalizing e with
  | nil => rfl
  | cons name names ih =>
    rw [List.foldlM_cons]
    cases e with
    | file => rfl
    | directory entries =>
      simp only [Entry.at?]
      cases Entries.get? entries name with
      | none => rfl
      | some inner => exact ih inner

/-- There is a directory at a location. -/
def IsDirectoryAt (d : Disk) (l : Location) : Prop :=
  ∃ entries, d.entryAt? l = some (.directory entries)

/-- What is at a location. -/
def itemAt? (d : Disk) (l : Location) : Option Item := (d.entryAt? l).map Entry.item

theorem isDirectoryAt_iff : d.IsDirectoryAt l ↔ d.itemAt? l = some .directory := by
  unfold IsDirectoryAt itemAt?
  cases d.entryAt? l with
  | none => simp
  | some e => cases e <;> simp [Entry.item]

theorem itemAt?_eq_none : d.itemAt? l = none ↔ d.entryAt? l = none := Option.map_eq_none_iff

theorem exists_entryAt?_of_itemAt? {item : Item} (h : d.itemAt? l = some item) :
    ∃ e, d.entryAt? l = some e := by
  obtain ⟨e, he, -⟩ := Option.map_eq_some_iff.1 h
  exact ⟨e, he⟩

theorem itemAt?_of_entryAt? {e : Entry} (h : d.entryAt? l = some e) :
    d.itemAt? l = some e.item :=
  congrArg (Option.map Entry.item) h

theorem entryAt?_of_itemAt? {content : Bytes} {time : Nat}
    (h : d.itemAt? l = some (.file content time)) : d.entryAt? l = some (.file content time) := by
  obtain ⟨e, he, hfile⟩ := Option.map_eq_some_iff.1 h
  cases e with
  | directory entries => cases hfile
  | file old time' =>
    cases hfile
    exact he

theorem entryAt?_cons (h : d.entryAt? l = some (.directory entries)) (name : Text) :
    d.entryAt? (name :: l) = entries.get? name := by
  rw [entryAt?_eq] at h ⊢
  rw [List.reverse_cons, Entry.at?_append, h]
  simp [Entry.at?]

theorem entryAt?_modify (change : Entries → Entries)
    (h : d.entryAt? l = some (.directory entries)) :
    (d.modify l change).entryAt? l = some (.directory (change entries)) := by
  rw [entryAt?_eq] at h ⊢
  exact Entries.at?_modifyAt h

theorem itemAt?_modify {change : Entries → Entries} {name : Text}
    (h : d.entryAt? l = some (.directory entries)) (hchange : ChangesLeaf change name entries)
    (l' : Location) : (d.modify l change).itemAt? l' =
      if l' = name :: l then ((change entries).get? name).map Entry.item else d.itemAt? l' := by
  unfold itemAt?
  split
  next hl =>
    subst hl
    rw [entryAt?_cons (entryAt?_modify change h)]
  next hl =>
    rw [entryAt?_eq] at h
    rw [entryAt?_eq, entryAt?_eq]
    refine Entries.item_at?_modifyAt h hchange fun heq => hl ?_
    rw [← List.reverse_cons] at heq
    exact List.reverse_inj.1 heq

/-- Directories are directories still, and relative paths start where they did. -/
structure Grows (d d' : Disk) : Prop where
  directories : ∀ l, d.IsDirectoryAt l → d'.IsDirectoryAt l
  workingDirectory : d'.workingDirectory = d.workingDirectory

theorem Grows.trans {d'' : Disk} (h : d.Grows d') (h' : d'.Grows d'') : d.Grows d'' where
  directories l hl := h'.directories l (h.directories l hl)
  workingDirectory := h'.workingDirectory.trans h.workingDirectory

/-- One location of a tree is given an item, or none; the rest of the tree stays. -/
structure Puts (d d' : Disk) (l : Location) (item? : Option Item) : Prop where
  itemAt? : ∀ l', d'.itemAt? l' = if l' = l then item? else d.itemAt? l'
  workingDirectory : d'.workingDirectory = d.workingDirectory
  time : d'.time = d.time

theorem Puts.self {item? : Option Item} (h : d.Puts d' l item?) : d'.itemAt? l = item? := by
  rw [h.itemAt?, if_pos rfl]

theorem Puts.of_ne {item? : Option Item} (h : d.Puts d' l item?) (hl : l' ≠ l) :
    d'.itemAt? l' = d.itemAt? l' := by
  rw [h.itemAt?, if_neg hl]

theorem Puts.ne_directory (h : d.Puts d' l none) (hl' : d.itemAt? l' ≠ some .directory) :
    d'.itemAt? l' ≠ some .directory := by
  rw [h.itemAt?]
  split
  · simp
  · exact hl'

theorem Puts.grows {item? : Option Item} (h : d.Puts d' l item?)
    (hl : d.itemAt? l ≠ some .directory) : d.Grows d' where
  directories l' hl' := by
    rw [isDirectoryAt_iff] at hl' ⊢
    have hne : l' ≠ l := fun heq => hl (heq ▸ hl')
    rw [h.of_ne hne, hl']
  workingDirectory := h.workingDirectory

theorem lookUp_eq_ok {name : Text} {found : Option Entry} (h : lookUp entries name = .ok found) :
    name.byteLength ≤ longestName ∧ entries.get? name = found := by
  unfold lookUp at h
  split at h
  · cases h
  next hlength => exact ⟨Nat.not_lt.1 hlength, Except.ok.inj h⟩

theorem lookUp_of_le {name : Text} (h : name.byteLength ≤ longestName) :
    lookUp entries name = .ok (entries.get? name) := by
  unfold lookUp
  rw [if_neg (Nat.not_lt.2 h)]

theorem isDirectoryAt_of_walkPiece {piece : Text} (h : d.walkPiece l piece = .ok l') :
    d.IsDirectoryAt l := by
  unfold walkPiece at h
  split at h
  next entries hentries => exact ⟨entries, hentries⟩
  next => cases h

/-- The step that a name is, in a directory. -/
def nameStep (entries : Entries) (l : Location) (name : Text) : Except DiskFault Location :=
  match lookUp entries name with
  | .error e => .error e
  | .ok none => .error .noEntry
  | .ok (some _) => .ok (name :: l)

theorem walkPiece_eq (h : d.entryAt? l = some (.directory entries)) (piece : Text) :
    d.walkPiece l piece =
      if piece = [] || piece = ['.'] then .ok l
      else if piece = ['.', '.'] then .ok (l.drop 1)
      else nameStep entries l piece := by
  unfold walkPiece nameStep
  rw [h]
  dsimp only
  split
  · rfl
  · split
    · rfl
    · cases lookUp entries piece with
      | error e => rfl
      | ok found => cases found <;> rfl

theorem nameStep_eq_ok {name : Text} (h : nameStep entries l name = .ok l') :
    l' = name :: l ∧ name.byteLength ≤ longestName := by
  unfold nameStep at h
  split at h
  · cases h
  · cases h
  next hfound => exact ⟨(Except.ok.inj h).symm, (lookUp_eq_ok hfound).1⟩

theorem nameStep_of_get? {name : Text} {e : Entry} (h : name.byteLength ≤ longestName)
    (he : entries.get? name = some e) : nameStep entries l name = .ok (name :: l) := by
  unfold nameStep
  rw [lookUp_of_le h, he]

/-- A step leads to the same place in another tree, if it starts from a directory there and
something is in the place. -/
theorem walkPiece_of_entryAt? {piece : Text} {e : Entry} (h : d.walkPiece l piece = .ok l')
    (hl : d'.IsDirectoryAt l) (he : d'.entryAt? l' = some e) : d'.walkPiece l piece = .ok l' := by
  obtain ⟨entries, hentries⟩ := isDirectoryAt_of_walkPiece h
  obtain ⟨entries', hentries'⟩ := hl
  rw [walkPiece_eq hentries] at h
  rw [walkPiece_eq hentries']
  split at h
  next hstay => rw [if_pos hstay, h]
  next hstay =>
    rw [if_neg hstay]
    split at h
    next hup => rw [if_pos hup, h]
    next hup =>
      rw [if_neg hup]
      obtain ⟨rfl, hlength⟩ := nameStep_eq_ok h
      rw [entryAt?_cons hentries'] at he
      exact nameStep_of_get? hlength he

theorem walk_cons (d : Disk) (l : Location) (piece : Text) (pieces : List Text) :
    d.walk l (piece :: pieces) = d.walkPiece l piece >>= fun l' => d.walk l' pieces := by
  unfold walk
  exact List.foldlM_cons

theorem walk_append (d : Disk) (l : Location) (before more : List Text) :
    d.walk l (before ++ more) = d.walk l before >>= fun l' => d.walk l' more := by
  unfold walk
  exact List.foldlM_append

/-- Whatever follows on a walk, it starts from something that is there in a tree that has grown, if
that is so where it ends. -/
theorem Grows.exists_entryAt? {pieces : List Text} {e : Entry} (hd : d.Grows d')
    (h : d.walk l pieces = .ok l') (he : d'.entryAt? l' = some e) :
    ∃ e', d'.entryAt? l = some e' := by
  cases pieces with
  | nil =>
    obtain rfl : l = l' := Except.ok.inj h
    exact ⟨e, he⟩
  | cons piece pieces =>
    rw [walk_cons] at h
    obtain ⟨l₁, hstep, -⟩ := exists_of_bind_eq_ok h
    obtain ⟨entries, hentries⟩ := hd.directories l (isDirectoryAt_of_walkPiece hstep)
    exact ⟨_, hentries⟩

/-- The way to what is still there stays, if all directories do. -/
theorem Grows.walk {pieces : List Text} {e : Entry} (hd : d.Grows d')
    (h : d.walk l pieces = .ok l') (he : d'.entryAt? l' = some e) : d'.walk l pieces = .ok l' := by
  induction pieces generalizing l with
  | nil => exact h
  | cons piece pieces ih =>
    rw [walk_cons] at h ⊢
    obtain ⟨l₁, hstep, hrest⟩ := exists_of_bind_eq_ok h
    obtain ⟨e₁, he₁⟩ := hd.exists_entryAt? hrest he
    have hl := hd.directories l (isDirectoryAt_of_walkPiece hstep)
    rw [walkPiece_of_entryAt? hstep hl he₁]
    exact ih hrest

theorem Grows.start (hd : d.Grows d') (p : Path) : d'.start p = d.start p := by
  unfold Disk.start
  rw [hd.workingDirectory]

theorem locate_eq_ok (h : d.locate p = .ok l) :
    checkPath p = .ok () ∧ d.walk (d.start p) (piecesOf p) = .ok l := by
  unfold locate at h
  obtain ⟨_, hcheck, hwalk⟩ := exists_of_bind_eq_ok h
  exact ⟨hcheck, hwalk⟩

theorem locate_of_walk (hcheck : checkPath p = .ok ())
    (h : d.walk (d.start p) (piecesOf p) = .ok l) : d.locate p = .ok l := by
  unfold locate
  rw [hcheck]
  exact h

/-- A path leads to what is still there. -/
theorem Grows.locate {e : Entry} (hd : d.Grows d') (h : d.locate p = .ok l)
    (he : d'.entryAt? l = some e) : d'.locate p = .ok l := by
  obtain ⟨hcheck, hwalk⟩ := locate_eq_ok h
  refine locate_of_walk hcheck ?_
  rw [hd.start]
  exact hd.walk hwalk he

theorem directoryOf_eq_ok {before : List Text} (h : d.directoryOf p before = .ok (l, entries)) :
    d.walk (d.start p) before = .ok l ∧ d.entryAt? l = some (.directory entries) := by
  unfold directoryOf at h
  cases hwalk : d.walk (d.start p) before with
  | error e =>
    rw [hwalk] at h
    cases h
  | ok l₁ =>
    rw [hwalk] at h
    simp only [bind, Except.bind] at h
    split at h
    next found hfound =>
      obtain ⟨rfl, rfl⟩ := Prod.mk.inj (Except.ok.inj h)
      exact ⟨rfl, hfound⟩
    next => cases h

/-- The directory in which a path is looked up stays, whatever is there now. -/
theorem Grows.directoryOf {before : List Text} (hd : d.Grows d')
    (h : d.directoryOf p before = .ok (l, entries)) :
    ∃ entries', d'.directoryOf p before = .ok (l, entries') := by
  obtain ⟨hwalk, hentries⟩ := directoryOf_eq_ok h
  obtain ⟨entries', hentries'⟩ := hd.directories l ⟨entries, hentries⟩
  refine ⟨entries', ?_⟩
  unfold Disk.directoryOf
  rw [hd.start, hd.walk hwalk hentries']
  simp only [bind, Except.bind, hentries']

/-- The place of a path: the directory behind all pieces but the last, which is looked up there. -/
structure Place (d : Disk) (p : Path) where
  before : List Text
  name : Text
  slashed : Bool
  location : Location
  entries : Entries
  split : splitTarget p = (before, name, slashed)
  directory : d.directoryOf p before = .ok (location, entries)
  length : name.byteLength ≤ longestName

namespace Place

/-- The location that the last piece leads to. -/
def target (place : d.Place p) : Location := place.name :: place.location

theorem entryAt? (place : d.Place p) :
    d.entryAt? place.location = some (.directory place.entries) :=
  (directoryOf_eq_ok place.directory).2

theorem entryAt?_target (place : d.Place p) :
    d.entryAt? place.target = place.entries.get? place.name :=
  entryAt?_cons place.entryAt? place.name

theorem itemAt?_target (place : d.Place p) :
    d.itemAt? place.target = (place.entries.get? place.name).map Entry.item := by
  rw [itemAt?, place.entryAt?_target]

theorem itemAt?_ne_directory (place : d.Place p)
    (h : ∀ inner, place.entries.get? place.name ≠ some (.directory inner)) :
    d.itemAt? place.target ≠ some .directory := by
  intro hitem
  obtain ⟨inner, hinner⟩ := isDirectoryAt_iff.2 hitem
  exact h inner (place.entryAt?_target.symm.trans hinner)

/-- A path has its place where it had it. -/
theorem target_eq (hd : d.Grows d') (place : d.Place p) (place' : d'.Place p) :
    place'.target = place.target := by
  have hsplit := place'.split
  rw [place.split] at hsplit
  obtain ⟨hbefore, hname, -⟩ : place.before = place'.before ∧ place.name = place'.name ∧
      place.slashed = place'.slashed := by simpa using hsplit
  obtain ⟨entries', hdir⟩ := hd.directoryOf place.directory
  have hdir' := place'.directory
  rw [← hbefore, hdir] at hdir'
  obtain ⟨hlocation, -⟩ := Prod.mk.inj (Except.ok.inj hdir')
  rw [target, target, hname, hlocation]

theorem exists_of_grows (hd : d.Grows d') (place : d.Place p) :
    ∃ place' : d'.Place p, place'.target = place.target ∧ place'.name = place.name ∧
      place'.slashed = place.slashed := by
  obtain ⟨entries', hdir⟩ := hd.directoryOf place.directory
  exact ⟨{ place with entries := entries', directory := hdir }, rfl, rfl, rfl⟩

theorem puts_set (place : d.Place p) {e : Entry} (h : d.itemAt? place.target ≠ some .directory)
    (he : e.IsLeaf) : d.Puts (d.modify place.location (Entries.set · place.name e)) place.target
      (some e.item) where
  itemAt? l := by
    rw [place.itemAt?_target] at h
    rw [itemAt?_modify place.entryAt? (changesLeaf_set h he), Entries.get?_set_self]
    rfl
  workingDirectory := rfl
  time := rfl

theorem puts_remove (place : d.Place p) (h : d.itemAt? place.target ≠ some .directory) :
    d.Puts (d.modify place.location (Entries.remove · place.name)) place.target none where
  itemAt? l := by
    rw [place.itemAt?_target] at h
    rw [itemAt?_modify place.entryAt? (changesLeaf_remove h), Entries.get?_remove, if_pos rfl]
    rfl
  workingDirectory := rfl
  time := rfl

end Place

/-- Only slashes follow the last piece of a path. -/
theorem piecesOf_of_splitTarget {before : List Text} {name : Text} {slashed : Bool}
    (h : splitTarget p = (before, name, slashed)) (hname : name ≠ []) :
    ∃ behind, piecesOf p = before ++ name :: behind ∧ (∀ piece ∈ behind, piece = []) ∧
      (slashed = false → behind = []) := by
  unfold splitTarget at h
  dsimp only at h
  split at h
  next =>
    obtain ⟨-, rfl, -⟩ : [] = before ∧ [] = name ∧ true = slashed := by simpa using h
    exact absurd rfl hname
  next last back hdrop =>
    obtain ⟨rfl, rfl, rfl⟩ : back.reverse = before ∧ last = name ∧
        decide ((piecesOf p).reverse.head? = some []) = slashed := by simpa using h
    obtain ⟨behind, hpieces, -, hempty⟩ := exists_of_reverse_dropWhile hdrop
    have hempty : ∀ piece ∈ behind, piece = [] := by simpa using hempty
    refine ⟨behind, hpieces, hempty, fun hslashed => ?_⟩
    -- An empty piece at the end would be a slash.
    rcases List.eq_nil_or_concat behind with hnil | ⟨behind, piece, hlast⟩
    · exact hnil
    · rw [List.concat_eq_append] at hlast
      obtain rfl : piece = [] := hempty piece (by simp [hlast])
      simp [hpieces, hlast] at hslashed

theorem ne_nil_of_isName {name : Text} (h : isName name = true) : name ≠ [] := by
  rintro rfl
  cases h

theorem walkPiece_of_isName {name : Text} (h : isName name = true)
    (hentries : d.entryAt? l = some (.directory entries)) :
    d.walkPiece l name = nameStep entries l name := by
  have hname : name ≠ [] ∧ name ≠ ['.'] ∧ name ≠ ['.', '.'] := by simpa [isName, and_assoc] using h
  rw [walkPiece_eq hentries, if_neg (by simp [hname]), if_neg hname.2.2]

/-- Slashes lead nowhere else. -/
theorem walk_slashes {behind : List Text} (hl : d.IsDirectoryAt l)
    (h : ∀ piece ∈ behind, piece = []) : d.walk l behind = .ok l := by
  obtain ⟨entries, hentries⟩ := hl
  induction behind with
  | nil => rfl
  | cons piece behind ih =>
    obtain ⟨rfl, hbehind⟩ := List.forall_mem_cons.1 h
    rw [walk_cons, walkPiece_eq hentries]
    exact ih hbehind

/-- What a path leads to is at the location it leads to. -/
theorem entry_eq_ok {e : Entry} :
    d.entry p = .ok e ↔ ∃ l, d.locate p = .ok l ∧ d.entryAt? l = some e := by
  unfold entry
  cases d.locate p with
  | error fault => simp [bind, Except.bind]
  | ok l => cases hentry : d.entryAt? l <;> simp [bind, Except.bind, hentry]

namespace Place

theorem walk_eq (place : d.Place p) (hname : isName place.name = true) (behind : List Text) :
    d.walk (d.start p) (place.before ++ place.name :: behind) =
      nameStep place.entries place.location place.name >>= fun l => d.walk l behind := by
  rw [walk_append, (directoryOf_eq_ok place.directory).1]
  show d.walk place.location (place.name :: behind) = _
  rw [walk_cons, walkPiece_of_isName hname place.entryAt?]

/-- A path leads to its place, if there is something; a slash behind it asks for a directory. -/
theorem locate (place : d.Place p) (hcheck : checkPath p = .ok ())
    (hname : isName place.name = true) {e : Entry} (he : d.entryAt? place.target = some e)
    (hslashed : place.slashed = true → d.IsDirectoryAt place.target) :
    d.locate p = .ok place.target := by
  obtain ⟨behind, hpieces, hempty, hnil⟩ :=
    piecesOf_of_splitTarget place.split (ne_nil_of_isName hname)
  rw [place.entryAt?_target] at he
  refine locate_of_walk hcheck ?_
  rw [hpieces, place.walk_eq hname, nameStep_of_get? place.length he]
  show d.walk place.target behind = _
  cases hs : place.slashed with
  | true => exact walk_slashes (hslashed hs) hempty
  | false =>
    rw [hnil hs]
    rfl

/-- Without a slash behind it, a path leads nowhere but to its place. -/
theorem target_of_locate (place : d.Place p) (hname : isName place.name = true)
    (hslashed : place.slashed = false) (h : d.locate p = .ok l) : l = place.target := by
  obtain ⟨behind, hpieces, -, hnil⟩ :=
    piecesOf_of_splitTarget place.split (ne_nil_of_isName hname)
  obtain ⟨-, hwalk⟩ := locate_eq_ok h
  rw [hpieces, hnil hslashed, place.walk_eq hname] at hwalk
  obtain ⟨l', hstep, hl'⟩ := exists_of_bind_eq_ok hwalk
  obtain rfl : l' = l := Except.ok.inj hl'
  exact (nameStep_eq_ok hstep).1

end Place
end Disk
end MustacheBuild
