import MustacheBuild.Store.Disk

/-!
Entries of a directory tree: which ones a change of one directory leaves, and that all others stay
where they are and as they are.
-/
namespace MustacheBuild
namespace Entries

variable {entries : Entries} {name other : Text} {entry : Entry}

theorem get?_cons (e : Text × Entry) (rest : Entries) (name : Text) :
    Entries.get? (e :: rest) name = if e.1 = name then some e.2 else rest.get? name := by
  unfold get?
  by_cases h : e.1 = name <;> simp [h]

theorem get?_set_self (entries : Entries) (name : Text) (entry : Entry) :
    (entries.set name entry).get? name = some entry := by
  induction entries with
  | nil => simp [set, get?_cons]
  | cons e rest ih =>
    unfold set
    by_cases h : e.1 = name
    · simp [h, get?_cons]
    · simp [h, get?_cons, ih]

theorem get?_set_of_ne (entries : Entries) (entry : Entry) (h : other ≠ name) :
    (entries.set name entry).get? other = entries.get? other := by
  induction entries with
  | nil => simp [set, h.symm, get?]
  | cons e rest ih =>
    unfold set
    by_cases he : e.1 = name
    · simp [he, get?_cons, h.symm]
    · simp [he, get?_cons, ih]

theorem get?_remove (entries : Entries) (name other : Text) :
    (entries.remove name).get? other = if other = name then none else entries.get? other := by
  induction entries with
  | nil => simp [remove, get?]
  | cons e rest ih =>
    have hcons : Entries.remove (e :: rest) name =
        if e.1 = name then Entries.remove rest name else e :: Entries.remove rest name := by
      by_cases he : e.1 = name <;> simp [remove, he]
    rw [hcons, get?_cons]
    by_cases he : e.1 = name
    · rw [if_pos he, ih]
      by_cases hother : other = name
      · rw [if_pos hother, if_pos hother]
      · have hne : e.1 ≠ other := fun heq => hother (heq ▸ he)
        rw [if_neg hother, if_neg hother, if_neg hne]
    · rw [if_neg he, get?_cons, ih]
      by_cases hother : other = name
      · have hne : e.1 ≠ other := fun heq => he (heq.trans hother)
        rw [if_pos hother, if_neg hne, if_pos hother]
      · rw [if_neg hother, if_neg hother]

end Entries

namespace Entry

/-- The entry that names lead to from an entry, the first name first. -/
def at? : Entry → List Text → Option Entry
  | e, [] => some e
  | file _ _, _ :: _ => none
  | directory entries, name :: names => (Entries.get? entries name).bind (·.at? names)

theorem at?_append (e : Entry) (names more : List Text) :
    e.at? (names ++ more) = (e.at? names).bind (·.at? more) := by
  induction names generalizing e with
  | nil => simp [at?]
  | cons name names ih =>
    cases e with
    | file => simp [at?]
    | directory entries =>
      simp only [List.cons_append, at?]
      cases Entries.get? entries name with
      | none => rfl
      | some inner => simp [ih]

end Entry

/-- What is at a place in a tree, without what is within it. -/
inductive Item where
  | file (content : Bytes) (modified : Nat)
  | directory
  deriving DecidableEq

namespace Entry

def item : Entry → Item
  | .file content modified => .file content modified
  | .directory _ => .directory

/-- Nothing is within the entry. -/
def IsLeaf (e : Entry) : Prop := ∀ name names, e.at? (name :: names) = none

theorem isLeaf_of_item {e : Entry} (h : e.item ≠ .directory) : e.IsLeaf := by
  cases e with
  | file => exact fun _ _ => rfl
  | directory => exact absurd rfl h

end Entry

/-- A change of the entry of one name, within which there is nothing before and behind it. -/
structure ChangesLeaf (change : Entries → Entries) (name : Text) (entries : Entries) : Prop where
  others : ∀ other, other ≠ name → (change entries).get? other = entries.get? other
  before : ∀ e, entries.get? name = some e → e.IsLeaf
  behind : ∀ e, (change entries).get? name = some e → e.IsLeaf

section
variable {entries : Entries} {name : Text}

theorem isLeaf_of_get? (h : (entries.get? name).map Entry.item ≠ some .directory) :
    ∀ e, entries.get? name = some e → e.IsLeaf := by
  intro e he
  rw [he, Option.map_some] at h
  exact Entry.isLeaf_of_item fun hitem => h (congrArg some hitem)

theorem changesLeaf_set {e : Entry} (h : (entries.get? name).map Entry.item ≠ some .directory)
    (he : e.IsLeaf) : ChangesLeaf (Entries.set · name e) name entries where
  others _ := Entries.get?_set_of_ne entries e
  before := isLeaf_of_get? h
  behind e' he' := by
    obtain rfl : e = e' := by simpa [Entries.get?_set_self] using he'
    exact he

theorem changesLeaf_remove (h : (entries.get? name).map Entry.item ≠ some .directory) :
    ChangesLeaf (Entries.remove · name) name entries where
  others other hother := by rw [Entries.get?_remove, if_neg hother]
  before := isLeaf_of_get? h
  behind e he := by simp [Entries.get?_remove] at he

end

namespace Entries

variable {change : Entries → Entries} {names : List Text} {entries inner : Entries}

/-- The entries that are changed are those of the directory to which the names lead. -/
theorem at?_modifyAt (h : (Entry.directory entries).at? names = some (.directory inner)) :
    (Entry.directory (modifyAt change names entries)).at? names =
      some (.directory (change inner)) := by
  induction names generalizing entries with
  | nil =>
    obtain rfl : entries = inner := by simpa [Entry.at?] using h
    rfl
  | cons name names ih =>
    simp only [Entry.at?] at h
    obtain ⟨e, he, hinner⟩ := Option.bind_eq_some_iff.1 h
    cases e with
    | file => cases names <;> simp [Entry.at?] at hinner
    | directory below =>
      rw [modifyAt, he]
      simp only [Entry.at?, get?_set_self, Option.bind_some]
      exact ih hinner

/-- A change of one name changes what is there, and nothing elsewhere in the tree. -/
theorem item_at?_modifyAt {name : Text} {others : List Text}
    (h : (Entry.directory entries).at? names = some (.directory inner))
    (hchange : ChangesLeaf change name inner) (hothers : others ≠ names ++ [name]) :
    ((Entry.directory (modifyAt change names entries)).at? others).map Entry.item =
      ((Entry.directory entries).at? others).map Entry.item := by
  induction names generalizing entries others with
  | nil =>
    obtain rfl : entries = inner := by simpa [Entry.at?] using h
    cases others with
    | nil => rfl
    | cons other others =>
      simp only [modifyAt, Entry.at?]
      by_cases hname : other = name
      · -- Only names within the entry are left, and there is nothing.
        obtain ⟨first, rest, rfl⟩ := List.exists_cons_of_ne_nil (l := others)
          fun hnil => hothers (by rw [hname, hnil]; rfl)
        have hnone : ∀ found : Option Entry, (∀ e, found = some e → e.IsLeaf) →
            found.bind (·.at? (first :: rest)) = none := fun found hleaf =>
          Option.bind_eq_none_iff.2 fun e he => hleaf e he first rest
        rw [hname, hnone _ hchange.before, hnone _ hchange.behind]
      · rw [hchange.others other hname]
  | cons name' names ih =>
    simp only [Entry.at?] at h
    obtain ⟨e, he, hinner⟩ := Option.bind_eq_some_iff.1 h
    cases e with
    | file => cases names <;> simp [Entry.at?] at hinner
    | directory below =>
      rw [modifyAt, he]
      cases others with
      | nil => rfl
      | cons other others =>
        simp only [Entry.at?]
        by_cases hname : other = name'
        · subst hname
          rw [get?_set_self, he]
          exact ih hinner fun heq => hothers (by rw [heq]; rfl)
        · rw [get?_set_of_ne entries _ hname]

end Entries
end MustacheBuild
