import Mathlib.Data.List.Basic
import MustacheBuild.Proofs.Data.Lookup

/-!
What the insertion of a field changes. The field takes the place of one with its key, or else the
last place, and all others stay as they are. So the key itself finds the new value, and another key
can find it only where it is the same up to case, is none of the object's own, and no other such key
stands further in front.
-/
namespace MustacheBuild

namespace Fields

/-- The keys, in order. -/
def keys (fields : Fields) : List Text := fields.map (·.1)

/-- The fields with others inserted one after the other. -/
def insertAll (fields inserts : Fields) : Fields :=
  inserts.foldl (fun fields field => fields.insert field.1 field.2) fields

/-- What becomes of an object's fields, and of what is found in it, when one field is inserted. -/
structure Insertion (fields : Fields) (name : Text) (value : Data) (result : Fields) : Prop where
  keys : result.keys = if name ∈ fields.keys then fields.keys else fields.keys ++ [name]
  others : result.filter (·.1 != name) = fields.filter (·.1 != name)
  get?_name : result.get? name = some value
  get?_key : ∀ key ∈ fields.keys, key ≠ name → result.get? key = fields.exactly? key
  get?_differing : ∀ key, Text.equalIgnoringCase name key = false →
    result.get? key = fields.get? key
  get?_variant : ∀ key, Text.equalIgnoringCase name key = true → key ≠ name → key ∉ fields.keys →
    result.get? key = (result.find? (Text.equalIgnoringCase ·.1 key)).map (·.2)
  /-- The inserted field is found by a variant of its key if none stands in front of it. -/
  find?_variant : ∀ key, Text.equalIgnoringCase name key = true →
    (result.find? (Text.equalIgnoringCase ·.1 key) = some (name, value) ↔
      ∀ other ∈ result.keys.takeWhile (· != name), Text.equalIgnoringCase other name = false)

/-- What becomes of them when one field after the other is inserted. -/
structure Insertions (fields inserts result : Fields) : Prop where
  /-- New keys follow the old ones, in the order in which they first came. -/
  keys : result.keys = fields.keys ++ (inserts.keys.filter (· ∉ fields.keys)).eraseDups
  others : result.filter (·.1 ∉ inserts.keys) = fields.filter (·.1 ∉ inserts.keys)
  /-- Of the values for one key the last one stays. -/
  exactly? : ∀ key,
    result.exactly? key = (Fields.exactly? inserts.reverse key).or (fields.exactly? key)
  get?_key : ∀ key ∈ result.keys, result.get? key = result.exactly? key
  get?_variant : ∀ key, key ∉ result.keys →
    result.get? key = (result.keys.find? (Text.equalIgnoringCase · key)).bind result.exactly?
  get?_differing : ∀ key, (∀ name ∈ inserts.keys, Text.equalIgnoringCase name key = false) →
    result.get? key = fields.get? key

section
variable {fields : Fields} {key name : Text} {value : Data}

@[simp] theorem keys_nil : keys [] = [] := rfl

@[simp] theorem keys_cons (field : Text × Data) (rest : Fields) :
    keys (field :: rest) = field.1 :: rest.keys := rfl

@[simp] theorem insertAll_nil (fields : Fields) : fields.insertAll [] = fields := rfl

@[simp] theorem insertAll_cons (fields : Fields) (field : Text × Data) (rest : Fields) :
    fields.insertAll (field :: rest) = (fields.insert field.1 field.2).insertAll rest := rfl

/-! ## Looking up -/

theorem exactly?_cons (field : Text × Data) (rest : Fields) (key : Text) :
    exactly? (field :: rest) key = if field.1 = key then some field.2 else rest.exactly? key := by
  unfold exactly?
  split
  next hkey => simp [hkey]
  next hkey => simp [hkey]

theorem exactly?_eq_none_iff : fields.exactly? key = none ↔ key ∉ fields.keys := by
  induction fields with
  | nil => simp [exactly?]
  | cons field rest ih =>
    rw [exactly?_cons, keys_cons, List.mem_cons, not_or, ← ih]
    split
    next hkey => simp [hkey]
    next hkey => simp [Ne.symm hkey]

theorem get?_of_mem (h : key ∈ fields.keys) : fields.get? key = fields.exactly? key := by
  rw [get?]
  cases hexact : fields.exactly? key with
  | none => exact absurd h (exactly?_eq_none_iff.1 hexact)
  | some value => rfl

theorem get?_of_notMem (h : key ∉ fields.keys) : fields.get? key = fields.ignoringCase? key := by
  rw [get?, exactly?_eq_none_iff.2 h, Option.none_or]

/-- The order of the keys and their own values tell what is found ignoring case. -/
theorem ignoringCase?_eq_bind (fields : Fields) (key : Text) :
    fields.ignoringCase? key =
      (fields.keys.find? (Text.equalIgnoringCase · key)).bind fields.exactly? := by
  induction fields with
  | nil => rfl
  | cons field rest ih =>
    rw [ignoringCase?, keys_cons, List.find?_cons, List.find?_cons]
    cases hfield : Text.equalIgnoringCase field.1 key with
    | true => simp [exactly?_cons]
    | false =>
      dsimp only
      rw [← ignoringCase?, ih]
      apply Option.bind_congr
      intro found hfound
      have hvariant : Text.equalIgnoringCase found key = true := by
        simpa using List.find?_some hfound
      have hne : field.1 ≠ found := by
        rintro rfl
        simp [hvariant] at hfield
      rw [exactly?_cons, if_neg hne]

/-! ## One field -/

/-- The inserted field stands behind fields with other keys. -/
theorem exists_insert_eq (fields : Fields) (name : Text) (value : Data) :
    ∃ front behind : Fields, (∀ field ∈ front, field.1 ≠ name) ∧
      fields.insert name value = front ++ (name, value) :: behind := by
  induction fields with
  | nil => exact ⟨[], [], by simp, rfl⟩
  | cons field rest ih =>
    by_cases hname : field.1 = name
    · refine ⟨[], rest, by simp, ?_⟩
      rw [insert, if_pos hname, List.nil_append]
    · obtain ⟨front, behind, hfront, hrest⟩ := ih
      refine ⟨field :: front, behind, List.forall_mem_cons.2 ⟨hname, hfront⟩, ?_⟩
      rw [insert, if_neg hname, hrest, List.cons_append]

theorem keys_insert (fields : Fields) (name : Text) (value : Data) :
    (fields.insert name value).keys =
      if name ∈ fields.keys then fields.keys else fields.keys ++ [name] := by
  induction fields with
  | nil => rfl
  | cons field rest ih =>
    rw [insert]
    split
    next hname => simp [hname]
    next hname =>
      have hmem : name ∈ field.1 :: keys rest ↔ name ∈ keys rest := by simp [Ne.symm hname]
      simp only [keys_cons, ih, hmem]
      split
      next => rfl
      next => rfl

theorem filter_insert (fields : Fields) (name : Text) (value : Data) :
    (fields.insert name value).filter (·.1 != name) = fields.filter (·.1 != name) := by
  induction fields with
  | nil => simp [insert]
  | cons field rest ih =>
    rw [insert]
    split
    next hname => simp [hname]
    next hname => rw [List.filter_cons, List.filter_cons, ih]

theorem exactly?_insert (fields : Fields) (name : Text) (value : Data) (key : Text) :
    (fields.insert name value).exactly? key =
      if name = key then some value else fields.exactly? key := by
  induction fields with
  | nil => rw [insert, exactly?_cons]
  | cons field rest ih =>
    rw [insert]
    split
    next hname =>
      rw [exactly?_cons, exactly?_cons, hname]
      split
      next => rfl
      next => rfl
    next hname =>
      rw [exactly?_cons, exactly?_cons, ih]
      split
      next hfield => rw [if_neg (hfield ▸ Ne.symm hname)]
      next => rfl

/-- The inserted field is found by a variant of its key if none stands in front of it. -/
theorem find?_insert_of_variant (hvariant : Text.equalIgnoringCase name key = true) :
    (fields.insert name value).find? (Text.equalIgnoringCase ·.1 key) = some (name, value) ↔
      ∀ other ∈ (fields.insert name value).keys.takeWhile (· != name),
        Text.equalIgnoringCase other name = false := by
  obtain ⟨front, behind, hfront, hinsert⟩ := exists_insert_eq fields name value
  have hkeys : (fields.insert name value).keys.takeWhile (· != name) = front.map (·.1) := by
    have hothers : ∀ other ∈ front.map (·.1), (other != name) = true := by
      simpa using fun other value hmem => hfront (other, value) hmem
    rw [hinsert, keys, List.map_append, List.takeWhile_append_of_pos hothers]
    simp
  have hsame (other : Text) :
      Text.equalIgnoringCase other key = Text.equalIgnoringCase other name := by
    simp only [Text.equalIgnoringCase, Text.equalIgnoringCase_iff.1 hvariant]
  rw [hkeys, hinsert, List.find?_append, List.find?_cons_of_pos (by exact hvariant)]
  cases hfind : front.find? (Text.equalIgnoringCase ·.1 key) with
  | none =>
    rw [List.find?_eq_none] at hfind
    simp only [Option.none_or, true_iff, List.forall_mem_map]
    intro field hfield
    rw [← hsame]
    simpa using hfind field hfield
  | some field =>
    have hmem := List.mem_of_find?_eq_some hfind
    have hfield : Text.equalIgnoringCase field.1 key = true := by simpa using List.find?_some hfind
    rw [hsame] at hfield
    constructor
    · intro hfound
      obtain rfl : field = (name, value) := by simpa using hfound
      exact absurd rfl (hfront _ hmem)
    · intro hnone
      have hother := hnone field.1 (List.mem_map_of_mem hmem)
      rw [hfield] at hother
      contradiction

theorem insertion_insert (fields : Fields) (name : Text) (value : Data) :
    Insertion fields name value (fields.insert name value) := by
  have hkeys := keys_insert fields name value
  have hmem {key : Text} :
      key ∈ (fields.insert name value).keys ↔ key ∈ fields.keys ∨ key = name := by
    rw [hkeys]
    split
    next hname =>
      refine ⟨Or.inl, ?_⟩
      rintro (hkey | rfl)
      · exact hkey
      · exact hname
    next => simp
  constructor
  case keys => exact hkeys
  case others => exact filter_insert fields name value
  case get?_name => rw [get?_of_mem (hmem.2 (Or.inr rfl)), exactly?_insert, if_pos rfl]
  case get?_key =>
    intro key hkey hne
    rw [get?_of_mem (hmem.2 (Or.inl hkey)), exactly?_insert, if_neg hne.symm]
  case get?_differing =>
    intro key hdiffers
    exact get?_insert_of_differs hdiffers value
  case get?_variant =>
    intro key _ hne hkey
    have hnew : key ∉ (fields.insert name value).keys := by
      rw [hmem, not_or]
      exact ⟨hkey, hne⟩
    exact get?_of_notMem hnew
  case find?_variant =>
    intro key hvariant
    exact find?_insert_of_variant hvariant

/-! ## One field after the other -/

theorem keys_insertAll (fields inserts : Fields) :
    (fields.insertAll inserts).keys =
      fields.keys ++ (inserts.keys.filter (· ∉ fields.keys)).eraseDups := by
  induction inserts generalizing fields with
  | nil => simp
  | cons field rest ih =>
    rw [insertAll_cons, ih, keys_insert, keys_cons]
    by_cases hname : field.1 ∈ fields.keys
    · simp [hname]
    · -- The new key is one of the old ones for the rest.
      have hnew : (keys rest).filter (· ∉ fields.keys ++ [field.1]) =
          ((keys rest).filter (· ∉ fields.keys)).filter (!· == field.1) := by
        rw [List.filter_filter]
        apply List.filter_congr
        intro key _
        rw [Bool.eq_iff_iff]
        simp [and_comm]
      rw [if_neg hname, hnew, List.filter_cons_of_pos (by simpa using hname), List.eraseDups_cons,
        List.append_assoc, List.singleton_append]

theorem filter_insertAll (fields inserts : Fields) :
    (fields.insertAll inserts).filter (·.1 ∉ inserts.keys) =
      fields.filter (·.1 ∉ inserts.keys) := by
  induction inserts generalizing fields with
  | nil => rfl
  | cons field rest ih =>
    have hsplit (all : Fields) : all.filter (·.1 ∉ keys (field :: rest)) =
        (all.filter (·.1 ∉ keys rest)).filter (·.1 != field.1) := by
      rw [List.filter_filter]
      apply List.filter_congr
      intro other _
      rw [Bool.eq_iff_iff]
      simp [not_or]
    rw [hsplit, hsplit, insertAll_cons, ih, List.filter_comm,
      filter_insert, List.filter_comm]

theorem exactly?_append (front behind : Fields) (key : Text) :
    Fields.exactly? (front ++ behind) key = (front.exactly? key).or (behind.exactly? key) := by
  simp [exactly?, List.find?_append, Option.map_or]

theorem exactly?_insertAll (fields inserts : Fields) (key : Text) :
    (fields.insertAll inserts).exactly? key =
      (Fields.exactly? inserts.reverse key).or (fields.exactly? key) := by
  induction inserts generalizing fields with
  | nil => rfl
  | cons field rest ih =>
    have hlast : exactly? [field] key = if field.1 = key then some field.2 else none :=
      exactly?_cons field [] key
    rw [insertAll_cons, ih, exactly?_insert, List.reverse_cons,
      exactly?_append, Option.or_assoc, hlast]
    split
    next => rfl
    next => rfl

theorem get?_insertAll_of_differing {inserts : Fields} (fields : Fields)
    (h : ∀ name ∈ inserts.keys, Text.equalIgnoringCase name key = false) :
    (fields.insertAll inserts).get? key = fields.get? key := by
  induction inserts generalizing fields with
  | nil => rfl
  | cons field rest ih =>
    rw [keys_cons, List.forall_mem_cons] at h
    rw [insertAll_cons, ih _ h.2, get?_insert_of_differs h.1]

theorem insertions_insertAll (fields inserts : Fields) :
    Insertions fields inserts (fields.insertAll inserts) := by
  constructor
  case keys => exact keys_insertAll fields inserts
  case others => exact filter_insertAll fields inserts
  case exactly? => exact exactly?_insertAll fields inserts
  case get?_key =>
    intro key hkey
    exact get?_of_mem hkey
  case get?_variant =>
    intro key hkey
    rw [get?_of_notMem hkey, ignoringCase?_eq_bind]
  case get?_differing =>
    intro key hdiffers
    exact get?_insertAll_of_differing fields hdiffers

end
end Fields

namespace Data

theorem foldlM_insert? (fields inserts : Fields) :
    inserts.foldlM (fun d field => d.insert? field.1 field.2) (object fields) =
      some (object (fields.insertAll inserts)) := by
  induction inserts generalizing fields with
  | nil => rfl
  | cons field rest ih => exact ih (fields.insert field.1 field.2)

/-- An object takes every field that is inserted, and finds the value under its key. Under the other
keys it finds what it found before, but for those that are the new one up to case and none of its
own: they find the first field in order. -/
theorem insertion_of_insert? :
    (∀ (fields : Fields) (name : Text) (value : Data), ∃ result : Fields,
      (object fields).insert? name value = some (object result) ∧
        fields.Insertion name value result) ∧
    ∀ fields inserts : Fields, ∃ result : Fields,
      inserts.foldlM (fun d field => d.insert? field.1 field.2) (object fields) =
        some (object result) ∧ fields.Insertions inserts result := by
  constructor
  · intro fields name value
    exact ⟨fields.insert name value, rfl, Fields.insertion_insert fields name value⟩
  · intro fields inserts
    exact ⟨fields.insertAll inserts, foldlM_insert? fields inserts,
      Fields.insertions_insertAll fields inserts⟩

/-- A value that has the inserted key in another case already is found in every case but the new,
and keys that differ by more than their case find what they found, in whatever case. -/
theorem insertion_of_variant :
    let fields : Fields := [("templatefile".toList, text ['u']), ("ÄHRE".toList, bool true)]
    let inserts : Fields := [("TemplateFile".toList, text ['f']), ("Ähre".toList, null)]
    (∃ result : Fields,
      (object fields).insert? "TemplateFile".toList (text ['f']) = some (object result) ∧
        result.get? "TemplateFile".toList = some (text ['f']) ∧
        result.get? "templatefile".toList = some (text ['u']) ∧
        result.get? "TEMPLATEFILE".toList = some (text ['u']) ∧
        result.get? "ähre".toList = some (bool true)) ∧
    ∃ result : Fields,
      inserts.foldlM (fun d field => d.insert? field.1 field.2) (object fields) =
        some (object result) ∧
        result.get? "Ähre".toList = some null ∧ result.get? "ähre".toList = some (bool true) := by
  intro fields inserts
  refine ⟨?_, ?_⟩
  · obtain ⟨result, hresult, h⟩ :=
      insertion_of_insert?.1 fields "TemplateFile".toList (text ['f'])
    have hother := h.get?_key "templatefile".toList (by decide) (by decide)
    have hvariant := h.get?_variant "TEMPLATEFILE".toList (by decide) (by decide) (by decide)
    have hdiffering := h.get?_differing "ähre".toList (by decide)
    obtain rfl : fields.insert "TemplateFile".toList (text ['f']) = result :=
      object.inj (Option.some.inj hresult)
    exact ⟨_, hresult, h.get?_name, hother.trans rfl, hvariant.trans rfl, hdiffering.trans rfl⟩
  · obtain ⟨result, hresult, h⟩ := insertion_of_insert?.2 fields inserts
    obtain rfl : fields.insertAll inserts = result := object.inj (Option.some.inj hresult)
    have hkey := h.get?_key "Ähre".toList (by decide)
    have hvariant := h.get?_variant "ähre".toList (by decide)
    exact ⟨_, hresult, hkey.trans rfl, hvariant.trans rfl⟩

end Data
end MustacheBuild
