import Mathlib.Data.List.Find
import MustacheBuild.Data.Basic

/-!
When the case of a key makes no difference to what is found under it, and which keys an insertion
does not reach.
-/
namespace MustacheBuild

namespace Fields

variable {fields : Fields} {key other : Text} {value : Data}

/-- A field that is inserted is not seen by a search that its key does not pass. -/
theorem find?_insert (p : Text → Bool) (h : p key = false) (value : Data) :
    (fields.insert key value).find? (p ·.1) = fields.find? (p ·.1) := by
  induction fields with
  | nil => simp [insert, h]
  | cons field rest ih =>
    rw [insert]
    split
    next hkey =>
      have hfield : p field.1 = false := hkey ▸ h
      simp [h, hfield]
    next => rw [List.find?_cons, List.find?_cons, ih]

/-- A key that differs by more than its case is found as before. -/
theorem get?_insert_of_differs (h : Text.equalIgnoringCase key other = false) (value : Data) :
    (fields.insert key value).get? other = fields.get? other := by
  have hne : (key == other) = false := by
    rw [beq_eq_false_iff_ne]
    rintro rfl
    simp at h
  rw [get?, get?, exactly?, exactly?, ignoringCase?, ignoringCase?, find?_insert (· == other) hne,
    find?_insert (Text.equalIgnoringCase · other) h]

theorem exists_mem_of_get? (h : fields.get? key = some value) :
    ∃ field ∈ fields, field.2 = value := by
  rcases Option.or_eq_some_iff.1 h with h | ⟨-, h⟩ <;>
    obtain ⟨field, hfind, hvalue⟩ := Option.map_eq_some_iff.1 h <;>
    exact ⟨field, List.mem_of_find?_eq_some hfind, hvalue⟩

/-- No two different keys are equal up to case. -/
def CaseDistinct (fields : Fields) : Prop :=
  ∀ a ∈ fields, ∀ b ∈ fields, Text.equalIgnoringCase a.1 b.1 = true → a.1 = b.1

instance (fields : Fields) : Decidable fields.CaseDistinct :=
  inferInstanceAs (Decidable (∀ a ∈ fields, ∀ b ∈ fields, _ → _))

/-- Where keys differ by more than their case, the exact key has no precedence. -/
theorem CaseDistinct.get?_eq (h : fields.CaseDistinct) (key : Text) :
    fields.get? key = fields.ignoringCase? key := by
  rw [get?]
  cases hexact : fields.exactly? key with
  | none => rfl
  | some value =>
    obtain ⟨field, hfind, -⟩ := Option.map_eq_some_iff.1 hexact
    have hmem := List.mem_of_find?_eq_some hfind
    obtain rfl : field.1 = key := by simpa using List.find?_some hfind
    have hsame : ∀ f ∈ fields, (f.1 == field.1) = Text.equalIgnoringCase f.1 field.1 := by
      intro f hf
      rw [Bool.eq_iff_iff, beq_iff_eq]
      exact ⟨fun heq => heq ▸ Text.equalIgnoringCase_self _, h f hf field hmem⟩
    rw [Option.some_or, ← hexact, exactly?, ignoringCase?, List.find?_congr hsame]

/-- Where keys differ by more than their case, a key is found in any case. -/
theorem CaseDistinct.get?_congr (h : fields.CaseDistinct)
    (hkeys : Text.equalIgnoringCase key other = true) : fields.get? key = fields.get? other := by
  have hfolded := Text.equalIgnoringCase_iff.1 hkeys
  rw [h.get?_eq, h.get?_eq, ignoringCase?, ignoringCase?]
  simp only [Text.equalIgnoringCase, hfolded]

end Fields

namespace Data

/-- In no object of the data, at any depth, are two different keys equal up to case. -/
inductive CaseDistinct : Data → Prop
  | null : CaseDistinct null
  | bool (b : Bool) : CaseDistinct (bool b)
  | number (n : Number) : CaseDistinct (number n)
  | text (t : Text) : CaseDistinct (text t)
  | array {items : List Data} : (∀ item ∈ items, CaseDistinct item) → CaseDistinct (array items)
  | object {fields : Fields} : fields.CaseDistinct →
    (∀ field ∈ fields, CaseDistinct field.2) → CaseDistinct (object fields)

variable {d child : Data} {key other : Text}

theorem CaseDistinct.of_get? (h : d.CaseDistinct) (hchild : d.get? key = some child) :
    child.CaseDistinct := by
  cases h with
  | object _ hfields =>
    obtain ⟨field, hfield, rfl⟩ := Fields.exists_mem_of_get? hchild
    exact hfields field hfield
  | _ => cases hchild

theorem CaseDistinct.get?_congr (h : d.CaseDistinct)
    (hkeys : Text.equalIgnoringCase key other = true) : d.get? key = d.get? other := by
  cases h with
  | object hkey _ => exact hkey.get?_congr hkeys
  | _ => rfl

end Data
end MustacheBuild
