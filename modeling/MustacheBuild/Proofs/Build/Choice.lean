import MustacheBuild.Proofs.Build.Unit

/-!
Which encodings a template can have, and which texts are read back in them.
-/
namespace MustacheBuild

variable {form : UnicodeForm} {mark : Bool} {dataFile : Text} {field : Option Text}
  {template : Bytes} {choice : EncodingChoice}

/-- Where no name is given, the encoding is plain UTF-8, unless the template has a mark. -/
theorem chooseEncoding_of_none (h : DataFile.encodingName? field = none) :
    chooseEncoding dataFile field template =
      .ok ⟨dataFile, Encoding.plainUtf8, Encoding.plainUtf8.detect template⟩ := by
  rw [chooseEncoding, h]
  rfl

theorem declared_of_chooseEncoding (h : chooseEncoding dataFile field template = .ok choice) :
    choice.resolved = choice.declared.detect template ∧
      (choice.declared = Encoding.plainUtf8 ∨
        ∃ label, Encoding.ofLabel label = .ok choice.declared) := by
  cases hname : DataFile.encodingName? field with
  | none =>
    rw [chooseEncoding_of_none hname] at h
    cases h
    exact ⟨rfl, Or.inl rfl⟩
  | some label =>
    rw [chooseEncoding, hname] at h
    cases hlabel : Encoding.ofLabel label with
    | error e =>
      simp only [hlabel] at h
      cases h
    | ok declared =>
      simp only [hlabel] at h
      cases h
      exact ⟨rfl, Or.inr ⟨label, hlabel⟩⟩

namespace Encoding

/-- Some field of a data file and some template lead to the encoding. -/
def Choosable (e : Encoding) : Prop :=
  ∃ dataFile field template choice,
    chooseEncoding dataFile field template = .ok choice ∧ choice.resolved = e

/-- A label of a Unicode form asks for a mark. -/
theorem mark_of_ofLabel {label : Text} (h : ofLabel label = .ok (unicode form mark)) :
    mark = true := by
  rw [ofLabel] at h
  split at h
  · cases h
    rfl
  · split at h <;> cases h

/-- The Unicode encodings of templates are those with a mark, and plain UTF-8. -/
theorem choosable_unicode_iff : (unicode form mark).Choosable ↔ mark = true ∨ form = .utf8 := by
  constructor
  · rintro ⟨dataFile, field, template, choice, hchoice, hresolved⟩
    obtain ⟨hdetect, hdeclared⟩ := declared_of_chooseEncoding hchoice
    rw [hresolved] at hdetect
    cases hseen : UnicodeForm.announced? template with
    | some seen =>
      rw [detect_of_announced? _ hseen] at hdetect
      cases hdetect
      exact Or.inl rfl
    | none =>
      rw [detect_of_none _ hseen] at hdetect
      rcases hdeclared with hplain | ⟨label, hlabel⟩
      · rw [← hdetect] at hplain
        cases hplain
        exact Or.inr rfl
      · rw [← hdetect] at hlabel
        exact Or.inl (mark_of_ofLabel hlabel)
  · intro h
    have hnone : DataFile.encodingName? none = none := rfl
    cases mark with
    | true =>
      have hseen : UnicodeForm.announced? (form.mark ++ []) = some form :=
        UnicodeForm.announced?_mark_append (by simp)
      exact ⟨[], none, _, _, chooseEncoding_of_none hnone, detect_of_announced? _ hseen⟩
    | false =>
      obtain rfl : form = .utf8 := h.resolve_left Bool.false_ne_true
      exact ⟨[], none, [], _, chooseEncoding_of_none hnone, rfl⟩

/-- Where a template can have the encoding, only two kinds of text are taken for another form. -/
theorem keepsMark_choosable_iff (h : (unicode form mark).Choosable) (t : Text) :
    (unicode form mark).KeepsMark t ↔
      ¬ (unicode form mark = unicode (.utf16 .little) true ∧ t.head? = some '\x00') ∧
        ¬ (unicode form mark = plainUtf8 ∧ t.head? = some '\uFEFF') := by
  cases mark with
  | true => simp [keepsMark_marked_iff, plainUtf8]
  | false =>
    obtain rfl : form = .utf8 := (choosable_unicode_iff.1 h).resolve_left Bool.false_ne_true
    simpa [plainUtf8, markChar] using keepsMark_plainUtf8_iff t

/-- In an encoding that a template can have, a Unicode text is read back, but for a null at the
start of marked UTF-16 with the least byte first and a mark at the start of plain UTF-8. -/
theorem decode_encode_choosable_iff (h : (unicode form mark).Choosable) (t : Text) :
    (unicode form mark).decode ((unicode form mark).encode t) = t ↔
      ¬ (unicode form mark = unicode (.utf16 .little) true ∧ t.head? = some '\x00') ∧
        ¬ (unicode form mark = plainUtf8 ∧ t.head? = some '\uFEFF') := by
  rw [decode_encode_iff, keepsMark_choosable_iff h]

/-- A null is read back behind another character, and not in front of it. -/
theorem decode_encode_null_utf16 :
    let e : Encoding := unicode (.utf16 .little) true
    e.Choosable ∧ e.decode (e.encode ['a', '\x00']) = ['a', '\x00'] ∧
      e.decode (e.encode ['\x00', 'a']) ≠ ['\x00', 'a'] := by
  have h : (unicode (.utf16 .little) true).Choosable := choosable_unicode_iff.2 (Or.inl rfl)
  refine ⟨h, (decode_encode_choosable_iff h _).2 ⟨by decide, by decide⟩, fun hread => ?_⟩
  exact ((decode_encode_choosable_iff h _).1 hread).1 ⟨rfl, rfl⟩

end Encoding

section
variable {σ : Type} [FileSystem (StateM σ)]

/-- What is rendered is written in an encoding that a template can have. -/
theorem choosable_of_runUnit {mode : WriteMode} {template : Path} {s : σ} {r : Rendered}
    (h : (runUnit mode template s).1 = .rendered r) : r.encoding.Choosable := by
  obtain ⟨paths, unit, s₁, text, v, hload, -, rfl⟩ := exists_of_runUnit_eq_rendered h
  obtain ⟨-, s₂, hload⟩ := loadUnit_of_loadTemplate hload
  obtain ⟨field, bytes, hchoice⟩ := exists_chooseEncoding_of_loadUnit hload
  exact ⟨_, field, bytes, _, hchoice, rfl⟩

end
end MustacheBuild
