import MustacheBuild.Encoding.Basic
import MustacheBuild.Proofs.Encoding.Utf16
import MustacheBuild.Proofs.Encoding.Utf32
import MustacheBuild.Proofs.Encoding.Utf8

/-!
Byte-order marks: which form a file announces, and what is left of the file without its mark.
-/
namespace MustacheBuild

/-- The character whose encoding is the mark of each form. -/
def markChar : Char := '\uFEFF'

namespace UnicodeForm

variable {form : UnicodeForm} {bytes rest : Bytes}

theorem decode_encode (form : UnicodeForm) (t : Text) : form.decode (form.encode t) = t := by
  cases form with
  | utf8 => exact Encoding.Utf8.decode_encode t
  | utf16 order => exact Encoding.Utf16.decode_encode order t
  | utf32 order => exact Encoding.Utf32.decode_encode order t

theorem encode_decode {form : UnicodeForm} {bytes : Bytes}
    (h : Encoding.replacement ∉ form.decode bytes) : form.encode (form.decode bytes) = bytes := by
  cases form with
  | utf8 => exact Encoding.Utf8.encode_decode h
  | utf16 order => exact Encoding.Utf16.encode_decode h
  | utf32 order => exact Encoding.Utf32.encode_decode h

theorem encode_cons (form : UnicodeForm) (c : Char) (t : Text) :
    form.encode (c :: t) = form.encode [c] ++ form.encode t := by
  cases form <;> simp [encode, Encoding.Utf8.encode, Encoding.Utf16.encode, Encoding.Utf32.encode]

/-- What stands behind a character is read as if the character were not there. -/
theorem decode_encode_singleton_append (form : UnicodeForm) (c : Char) (rest : Bytes) :
    form.decode (form.encode [c] ++ rest) = c :: form.decode rest := by
  cases form with
  | utf8 =>
    rw [encode, Encoding.Utf8.encode, List.flatMap_singleton]
    exact Encoding.Utf8.read_encodeChar c rest
  | utf16 order =>
    rw [encode, Encoding.Utf16.encode, List.flatMap_singleton]
    exact Encoding.Utf16.read_encodeChar c rest
  | utf32 order =>
    rw [encode, Encoding.Utf32.encode, List.flatMap_singleton]
    exact Encoding.Utf32.decode_encodeChar_append c rest

/-- A text whose encoding begins as that of a character begins with the character. -/
theorem eq_cons_of_encode_eq {c : Char} {t : Text} (h : form.encode t = form.encode [c] ++ rest) :
    ∃ t', t = c :: t' ∧ rest = form.encode t' := by
  have ht : t = c :: form.decode rest := by
    rw [← form.decode_encode_singleton_append, ← h, form.decode_encode]
  refine ⟨form.decode rest, ht, ?_⟩
  rw [ht, encode_cons] at h
  exact (List.append_cancel_left h).symm

theorem encode_markChar (form : UnicodeForm) : form.encode [markChar] = form.mark := by
  cases form with
  | utf8 => rfl
  | utf16 order => cases order <;> rfl
  | utf32 order => cases order <;> rfl

theorem mark_ne_nil (form : UnicodeForm) : form.mark ≠ [] := by
  cases form with
  | utf8 => simp [mark]
  | utf16 order => cases order <;> simp [mark]
  | utf32 order => cases order <;> simp [mark]

theorem mem_all (form : UnicodeForm) : form ∈ all := by
  cases form with
  | utf8 => simp [all]
  | utf16 order => cases order <;> simp [all]
  | utf32 order => cases order <;> simp [all]

theorem mark_injective {other : UnicodeForm} (h : form.mark = other.mark) : form = other := by
  have hall : ∀ f ∈ all, ∀ g ∈ all, f.mark = g.mark → f = g := by decide
  exact hall form form.mem_all other other.mem_all h

theorem exists_of_announced? (h : announced? bytes = some form) :
    ∃ rest, bytes = form.mark ++ rest := by
  have hpre := List.find?_some h
  obtain ⟨rest, hrest⟩ := List.isPrefixOf_iff_prefix.1 hpre
  exact ⟨rest, hrest.symm⟩

theorem announced?_eq_none_iff :
    announced? bytes = none ↔ ∀ form : UnicodeForm, ¬ form.mark <+: bytes := by
  rw [announced?, List.find?_eq_none]
  constructor
  · intro h form hpre
    exact h form form.mem_all (List.isPrefixOf_iff_prefix.2 hpre)
  · intro h form _ hpre
    exact h form (List.isPrefixOf_iff_prefix.1 hpre)

/-- No other mark begins another. -/
theorem announced?_mark_append (h : form = utf16 .little → ¬ [0, 0] <+: rest) :
    announced? (form.mark ++ rest) = some form := by
  cases form with
  | utf8 => rfl
  | utf32 order => cases order <;> rfl
  | utf16 order =>
    cases order with
    | big => rfl
    | little =>
      have hlonger : (utf32 .little).mark.isPrefixOf ((utf16 .little).mark ++ rest) = false := by
        rw [← Bool.not_eq_true, List.isPrefixOf_iff_prefix]
        exact fun hpre => h rfl ((List.prefix_append_right_inj [0xFF, 0xFE]).1 hpre)
      simp only [announced?, all, List.find?_cons, hlonger]
      rfl

/-- Every mark but that of UTF-8 holds a byte that UTF-8 never writes. -/
theorem mem_mark_of_ne_utf8 (h : form ≠ utf8) : 0xFF ∈ form.mark := by
  cases form with
  | utf8 => exact absurd rfl h
  | utf16 order => cases order <;> decide
  | utf32 order => cases order <;> decide

end UnicodeForm

namespace Encoding

variable {form : UnicodeForm} {bytes : Bytes}

theorem append_stripMark (h : UnicodeForm.announced? bytes = some form) :
    form.mark ++ stripMark bytes = bytes := by
  obtain ⟨rest, rfl⟩ := UnicodeForm.exists_of_announced? h
  simp [stripMark, h]

theorem stripMark_of_none (h : UnicodeForm.announced? bytes = none) : stripMark bytes = bytes := by
  simp [stripMark, h]

/-- A file that announces a form is read in it. -/
theorem decode_of_announced? (e : Encoding) (h : UnicodeForm.announced? bytes = some form) :
    e.decode bytes = form.decode (stripMark bytes) := by
  simp [decode, detect, sniff, h, decodeBody]

theorem decode_of_none (e : Encoding) (h : UnicodeForm.announced? bytes = none) :
    e.decode bytes = e.decodeBody bytes := by
  simp [decode, detect, sniff, h, stripMark_of_none h]

theorem detect_of_announced? (e : Encoding) (h : UnicodeForm.announced? bytes = some form) :
    e.detect bytes = unicode form true := by
  simp [detect, sniff, h]

theorem detect_of_none (e : Encoding) (h : UnicodeForm.announced? bytes = none) :
    e.detect bytes = e := by
  simp [detect, sniff, h]

/-- A marked file that is read without a replacement is the file that would be written. -/
theorem encode_decode_of_announced? (e : Encoding) (h : UnicodeForm.announced? bytes = some form)
    (hread : replacement ∉ e.decode bytes) :
    (unicode form true).encode (e.decode bytes) = bytes := by
  rw [decode_of_announced? e h] at hread ⊢
  show form.mark ++ form.encode _ = bytes
  rw [UnicodeForm.encode_decode hread, append_stripMark h]

/-- The same for a file without a mark, in a form that writes none. -/
theorem encode_decode_of_none (h : UnicodeForm.announced? bytes = none)
    (hread : replacement ∉ (unicode form false).decode bytes) :
    (unicode form false).encode ((unicode form false).decode bytes) = bytes := by
  rw [decode_of_none _ h] at hread ⊢
  exact UnicodeForm.encode_decode hread

/-- Whatever a file announces, what is read of it without a replacement is written back as it was,
where no encoding is asked for. -/
theorem encode_decode_detect
    (hread : replacement ∉ (plainUtf8.detect bytes).decode bytes) :
    (plainUtf8.detect bytes).encode ((plainUtf8.detect bytes).decode bytes) = bytes := by
  cases hseen : UnicodeForm.announced? bytes with
  | some form =>
    rw [detect_of_announced? _ hseen] at hread ⊢
    exact encode_decode_of_announced? _ hseen hread
  | none =>
    rw [detect_of_none _ hseen] at hread ⊢
    exact encode_decode_of_none hseen hread

/-- The form whose mark is written in front of a text. -/
def ownMark? : Encoding → Option UnicodeForm
  | unicode form true => some form
  | _ => none

/-- What is written announces the form whose mark was written, or none where none was. -/
def KeepsMark (e : Encoding) (t : Text) : Prop := UnicodeForm.announced? (e.encode t) = e.ownMark?

instance (e : Encoding) (t : Text) : Decidable (e.KeepsMark t) :=
  inferInstanceAs (Decidable (_ = _))

theorem encode_marked (form : UnicodeForm) (t : Text) :
    (unicode form true).encode t = form.mark ++ form.encode t := rfl

theorem encode_of_ownMark?_none {e : Encoding} (h : e.ownMark? = none) (t : Text) :
    e.encode t = e.encodeBody t := by
  match e, h with
  | legacy _, _ => rfl
  | unicode _ false, _ => rfl

theorem stripMark_encode {e : Encoding} {t : Text} (h : e.KeepsMark t) :
    stripMark (e.encode t) = e.encodeBody t := by
  cases hown : e.ownMark? with
  | none =>
    rw [KeepsMark, hown] at h
    rw [stripMark_of_none h, encode_of_ownMark?_none hown]
  | some form =>
    rw [KeepsMark, hown] at h
    obtain rfl : e = unicode form true := by
      match e, hown with
      | unicode _ true, rfl => rfl
    exact List.append_cancel_left (append_stripMark h)

/-- What stands behind the mark that is seen is the text alone only where that mark was written. -/
theorem stripMark_encode_iff {e : Encoding} {t : Text} :
    stripMark (e.encode t) = e.encodeBody t ↔ e.KeepsMark t := by
  refine ⟨fun hstrip => ?_, stripMark_encode⟩
  -- In front of the same bytes stands the mark that was written and the one that is seen.
  have hwritten : e.encode t = e.preamble ++ e.encodeBody t := rfl
  rw [KeepsMark]
  cases hseen : UnicodeForm.announced? (e.encode t) with
  | none =>
    rw [stripMark_of_none hseen, hwritten, List.append_left_eq_self] at hstrip
    match e, hstrip with
    | legacy _, _ => rfl
    | unicode _ false, _ => rfl
    | unicode form true, hnil => exact absurd hnil form.mark_ne_nil
  | some seen =>
    have hbytes := append_stripMark hseen
    rw [hstrip, hwritten] at hbytes
    have hmark : seen.mark = e.preamble := List.append_cancel_right hbytes
    match e, hmark with
    | legacy _, hnil => exact absurd hnil seen.mark_ne_nil
    | unicode _ false, hnil => exact absurd hnil seen.mark_ne_nil
    | unicode form true, hform => rw [UnicodeForm.mark_injective hform]; rfl

/-- Only UTF-16 with the least byte first can be misread behind its mark, and only where the text
begins with a null. -/
theorem keepsMark_marked_iff (form : UnicodeForm) (t : Text) :
    (unicode form true).KeepsMark t ↔ ¬ (form = .utf16 .little ∧ t.head? = some '\x00') := by
  rw [KeepsMark, encode_marked, ownMark?]
  constructor
  · rintro h ⟨rfl, hnull⟩
    obtain ⟨t, rfl⟩ := List.head?_eq_some_iff.1 hnull
    rw [UnicodeForm.encode_cons] at h
    cases h
  · intro h
    refine UnicodeForm.announced?_mark_append fun hform ⟨rest, hzeros⟩ => h ⟨hform, ?_⟩
    subst hform
    have hnull : (UnicodeForm.utf16 .little).encode t =
        (UnicodeForm.utf16 .little).encode ['\x00'] ++ rest := hzeros.symm
    obtain ⟨t', rfl, -⟩ := UnicodeForm.eq_cons_of_encode_eq hnull
    rfl

/-- Plain UTF-8 is misread where the text begins with the character of the mark. -/
theorem keepsMark_plainUtf8_iff (t : Text) :
    plainUtf8.KeepsMark t ↔ t.head? ≠ some markChar := by
  show UnicodeForm.announced? (UnicodeForm.utf8.encode t) = none ↔ _
  constructor
  · intro h hhead
    obtain ⟨t, rfl⟩ := List.head?_eq_some_iff.1 hhead
    rw [UnicodeForm.encode_cons, UnicodeForm.encode_markChar,
      UnicodeForm.announced?_mark_append (by simp)] at h
    contradiction
  · intro h
    cases hform : UnicodeForm.announced? (UnicodeForm.utf8.encode t) with
    | none => rfl
    | some form =>
      obtain ⟨rest, hrest⟩ := UnicodeForm.exists_of_announced? hform
      by_cases h8 : form = .utf8
      · subst h8
        rw [← UnicodeForm.encode_markChar] at hrest
        obtain ⟨t, rfl, -⟩ := UnicodeForm.eq_cons_of_encode_eq hrest
        exact absurd rfl h
      · have hmem : (0xFF : UInt8) ∈ UnicodeForm.utf8.encode t := by
          rw [hrest]
          exact List.mem_append_left _ (UnicodeForm.mem_mark_of_ne_utf8 h8)
        exact absurd hmem (Utf8.notMem_encode t)

end Encoding
end MustacheBuild
