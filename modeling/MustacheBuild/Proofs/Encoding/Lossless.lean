import MustacheBuild.Proofs.Encoding.Mark

/-!
Files that are read without a replacement. Nothing of such a file is lost: what was read is written
back as it was, so that no two of them are read as the same text.
-/
namespace MustacheBuild
namespace Encoding

variable {form : UnicodeForm} {mark : Bool} {bytes other : Bytes}

/-- A mark decides the form, and what stands behind it is decoded in that form. -/
theorem decode_unicode (form : UnicodeForm) (mark : Bool) (bytes : Bytes) :
    (unicode form mark).decode bytes =
      ((UnicodeForm.announced? bytes).getD form).decode (stripMark bytes) := by
  cases hseen : UnicodeForm.announced? bytes with
  | some seen => exact decode_of_announced? _ hseen
  | none =>
    rw [decode_of_none _ hseen, stripMark_of_none hseen]
    rfl

theorem encodeBody_detect_unicode (form : UnicodeForm) (mark : Bool) (bytes : Bytes) (t : Text) :
    ((unicode form mark).detect bytes).encodeBody t =
      ((UnicodeForm.announced? bytes).getD form).encode t := by
  cases hseen : UnicodeForm.announced? bytes with
  | some seen =>
    rw [detect_of_announced? _ hseen]
    rfl
  | none =>
    rw [detect_of_none _ hseen]
    rfl

theorem sniff_eq_none_iff : sniff bytes = none ↔ UnicodeForm.announced? bytes = none :=
  Option.map_eq_none_iff

theorem encodeBody_detect_decode (hread : replacement ∉ (unicode form mark).decode bytes) :
    ((unicode form mark).detect bytes).encodeBody ((unicode form mark).decode bytes) =
      stripMark bytes := by
  rw [decode_unicode] at hread
  rw [encodeBody_detect_unicode, decode_unicode, UnicodeForm.encode_decode hread]

theorem encode_decode_of_sniff {seen : Encoding} (hseen : sniff bytes = some seen)
    (hread : replacement ∉ (unicode form mark).decode bytes) :
    seen.encode ((unicode form mark).decode bytes) = bytes := by
  obtain ⟨announced, hannounced, rfl⟩ := Option.map_eq_some_iff.1 hseen
  exact encode_decode_of_announced? _ hannounced hread

/-- Files without a mark that are read as the same text, without a replacement, are the same. -/
theorem eq_of_decode_eq (hseen : sniff bytes = none) (hother : sniff other = none)
    (hread : replacement ∉ (unicode form mark).decode bytes)
    (h : (unicode form mark).decode other = (unicode form mark).decode bytes) : other = bytes := by
  rw [sniff_eq_none_iff] at hseen hother
  calc other
      = stripMark other := (stripMark_of_none hother).symm
    _ = ((unicode form mark).detect other).encodeBody ((unicode form mark).decode other) :=
        (encodeBody_detect_decode (h ▸ hread)).symm
    _ = ((unicode form mark).detect bytes).encodeBody ((unicode form mark).decode bytes) := by
        rw [h, detect_of_none _ hother, detect_of_none _ hseen]
    _ = stripMark bytes := encodeBody_detect_decode hread
    _ = bytes := stripMark_of_none hseen

/-- What is read of a file without a replacement is written back as it stood behind the mark. With
the mark that was seen it is the whole file, and without one it was read of no other file. -/
theorem encode_decode_of_lossless (hread : replacement ∉ (unicode form mark).decode bytes) :
    ((unicode form mark).detect bytes).encodeBody ((unicode form mark).decode bytes) =
        stripMark bytes ∧
      (∀ seen, sniff bytes = some seen →
        seen.encode ((unicode form mark).decode bytes) = bytes) ∧
      ∀ other, sniff bytes = none → sniff other = none →
        (unicode form mark).decode other = (unicode form mark).decode bytes → other = bytes :=
  ⟨encodeBody_detect_decode hread, fun _ hseen => encode_decode_of_sniff hseen hread,
    fun _ hseen hother h => eq_of_decode_eq hseen hother hread h⟩

/-- An emoji in UTF-16 is written back as it was, also where UTF-8 was expected. -/
theorem encode_decode_surrogates :
    let bytes : Bytes := [0xFE, 0xFF, 0xD8, 0x3D, 0xDE, 0x00]
    (replacement ∉ plainUtf8.decode bytes ∧ sniff bytes = some (unicode (.utf16 .big) true)) ∧
      (unicode (.utf16 .big) true).encodeBody (plainUtf8.decode bytes) = bytes.drop 2 ∧
      (unicode (.utf16 .big) true).encode (plainUtf8.decode bytes) = bytes := by
  have hread : replacement ∉ (unicode .utf8 false).decode [0xFE, 0xFF, 0xD8, 0x3D, 0xDE, 0x00] := by
    decide
  obtain ⟨hbody, hfile, -⟩ := encode_decode_of_lossless hread
  exact ⟨⟨hread, rfl⟩, hbody, hfile _ rfl⟩

end Encoding
end MustacheBuild
