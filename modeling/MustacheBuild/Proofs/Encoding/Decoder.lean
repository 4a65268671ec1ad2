import MustacheBuild.Encoding.Decoder

/-!
Laws of bytes and of decoders that hold for every encoding.
-/
namespace MustacheBuild.Encoding

theorem toNat_byte {n : Nat} (h : n < 256) : (byte n).toNat = n := by
  rw [byte, UInt8.toNat_ofNat']
  exact Nat.mod_eq_of_lt h

@[simp] theorem byte_toNat (b : UInt8) : byte b.toNat = b := UInt8.ofNat_toNat

theorem charOf?_eq_some_iff {n : Nat} {c : Char} : charOf? n = some c ↔ n = c.toNat := by
  constructor
  · intro h
    exact (toNat_of_charOf? h).symm
  · rintro rfl
    exact charOf?_toNat c

theorem exists_charOf? {n : Nat} (h : n.isValidChar) : ∃ c, charOf? n = some c ∧ c.toNat = n :=
  ⟨Char.ofNatAux n h, dif_pos h, rfl⟩

/-- What is read from a number is its character, unless it is the replacement. -/
theorem eq_toNat_of_getD {n : Nat} {c : Char} (h : (charOf? n).getD replacement = c)
    (hc : c ≠ replacement) : n = c.toNat := by
  cases hn : charOf? n with
  | none =>
    rw [hn] at h
    exact absurd h.symm hc
  | some d =>
    rw [hn] at h
    obtain rfl : d = c := h
    exact charOf?_eq_some_iff.1 hn

/-- A surrogate is no character. -/
theorem toNat_notSurrogate (c : Char) : c.toNat < 0xD800 ∨ 0xE000 ≤ c.toNat := by
  have h : c.toNat.isValidChar := c.valid
  rcases h with h | h
  · exact Or.inl h
  · exact Or.inr (by omega)

theorem toNat_lt (c : Char) : c.toNat < 0x110000 := by
  have h : c.toNat.isValidChar := c.valid
  rcases h with h | h
  · omega
  · exact h.2

theorem toNat_charOfNat {n : Nat} (h : n.isValidChar) : (Char.ofNat n).toNat = n := by
  rw [Char.ofNat, dif_pos h]
  rfl

namespace Decoder

/-- A decoder that reads back each character reads back each text. -/
theorem decode_flatMap {d : Decoder} {bytesOf : Char → Bytes} (hfinish : d.finish d.start = [])
    (hchar : ∀ c rest, d.runFrom d.start (bytesOf c ++ rest) = c :: d.runFrom d.start rest)
    (t : Text) : d.decode (t.flatMap bytesOf) = t := by
  induction t with
  | nil => exact hfinish
  | cons c t ih =>
    rw [List.flatMap_cons, decode, hchar]
    exact congrArg (c :: ·) ih

/-- Where each character that is read, other than the replacement, stands in the bytes as it is
written, bytes that are read without a replacement are those that would be written. -/
theorem flatMap_decode {d : Decoder} {bytesOf : Char → Bytes}
    (hnil : ∀ {bytes}, d.decode bytes = [] → bytes = [])
    (hchar : ∀ {bytes c t}, d.decode bytes = c :: t → c ≠ replacement →
      ∃ rest, bytes = bytesOf c ++ rest ∧ d.decode rest = t)
    {bytes : Bytes} (h : replacement ∉ d.decode bytes) :
    (d.decode bytes).flatMap bytesOf = bytes := by
  generalize ht : d.decode bytes = t at h
  induction t generalizing bytes with
  | nil => exact (hnil ht).symm
  | cons c t ih =>
    obtain ⟨hc, hmem⟩ := List.ne_and_not_mem_of_not_mem_cons h
    obtain ⟨rest, rfl, hrest⟩ := hchar ht hc.symm
    rw [List.flatMap_cons, ih hrest hmem]

end Decoder
end MustacheBuild.Encoding
