import MustacheBuild.Proofs.Encoding.Mark

/-!
What is written in one Unicode form and read in another is never the text that was written, where
the written bytes themselves made the reader take them for the other form. The reader is behind by
the length of the mark that it saw, and never makes up for it.
-/
namespace MustacheBuild.Encoding

variable {order other : ByteOrder} {rest : Bytes} {t : Text}

theorem Utf16.length_units_le (t : Text) : (t.flatMap units).length ≤ 2 * t.length := by
  induction t with
  | nil => simp
  | cons c t ih =>
    have hc : (units c).length ≤ 2 := by
      simp only [units]
      split <;> simp
    simp only [List.flatMap_cons, List.length_append, List.length_cons]
    omega

/-- Behind the mark one code unit is missing. -/
theorem utf16_ne_of_utf16_mark
    (h : Utf16.encode order t = (UnicodeForm.utf16 other).mark ++ rest) :
    (Utf16.decoder other).decode rest ≠ t := by
  intro hread
  have hmark : (UnicodeForm.utf16 other).mark.length = 2 := by cases other <;> rfl
  have hwritten := Utf16.length_encode order t
  have hunits := Utf16.length_units_decode other rest
  rw [h, List.length_append, hmark] at hwritten
  rw [hread] at hunits
  omega

/-- Four bytes of UTF-16 are at most two characters, but behind the mark they are one. -/
theorem utf16_ne_of_utf32_mark
    (h : Utf16.encode order t = (UnicodeForm.utf32 other).mark ++ rest) :
    (Utf32.decoder other).decode rest ≠ t := by
  intro hread
  have hmark : (UnicodeForm.utf32 other).mark.length = 4 := by cases other <;> rfl
  have hwritten := Utf16.length_encode order t
  have hunits := Utf16.length_units_le t
  have hchars := Utf32.length_decode other rest
  rw [h, List.length_append, hmark] at hwritten
  rw [hread] at hchars
  omega

theorem utf32_ne_of_utf32_mark
    (h : Utf32.encode order t = (UnicodeForm.utf32 other).mark ++ rest) :
    (Utf32.decoder other).decode rest ≠ t := by
  intro hread
  have hmark : (UnicodeForm.utf32 other).mark.length = 4 := by cases other <;> rfl
  have hwritten := Utf32.length_encode order t
  have hchars := Utf32.length_decode other rest
  rw [h, List.length_append, hmark] at hwritten
  rw [hread] at hchars
  omega

/-- The two zeros behind the mark of UTF-16 are a character of the text, which is missing. -/
theorem utf32_decode_ne_cons (c : Char) (t : Text) :
    (Utf32.decoder other).decode (Utf16.encode order t) ≠ c :: t := by
  intro hread
  have hwritten := Utf16.length_encode order t
  have hunits := Utf16.length_units_le t
  have hchars := Utf32.length_decode other (Utf16.encode order t)
  rw [hread, List.length_cons] at hchars
  omega

theorem Utf16.read_of_lt (order : ByteOrder) (a b : UInt8) (rest : Bytes)
    (h : unitOf order a b < 0xD800) : ∃ c : Char, c.toNat = unitOf order a b ∧
      read order none (a :: b :: rest) = c :: read order none rest := by
  obtain ⟨c, hc, hn⟩ := exists_charOf? (Or.inl h)
  have hhigh : isHigh (unitOf order a b) = false := by
    simp only [isHigh, Bool.and_eq_false_iff, decide_eq_false_iff_not]
    omega
  refine ⟨c, hn, ?_⟩
  simp [read_cons_cons, readUnit, fresh, hhigh, hc]

/-- The numbers of the bytes of a character in UTF-32. -/
theorem Utf32.toNat_bytes (c : Char) :
    (byte (c.toNat % 256)).toNat = c.toNat % 256 ∧
      (byte (c.toNat / 256 % 256)).toNat = c.toNat / 256 % 256 ∧
      (byte (c.toNat / 65536 % 256)).toNat = c.toNat / 65536 ∧
      (byte (c.toNat / 16777216)).toNat = 0 := by
  have hlt := toNat_lt c
  have h2 : c.toNat / 65536 % 256 = c.toNat / 65536 := by omega
  have h3 : c.toNat / 16777216 = 0 := by omega
  rw [h2, h3]
  exact ⟨toNat_byte (by omega), toNat_byte (by omega), toNat_byte (by omega), rfl⟩

/-- With the greatest byte first, UTF-32 begins with a zero. -/
theorem Utf32.head?_encode_big (t : Text) : ∀ b ∈ (encode .big t).head?, b = 0 := by
  cases t with
  | nil => simp [encode]
  | cons c t =>
    obtain ⟨-, -, -, h3⟩ := toNat_bytes c
    intro b hb
    have hb : byte (c.toNat / 16777216) = b := by simpa [encode, encodeChar] using hb
    rw [← hb, ← UInt8.toNat_inj, h3]
    rfl

/-- The last two bytes of the first character, which are small, are read as the first unit. -/
theorem utf32_ne_of_utf16_mark
    (h : Utf32.encode order t = (UnicodeForm.utf16 other).mark ++ rest) :
    (Utf16.decoder other).decode rest ≠ t := by
  intro hread
  cases order with
  | big =>
    have hzero := Utf32.head?_encode_big t
    rw [h] at hzero
    cases other <;> exact absurd (hzero _ rfl) (by decide)
  | little =>
    cases t with
    | nil => cases other <;> cases h
    | cons c t =>
      obtain ⟨h0, -, h2, h3⟩ := Utf32.toNat_bytes c
      have hlt := toNat_lt c
      have hbytes : ∃ b0 b1, (UnicodeForm.utf16 other).mark = [b0, b1] ∧ b0.toNat ≠ 0 := by
        cases other <;> exact ⟨_, _, rfl, by decide⟩
      obtain ⟨b0, b1, hmark, hpos⟩ := hbytes
      obtain ⟨rfl, -, rfl⟩ : byte (c.toNat % 256) = b0 ∧ byte (c.toNat / 256 % 256) = b1 ∧
          byte (c.toNat / 65536 % 256) :: byte (c.toNat / 16777216) :: Utf32.encode .little t =
            rest := by
        simpa [Utf32.encode, Utf32.encodeChar, hmark] using h
      have hunit : Utf16.unitOf other (byte (c.toNat / 65536 % 256)) (byte (c.toNat / 16777216)) =
          c.toNat / 65536 ∨ Utf16.unitOf other (byte (c.toNat / 65536 % 256))
            (byte (c.toNat / 16777216)) = 256 * (c.toNat / 65536) := by
        cases other <;> simp only [Utf16.unitOf, h2, h3] <;> omega
      obtain ⟨d, hd, hfirst⟩ := Utf16.read_of_lt other (byte (c.toNat / 65536 % 256))
        (byte (c.toNat / 16777216)) (Utf32.encode .little t) (by omega)
      rw [Utf16.decode_eq_read, hfirst] at hread
      obtain rfl : d = c := (List.cons.inj hread).1
      omega

theorem utf32_ne_utf8_mark (h : Utf32.encode order t = UnicodeForm.utf8.mark ++ rest) : False := by
  cases order with
  | big =>
    have hzero := Utf32.head?_encode_big t
    rw [h] at hzero
    exact absurd (hzero _ rfl) (by decide)
  | little =>
    cases t with
    | nil => cases h
    | cons c t =>
      obtain ⟨-, -, h2, -⟩ := Utf32.toNat_bytes c
      have hlt := toNat_lt c
      obtain ⟨-, -, hb2, -⟩ : byte (c.toNat % 256) = 0xEF ∧ byte (c.toNat / 256 % 256) = 0xBB ∧
          byte (c.toNat / 65536 % 256) = 0xBF ∧ _ := by
        simpa [Utf32.encode, Utf32.encodeChar, UnicodeForm.mark] using h
      have h2' : (0xBF : UInt8).toNat = c.toNat / 65536 := hb2 ▸ h2
      simp at h2'
      omega

/-- The bytes of UTF-8 characters of three bytes. -/
def OfThree (b : UInt8) : Prop :=
  (0x80 ≤ b.toNat ∧ b.toNat ≤ 0xBF) ∨ (0xE0 ≤ b.toNat ∧ b.toNat ≤ 0xEF)

theorem Utf8.encodeChar_ofThree {c : Char} (hlow : 0x800 ≤ c.toNat) (hhigh : c.toNat < 0x10000) :
    (encodeChar c).length = 3 ∧ ∀ b ∈ encodeChar c, OfThree b := by
  have hc : encodeChar c = [byte (0xE0 + c.toNat / 4096), byte (0x80 + c.toNat / 64 % 64),
      byte (0x80 + c.toNat % 64)] :=
    encodeChar_three (by omega) (by omega) (by omega) (by omega) hlow
  rw [hc]
  refine ⟨rfl, ?_⟩
  simp only [List.forall_mem_cons, List.not_mem_nil, false_implies, implies_true, and_true]
  refine ⟨Or.inr ?_, Or.inl ?_, Or.inl ?_⟩ <;> rw [toNat_byte] <;> omega

/-- A unit whose bytes are both among those is far from the ASCII range and no surrogate. -/
theorem Utf16.unit_of_ofThree {unit : Nat} (h : unit < 0x10000)
    (hbytes : ∀ b ∈ unitBytes order unit, OfThree b) :
    0x8000 ≤ unit ∧ (unit < 0xC000 ∨ 0xE000 ≤ unit) ∧ unit ≠ replacement.toNat := by
  have hlow : OfThree (byte (unit % 256)) := hbytes _ (by cases order <;> simp [unitBytes])
  have hhigh : OfThree (byte (unit / 256)) := hbytes _ (by cases order <;> simp [unitBytes])
  rw [OfThree, toNat_byte (by omega)] at hlow hhigh
  have hrep : replacement.toNat = 0xFFFD := rfl
  omega

/-- A character whose first bytes are among those is a character of one unit. -/
theorem Utf16.of_ofThree {c : Char} {known more : Bytes} (hlen : 3 ≤ known.length)
    (hknown : ∀ b ∈ known, OfThree b) (h : encodeChar order c ++ more = known ++ rest) :
    (0x800 ≤ c.toNat ∧ c.toNat < 0x10000 ∧ c ≠ replacement) ∧
      ∃ known', known = encodeChar order c ++ known' ∧ more = known' ++ rest := by
  -- The first unit of the character lies within the known bytes.
  obtain ⟨unit, units', hunits⟩ : ∃ unit units', units c = unit :: units' := by
    rcases Nat.lt_or_ge c.toNat 0x10000 with hc | hc
    · exact ⟨_, _, units_of_lt hc⟩
    · exact ⟨_, _, units_of_le hc⟩
  have hsplit : encodeChar order c = unitBytes order unit ++ units'.flatMap (unitBytes order) := by
    rw [encodeChar, hunits, List.flatMap_cons]
  rw [hsplit, List.append_assoc] at h
  obtain ⟨known', rfl⟩ : unitBytes order unit <+: known :=
    List.prefix_of_prefix_length_le (h ▸ List.prefix_append _ _) (List.prefix_append known rest)
      (by rw [length_unitBytes]; omega)
  have hbytes : ∀ b ∈ unitBytes order unit, OfThree b := fun b hb =>
    hknown b (List.mem_append_left _ hb)
  rw [List.append_assoc] at h
  have hmore := List.append_cancel_left h
  rcases Nat.lt_or_ge c.toNat 0x10000 with hc | hc
  · rw [units_of_lt hc] at hunits
    obtain ⟨rfl, rfl⟩ : c.toNat = unit ∧ [] = units' := by simpa using hunits
    obtain ⟨hfar, -, hrep⟩ := unit_of_ofThree hc hbytes
    refine ⟨⟨by omega, hc, fun heq => hrep (heq ▸ rfl)⟩, known', ?_, ?_⟩
    · rw [hsplit, List.flatMap_nil, List.append_nil]
    · simpa using hmore
  · rw [units_of_le hc] at hunits
    have hlt := toNat_lt c
    obtain ⟨rfl, -⟩ := List.cons.inj hunits
    obtain ⟨-, hnot, -⟩ := unit_of_ofThree (by omega) hbytes
    omega

/-- The reader takes three bytes for each character of two, so that what it has read is always
ahead of what has been written, and neither ends. -/
theorem utf16_ne_of_known {t : Text} (known rest : Bytes) (hlen : 3 ≤ known.length)
    (hknown : ∀ b ∈ known, OfThree b) (h : Utf16.encode order t = known ++ rest) :
    Utf8.decoder.decode rest ≠ t := by
  induction t generalizing known rest with
  | nil =>
    have hnil : known = [] := (List.append_eq_nil_iff.1 h.symm).1
    simp [hnil] at hlen
  | cons c t ih =>
    intro hread
    have h : Utf16.encodeChar order c ++ Utf16.encode order t = known ++ rest := h
    obtain ⟨⟨hlow, hhigh, hc⟩, known', rfl, hmore⟩ := Utf16.of_ofThree hlen hknown h
    obtain ⟨rest', rfl, ht⟩ := Utf8.decode_eq_cons hread hc
    obtain ⟨hthree, hbytes⟩ := Utf8.encodeChar_ofThree hlow hhigh
    have htwo : (Utf16.encodeChar order c).length = 2 := by
      simp [Utf16.encodeChar, Utf16.units_of_lt hhigh]
    refine ih (known' ++ Utf8.encodeChar c) rest' ?_ ?_ ?_ ht
    · simp only [List.length_append] at hlen ⊢
      omega
    · intro b hb
      rcases List.mem_append.1 hb with hb | hb
      · exact hknown b (List.mem_append_right _ hb)
      · exact hbytes b hb
    · rw [hmore, List.append_assoc]

theorem utf16_ne_of_utf8_mark (h : Utf16.encode order t = UnicodeForm.utf8.mark ++ rest) :
    Utf8.decoder.decode rest ≠ t :=
  utf16_ne_of_known _ _ (by decide) (by simp [UnicodeForm.mark, OfThree]) h

/-- No text is read back behind a mark with which its own encoding begins. -/
theorem decode_ne_of_encode_eq {form seen : UnicodeForm}
    (h : form.encode t = seen.mark ++ rest) : seen.decode rest ≠ t := by
  by_cases heq : form = seen
  · subst heq
    rw [← UnicodeForm.encode_markChar] at h
    obtain ⟨t', rfl, rfl⟩ := UnicodeForm.eq_cons_of_encode_eq h
    rw [UnicodeForm.decode_encode]
    exact fun hself => List.cons_ne_self _ _ hself.symm
  cases form with
  | utf8 =>
    have hmem : (0xFF : UInt8) ∈ UnicodeForm.utf8.encode t := by
      rw [h]
      exact List.mem_append_left _ (UnicodeForm.mem_mark_of_ne_utf8 (Ne.symm heq))
    exact absurd hmem (Utf8.notMem_encode t)
  | utf16 order =>
    cases seen with
    | utf8 => exact utf16_ne_of_utf8_mark h
    | utf16 other => exact utf16_ne_of_utf16_mark h
    | utf32 other => exact utf16_ne_of_utf32_mark h
  | utf32 order =>
    cases seen with
    | utf8 => exact absurd h utf32_ne_utf8_mark
    | utf16 other => exact utf32_ne_of_utf16_mark h
    | utf32 other => exact utf32_ne_of_utf32_mark h

/-- Unicode text is read back exactly where no other mark is seen than was written. -/
theorem decode_encode_iff (form : UnicodeForm) (mark : Bool) (t : Text) :
    (unicode form mark).decode ((unicode form mark).encode t) = t ↔
      (unicode form mark).KeepsMark t := by
  constructor
  · intro hread
    by_contra hmiss
    cases hseen : UnicodeForm.announced? ((unicode form mark).encode t) with
    | none =>
      cases mark with
      | false => exact hmiss hseen
      | true =>
        exact UnicodeForm.announced?_eq_none_iff.1 hseen form (List.prefix_append _ _)
    | some seen =>
      rw [decode_of_announced? _ hseen] at hread
      have hbytes := append_stripMark hseen
      cases mark with
      | false => exact decode_ne_of_encode_eq hbytes.symm hread
      | true =>
        rw [keepsMark_marked_iff, not_not] at hmiss
        obtain ⟨rfl, hnull⟩ := hmiss
        obtain ⟨t, rfl⟩ := List.head?_eq_some_iff.1 hnull
        obtain rfl : UnicodeForm.utf32 .little = seen := Option.some.inj hseen
        exact utf32_decode_ne_cons _ _ hread
  · intro hkeep
    cases mark with
    | false =>
      rw [decode_of_none _ hkeep]
      exact form.decode_encode t
    | true =>
      rw [decode_of_announced? _ hkeep, stripMark_encode hkeep]
      exact form.decode_encode t

end MustacheBuild.Encoding
