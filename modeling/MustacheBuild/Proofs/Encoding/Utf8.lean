import Mathlib.Tactic.IntervalCases
import MustacheBuild.Encoding.Utf8
import MustacheBuild.Proofs.Encoding.Decoder

/-!
UTF-8 reads back what it writes, and what it reads without a replacement is what it would write.
-/
namespace MustacheBuild.Encoding.Utf8

/-- What is read from a state on. -/
def read : State → Bytes → Text := decoder.runFrom

@[simp] theorem read_nil (s : State) : read s [] = finish s := rfl

theorem read_cons (s : State) (b : UInt8) (rest : Bytes) :
    read s (b :: rest) = (step s b).1 ++ read (step s b).2 rest := rfl

theorem decode_eq_read (bytes : Bytes) : decoder.decode bytes = read .start bytes := rfl

theorem encodeChar_one {c : Char} (h : c.toNat < 0x80) : encodeChar c = [byte c.toNat] := by
  simp [encodeChar, h]

theorem encodeChar_two {c : Char} {i j : Nat} (hi : 2 ≤ i) (hi' : i < 32) (hj : j < 64)
    (h : c.toNat = i * 64 + j) : encodeChar c = [byte (0xC0 + i), byte (0x80 + j)] := by
  have h1 : ¬ i * 64 + j < 0x80 := by omega
  have h2 : i * 64 + j < 0x800 := by omega
  have hq : (i * 64 + j) / 64 = i := by omega
  have hr : (i * 64 + j) % 64 = j := by omega
  simp only [encodeChar, h, h1, h2, hq, hr, if_true, if_false]

theorem encodeChar_three {c : Char} {i j k : Nat} (hi : i < 16) (hj : j < 64) (hk : k < 64)
    (h : c.toNat = (i * 64 + j) * 64 + k) (hlow : 0x800 ≤ c.toNat) :
    encodeChar c = [byte (0xE0 + i), byte (0x80 + j), byte (0x80 + k)] := by
  rw [h] at hlow
  have h1 : ¬ (i * 64 + j) * 64 + k < 0x80 := by omega
  have h2 : ¬ (i * 64 + j) * 64 + k < 0x800 := by omega
  have h3 : (i * 64 + j) * 64 + k < 0x10000 := by omega
  have ha : ((i * 64 + j) * 64 + k) / 4096 = i := by omega
  have hb : ((i * 64 + j) * 64 + k) / 64 % 64 = j := by omega
  have hc : ((i * 64 + j) * 64 + k) % 64 = k := by omega
  simp only [encodeChar, h, h1, h2, h3, ha, hb, hc, if_true, if_false]

theorem encodeChar_four {c : Char} {i j k l : Nat} (hj : j < 64) (hk : k < 64) (hl : l < 64)
    (h : c.toNat = ((i * 64 + j) * 64 + k) * 64 + l) (hlow : 0x10000 ≤ c.toNat) :
    encodeChar c = [byte (0xF0 + i), byte (0x80 + j), byte (0x80 + k), byte (0x80 + l)] := by
  rw [h] at hlow
  have h1 : ¬ ((i * 64 + j) * 64 + k) * 64 + l < 0x80 := by omega
  have h2 : ¬ ((i * 64 + j) * 64 + k) * 64 + l < 0x800 := by omega
  have h3 : ¬ ((i * 64 + j) * 64 + k) * 64 + l < 0x10000 := by omega
  have ha : (((i * 64 + j) * 64 + k) * 64 + l) / 262144 = i := by omega
  have hb : (((i * 64 + j) * 64 + k) * 64 + l) / 4096 % 64 = j := by omega
  have hc : (((i * 64 + j) * 64 + k) * 64 + l) / 64 % 64 = k := by omega
  have hd : (((i * 64 + j) * 64 + k) * 64 + l) % 64 = l := by omega
  simp only [encodeChar, h, h1, h2, h3, ha, hb, hc, hd, if_false]

theorem toNat_lt_of_mem_encodeChar {c : Char} {b : UInt8} (h : b ∈ encodeChar c) :
    b.toNat < 0xF5 := by
  have hlt := toNat_lt c
  simp only [encodeChar] at h
  split_ifs at h <;> simp only [List.mem_cons, List.not_mem_nil, or_false] at h
  · subst h
    rw [toNat_byte] <;> omega
  · rcases h with rfl | rfl <;> rw [toNat_byte] <;> omega
  · rcases h with rfl | rfl | rfl <;> rw [toNat_byte] <;> omega
  · rcases h with rfl | rfl | rfl | rfl <;> rw [toNat_byte] <;> omega

/-- The byte that all marks of the other forms hold. -/
theorem notMem_encode (t : Text) : 0xFF ∉ encode t := by
  intro h
  obtain ⟨c, -, hc⟩ := List.mem_flatMap.1 h
  exact absurd (toNat_lt_of_mem_encodeChar hc) (by decide)

/-- The bounds of the second byte of a character of three bytes. -/
def low₃ (i : Nat) : Nat := if i = 0 then 0xA0 else 0x80

def high₃ (i : Nat) : Nat := if i = 0xD then 0x9F else 0xBF

/-- The bounds of the second byte of a character of four bytes. -/
def low₄ (i : Nat) : Nat := if i = 0 then 0x90 else 0x80

def high₄ (i : Nat) : Nat := if i = 4 then 0x8F else 0xBF

theorem lead?_two {i : Nat} (h : 2 ≤ i) (h' : i < 32) :
    lead? (0xC0 + i) = some (.within i 0 0x80 0xBF) := by
  have hle : 0xC2 ≤ 0xC0 + i ∧ 0xC0 + i ≤ 0xDF := by omega
  simp [lead?, hle]

theorem lead?_three {i : Nat} (h : i < 16) :
    lead? (0xE0 + i) = some (.within i 1 (low₃ i) (high₃ i)) := by
  interval_cases i <;> rfl

theorem lead?_four {i : Nat} (h : i < 5) :
    lead? (0xF0 + i) = some (.within i 2 (low₄ i) (high₄ i)) := by
  interval_cases i <;> rfl

/-- The bytes that begin a character of more than one byte. -/
theorem of_lead? {b : Nat} {s : State} (h : lead? b = some s) :
    (∃ i, 2 ≤ i ∧ i < 32 ∧ b = 0xC0 + i) ∨ (∃ i < 16, b = 0xE0 + i) ∨
      ∃ i < 5, b = 0xF0 + i := by
  have hb : 0xC2 ≤ b ∧ b ≤ 0xF4 := by
    by_contra hout
    have : lead? b = none := by
      unfold lead?
      simp only [Bool.and_eq_true, decide_eq_true_eq, beq_iff_eq]
      split_ifs <;> first | rfl | omega
    rw [this] at h
    contradiction
  rcases Nat.lt_or_ge b 0xE0 with h1 | h1
  · exact Or.inl ⟨b - 0xC0, by omega⟩
  · rcases Nat.lt_or_ge b 0xF0 with h2 | h2
    · exact Or.inr (Or.inl ⟨b - 0xE0, by omega⟩)
    · exact Or.inr (Or.inr ⟨b - 0xF0, by omega⟩)

section Reading
variable {bits owed low high : Nat} {rest : Bytes}

theorem read_lead {b : Nat} {s : State} (h : b < 256) (hs : lead? b = some s) :
    read .start (byte b :: rest) = read s rest := by
  have hb : ¬ b < 0x80 := by
    rcases of_lead? hs with ⟨i, _, _, rfl⟩ | ⟨i, _, rfl⟩ | ⟨i, _, rfl⟩ <;> omega
  simp only [read_cons, step, toNat_byte h, first, if_neg hb, hs, List.nil_append]

/-- A byte within a character that is not the last. -/
theorem read_within_succ {j : Nat} (hj : j < 64) (hlow : low ≤ 0x80 + j) (hhigh : 0x80 + j ≤ high) :
    read (.within bits (owed + 1) low high) (byte (0x80 + j) :: rest) =
      read (.within (bits * 64 + j) owed 0x80 0xBF) rest := by
  have hb : 0x80 + j < 256 := by omega
  simp [read_cons, step, toNat_byte hb, hlow, hhigh]

/-- The last byte of a character. -/
theorem read_within_zero {c : Char} {j : Nat} (hj : j < 64) (hlow : low ≤ 0x80 + j)
    (hhigh : 0x80 + j ≤ high) (hc : c.toNat = bits * 64 + j) :
    read (.within bits 0 low high) (byte (0x80 + j) :: rest) = c :: read .start rest := by
  have hb : 0x80 + j < 256 := by omega
  simp [read_cons, step, toNat_byte hb, hlow, hhigh, ← hc, charOf?_toNat]

end Reading

theorem read_encodeChar (c : Char) (rest : Bytes) :
    read .start (encodeChar c ++ rest) = c :: read .start rest := by
  have hlt := toNat_lt c
  have hgap := toNat_notSurrogate c
  by_cases h1 : c.toNat < 0x80
  · rw [encodeChar_one h1, List.singleton_append, read_cons]
    simp [step, first, toNat_byte (show c.toNat < 256 by omega), h1]
  by_cases h2 : c.toNat < 0x800
  · obtain ⟨i, j, hj, hc⟩ : ∃ i j, j < 64 ∧ c.toNat = i * 64 + j :=
      ⟨c.toNat / 64, c.toNat % 64, by omega, by omega⟩
    rw [encodeChar_two (by omega) (by omega) hj hc, List.cons_append,
      read_lead (by omega) (lead?_two (by omega) (by omega)), List.singleton_append,
      read_within_zero hj (by omega) (by omega) hc]
  by_cases h3 : c.toNat < 0x10000
  · obtain ⟨i, j, k, hj, hk, hc⟩ : ∃ i j k, j < 64 ∧ k < 64 ∧ c.toNat = (i * 64 + j) * 64 + k :=
      ⟨c.toNat / 4096, c.toNat / 64 % 64, c.toNat % 64, by omega, by omega, by omega⟩
    have hlow : low₃ i ≤ 0x80 + j := by unfold low₃; split <;> omega
    have hhigh : 0x80 + j ≤ high₃ i := by unfold high₃; split <;> omega
    rw [encodeChar_three (by omega) hj hk hc (by omega), List.cons_append,
      read_lead (by omega) (lead?_three (by omega)), List.cons_append,
      read_within_succ hj hlow hhigh, List.singleton_append,
      read_within_zero hk (by omega) (by omega) hc]
  · obtain ⟨i, j, k, l, hj, hk, hl, hc⟩ : ∃ i j k l, j < 64 ∧ k < 64 ∧ l < 64 ∧
        c.toNat = ((i * 64 + j) * 64 + k) * 64 + l :=
      ⟨c.toNat / 262144, c.toNat / 4096 % 64, c.toNat / 64 % 64, c.toNat % 64, by omega,
        by omega, by omega, by omega⟩
    have hlow : low₄ i ≤ 0x80 + j := by unfold low₄; split <;> omega
    have hhigh : 0x80 + j ≤ high₄ i := by unfold high₄; split <;> omega
    rw [encodeChar_four hj hk hl hc (by omega), List.cons_append,
      read_lead (by omega) (lead?_four (by omega)), List.cons_append,
      read_within_succ hj hlow hhigh, List.cons_append,
      read_within_succ hk (by omega) (by omega), List.singleton_append,
      read_within_zero hl (by omega) (by omega) hc]

theorem decode_encode (t : Text) : decoder.decode (encode t) = t :=
  Decoder.decode_flatMap rfl read_encodeChar t

section Lossless
variable {bits owed low high : Nat} {bytes : Bytes} {c : Char} {t : Text}

/-- A character that is completed and is no replacement has its next byte within the bounds. -/
theorem exists_byte_of_read_within (h : read (.within bits owed low high) bytes = c :: t)
    (hc : c ≠ replacement) :
    ∃ b rest, bytes = b :: rest ∧ low ≤ b.toNat ∧ b.toNat ≤ high := by
  cases bytes with
  | nil =>
    obtain ⟨hr, -⟩ : replacement = c ∧ _ := by simpa [finish] using h
    exact absurd hr.symm hc
  | cons b rest =>
    refine ⟨b, rest, rfl, ?_⟩
    by_contra hout
    have hout : ¬ ((decide (low ≤ b.toNat) && decide (b.toNat ≤ high)) = true) := by
      simpa using hout
    rw [read_cons, step, if_neg hout] at h
    obtain ⟨hr, -⟩ : replacement = c ∧ _ := by simpa using h
    exact hc hr.symm

theorem read_within_succ_eq (h : read (.within bits (owed + 1) low high) bytes = c :: t)
    (hc : c ≠ replacement) (hlow : 0x80 ≤ low) (hhigh : high ≤ 0xBF) :
    ∃ j rest, j < 64 ∧ low ≤ 0x80 + j ∧ 0x80 + j ≤ high ∧ bytes = byte (0x80 + j) :: rest ∧
      read (.within (bits * 64 + j) owed 0x80 0xBF) rest = c :: t := by
  obtain ⟨b, rest, rfl, hl, hu⟩ := exists_byte_of_read_within h hc
  obtain ⟨j, hj⟩ := Nat.exists_eq_add_of_le (hlow.trans hl)
  have hb : b = byte (0x80 + j) := by rw [← hj, byte_toNat]
  subst hb
  rw [hj] at hl hu
  rw [read_within_succ (by omega) hl hu] at h
  exact ⟨j, rest, by omega, hl, hu, rfl, h⟩

theorem read_within_zero_eq (h : read (.within bits 0 low high) bytes = c :: t)
    (hc : c ≠ replacement) (hlow : 0x80 ≤ low) (hhigh : high ≤ 0xBF) :
    ∃ j rest, j < 64 ∧ bytes = byte (0x80 + j) :: rest ∧ c.toNat = bits * 64 + j ∧
      read .start rest = t := by
  obtain ⟨b, rest, rfl, hl, hu⟩ := exists_byte_of_read_within h hc
  obtain ⟨j, hj⟩ := Nat.exists_eq_add_of_le (hlow.trans hl)
  have hb : b = byte (0x80 + j) := by rw [← hj, byte_toNat]
  subst hb
  have hin : (decide (low ≤ (byte (0x80 + j)).toNat) && decide ((byte (0x80 + j)).toNat ≤ high))
      = true := by simp [hl, hu]
  rw [read_cons, step, if_pos hin, hj, Nat.add_sub_cancel_left] at h
  obtain ⟨hchar, ht⟩ : (charOf? (bits * 64 + j)).getD replacement = c ∧ read .start rest = t := by
    simpa using h
  exact ⟨j, rest, by omega, rfl, (eq_toNat_of_getD hchar hc).symm, ht⟩

theorem read_lead_eq {b : UInt8} {rest : Bytes} (h : read .start (b :: rest) = c :: t)
    (hc : c ≠ replacement) (hb : 0x80 ≤ b.toNat) :
    ∃ s, lead? b.toNat = some s ∧ read s rest = c :: t := by
  rw [read_cons, step, first, if_neg (by omega)] at h
  cases hs : lead? b.toNat with
  | none =>
    rw [hs] at h
    obtain ⟨hr, -⟩ : replacement = c ∧ _ := by simpa using h
    exact absurd hr.symm hc
  | some s =>
    rw [hs] at h
    exact ⟨s, rfl, h⟩

/-- A character that is read and is no replacement stands in the bytes as it is written. -/
theorem decode_eq_cons (h : decoder.decode bytes = c :: t) (hc : c ≠ replacement) :
    ∃ rest, bytes = encodeChar c ++ rest ∧ decoder.decode rest = t := by
  rw [decode_eq_read] at h
  cases bytes with
  | nil => simp [finish] at h
  | cons b rest =>
    have hb256 : b.toNat < 256 := b.toNat_lt
    by_cases hb : b.toNat < 0x80
    · rw [read_cons, step, first, if_pos hb] at h
      obtain ⟨rfl, ht⟩ : Char.ofNat b.toNat = c ∧ read .start rest = t := by simpa using h
      have hn : (Char.ofNat b.toNat).toNat = b.toNat :=
        toNat_charOfNat (Or.inl (by omega))
      refine ⟨rest, ?_, ht⟩
      rw [encodeChar_one (by omega), hn, byte_toNat, List.singleton_append]
    obtain ⟨s, hs, h₁⟩ := read_lead_eq h hc (by omega)
    -- One case for each number of bytes; the bounds of the second byte keep out longer forms.
    rcases of_lead? hs with ⟨i, hi, hi', hbi⟩ | ⟨i, hi, hbi⟩ | ⟨i, hi, hbi⟩
    · rw [hbi, lead?_two hi hi'] at hs
      cases hs
      obtain ⟨j, rest₁, hj, rfl, hn, ht⟩ := read_within_zero_eq h₁ hc (by omega) (by omega)
      refine ⟨rest₁, ?_, ht⟩
      rw [encodeChar_two hi hi' hj hn, ← hbi, byte_toNat]
      rfl
    · rw [hbi, lead?_three hi] at hs
      cases hs
      have hlow : 0x80 ≤ low₃ i := by unfold low₃; split <;> omega
      have hhigh : high₃ i ≤ 0xBF := by unfold high₃; split <;> omega
      obtain ⟨j, rest₁, hj, hlj, -, rfl, h₂⟩ := read_within_succ_eq h₁ hc hlow hhigh
      obtain ⟨k, rest₂, hk, rfl, hn, ht⟩ := read_within_zero_eq h₂ hc (by omega) (by omega)
      have hlong : 0x800 ≤ c.toNat := by unfold low₃ at hlj; split at hlj <;> omega
      refine ⟨rest₂, ?_, ht⟩
      rw [encodeChar_three hi hj hk hn hlong, ← hbi, byte_toNat]
      rfl
    · rw [hbi, lead?_four hi] at hs
      cases hs
      have hlow : 0x80 ≤ low₄ i := by unfold low₄; split <;> omega
      have hhigh : high₄ i ≤ 0xBF := by unfold high₄; split <;> omega
      obtain ⟨j, rest₁, hj, hlj, -, rfl, h₂⟩ := read_within_succ_eq h₁ hc hlow hhigh
      obtain ⟨k, rest₂, hk, -, -, rfl, h₃⟩ := read_within_succ_eq h₂ hc (by omega) (by omega)
      obtain ⟨l, rest₃, hl, rfl, hn, ht⟩ := read_within_zero_eq h₃ hc (by omega) (by omega)
      have hlong : 0x10000 ≤ c.toNat := by unfold low₄ at hlj; split at hlj <;> omega
      refine ⟨rest₃, ?_, ht⟩
      rw [encodeChar_four hj hk hl hn hlong, ← hbi, byte_toNat]
      rfl

/-- Within a character something is still to come. -/
theorem read_within_ne_nil (bits owed low high : Nat) (bytes : Bytes) :
    read (.within bits owed low high) bytes ≠ [] := by
  induction bytes generalizing bits owed low high with
  | nil => simp [finish]
  | cons b rest ih =>
    rw [read_cons, step]
    split
    · cases owed with
      | zero => simp
      | succ owed => exact ih _ _ _ _
    · simp

theorem lead?_ne_start (b : Nat) : lead? b ≠ some .start := by
  unfold lead?
  split_ifs <;> simp

theorem eq_nil_of_decode (h : decoder.decode bytes = []) : bytes = [] := by
  cases bytes with
  | nil => rfl
  | cons b rest =>
    rw [decode_eq_read, read_cons, step, first] at h
    split at h
    · simp at h
    · split at h
      next s hs =>
        cases s with
        | start => exact absurd hs (lead?_ne_start _)
        | within => exact absurd h (read_within_ne_nil _ _ _ _ _)
      next => simp at h

/-- What is read without a replacement is what would be written. -/
theorem encode_decode (h : replacement ∉ decoder.decode bytes) :
    encode (decoder.decode bytes) = bytes :=
  Decoder.flatMap_decode eq_nil_of_decode decode_eq_cons h

end Lossless

end MustacheBuild.Encoding.Utf8
