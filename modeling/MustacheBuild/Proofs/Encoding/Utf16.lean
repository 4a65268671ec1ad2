import Mathlib.Data.List.Induction
import MustacheBuild.Encoding.Utf16
import MustacheBuild.Proofs.Encoding.Decoder

/-!
UTF-16 reads back what it writes, and never loses count: each two bytes give one code unit of the
text that is read.
-/
namespace MustacheBuild.Encoding.Utf16

variable {order : ByteOrder} {high : Option Nat} {unit : Nat} {rest : Bytes}

/-- What is read from a unit on, behind a high surrogate or not. -/
def read (order : ByteOrder) (high : Option Nat) : Bytes → Text :=
  (decoder order).runFrom ⟨high, none⟩

@[simp] theorem read_nil : read order high [] = finish ⟨high, none⟩ := rfl

@[simp] theorem read_singleton (a : UInt8) : read order high [a] = finish ⟨high, some a⟩ := rfl

theorem read_cons_cons (a b : UInt8) :
    read order high (a :: b :: rest) =
      (readUnit high (unitOf order a b)).1 ++
        read order (readUnit high (unitOf order a b)).2 rest := rfl

theorem decode_eq_read (bytes : Bytes) : (decoder order).decode bytes = read order none bytes := rfl

theorem unitOf_lt (order : ByteOrder) (a b : UInt8) : unitOf order a b < 0x10000 := by
  have ha : a.toNat < 256 := a.toNat_lt
  have hb : b.toNat < 256 := b.toNat_lt
  cases order <;> simp only [unitOf] <;> omega

@[simp] theorem length_unitBytes (order : ByteOrder) (unit : Nat) :
    (unitBytes order unit).length = 2 := by cases order <;> rfl

theorem read_unitBytes (h : unit < 0x10000) :
    read order high (unitBytes order unit ++ rest) =
      (readUnit high unit).1 ++ read order (readUnit high unit).2 rest := by
  have hlow := toNat_byte (show unit % 256 < 256 by omega)
  have hhigh := toNat_byte (show unit / 256 < 256 by omega)
  cases order with
  | little =>
    have hunit : unitOf .little (byte (unit % 256)) (byte (unit / 256)) = unit := by
      simp only [unitOf, hlow, hhigh]
      omega
    simp only [unitBytes, List.cons_append, List.nil_append, read_cons_cons, hunit]
  | big =>
    have hunit : unitOf .big (byte (unit / 256)) (byte (unit % 256)) = unit := by
      simp only [unitOf, hlow, hhigh]
      omega
    simp only [unitBytes, List.cons_append, List.nil_append, read_cons_cons, hunit]

theorem units_of_lt {c : Char} (h : c.toNat < 0x10000) : units c = [c.toNat] := by
  simp [units, h]

theorem units_of_le {c : Char} (h : 0x10000 ≤ c.toNat) :
    units c = [0xD800 + (c.toNat - 0x10000) / 0x400, 0xDC00 + (c.toNat - 0x10000) % 0x400] := by
  simp [units, Nat.not_lt.2 h]

theorem length_encode (order : ByteOrder) (t : Text) :
    (encode order t).length = 2 * (t.flatMap units).length := by
  induction t with
  | nil => rfl
  | cons c t ih =>
    have hc : (encodeChar order c).length = 2 * (units c).length := by
      simp only [encodeChar, List.length_flatMap, length_unitBytes, List.map_const',
        List.sum_replicate_nat]
      omega
    simp only [encode, List.flatMap_cons, List.length_append] at ih ⊢
    rw [ih, hc]
    omega

theorem read_encodeChar (c : Char) (rest : Bytes) :
    read order none (encodeChar order c ++ rest) = c :: read order none rest := by
  have hgap := toNat_notSurrogate c
  have hlt := toNat_lt c
  rcases Nat.lt_or_ge c.toNat 0x10000 with h | h
  · have hfresh : readUnit none c.toNat = ([c], none) := by
      have hhigh : isHigh c.toNat = false := by simp [isHigh]; omega
      simp [readUnit, fresh, hhigh, charOf?_toNat]
    rw [encodeChar, units_of_lt h, List.flatMap_singleton, read_unitBytes h, hfresh]
    rfl
  · obtain ⟨i, j, hi, hj, hn⟩ : ∃ i j, i < 0x400 ∧ j < 0x400 ∧
        c.toNat = 0x10000 + i * 0x400 + j :=
      ⟨(c.toNat - 0x10000) / 0x400, (c.toNat - 0x10000) % 0x400, by omega, by omega, by omega⟩
    have hunits : units c = [0xD800 + i, 0xDC00 + j] := by
      have hq : (c.toNat - 0x10000) / 0x400 = i := by omega
      have hr : (c.toNat - 0x10000) % 0x400 = j := by omega
      rw [units_of_le h, hq, hr]
    have hfirst : readUnit none (0xD800 + i) = ([], some (0xD800 + i)) := by
      have hhigh : isHigh (0xD800 + i) = true := by simp [isHigh]; omega
      simp [readUnit, fresh, hhigh]
    have hsecond : readUnit (some (0xD800 + i)) (0xDC00 + j) = ([c], none) := by
      have hlow : isLow (0xDC00 + j) = true := by simp [isLow]; omega
      simp [readUnit, hlow, ← hn, charOf?_toNat]
    rw [encodeChar, hunits, List.flatMap_cons, List.flatMap_singleton, List.append_assoc,
      read_unitBytes (by omega), hfirst, List.nil_append, read_unitBytes (by omega), hsecond]
    rfl

theorem decode_encode (order : ByteOrder) (t : Text) :
    (decoder order).decode (encode order t) = t :=
  Decoder.decode_flatMap rfl read_encodeChar t

/-- The units of the text that one unit completes, and of the surrogate that waits. -/
theorem length_units_fresh (h : unit < 0x10000) :
    ((fresh unit).1.flatMap units).length + (fresh unit).2.toList.length = 1 := by
  unfold fresh
  split
  · rfl
  · cases hc : charOf? unit with
    | none => rfl
    | some c =>
      obtain rfl := charOf?_eq_some_iff.1 hc
      simp [units_of_lt h]

theorem length_units_readUnit (hhigh : ∀ x ∈ high, isHigh x = true) (h : unit < 0x10000) :
    ((readUnit high unit).1.flatMap units).length + (readUnit high unit).2.toList.length =
      high.toList.length + 1 := by
  cases high with
  | none => simpa [readUnit] using length_units_fresh h
  | some x =>
    have hx : 0xD800 ≤ x ∧ x < 0xDC00 := by simpa [isHigh] using hhigh x rfl
    by_cases hlow : isLow unit = true
    · have hu : 0xDC00 ≤ unit ∧ unit < 0xE000 := by simpa [isLow] using hlow
      have hvalid : (0x10000 + (x - 0xD800) * 0x400 + (unit - 0xDC00)).isValidChar :=
        Or.inr (by omega)
      obtain ⟨c, hc, hn⟩ := exists_charOf? hvalid
      have hc2 : (units c).length = 2 := by
        rw [units_of_le (by omega), List.length_cons, List.length_singleton]
      simp only [readUnit, hlow, if_true, hc, Option.getD_some, List.flatMap_singleton, hc2,
        Option.toList_none, Option.toList_some, List.length_nil, List.length_singleton]
    · have hfresh := length_units_fresh h
      have hreplaced : (units replacement).length = 1 := rfl
      simp only [readUnit, hlow, List.flatMap_cons, List.length_append, hreplaced, if_false,
        Bool.false_eq_true, Option.toList_some, List.length_singleton]
      omega

/-- Only a high surrogate waits. -/
theorem isHigh_of_mem_readUnit : ∀ x ∈ (readUnit high unit).2, isHigh x = true := by
  have hfresh : ∀ x ∈ (fresh unit).2, isHigh x = true := by
    intro x hx
    unfold fresh at hx
    split at hx
    next h =>
      obtain rfl : unit = x := by simpa using hx
      exact h
    next => simp at hx
  cases high with
  | none => exact hfresh
  | some y =>
    by_cases hlow : isLow unit = true
    · simp [readUnit, hlow]
    · simpa [readUnit, hlow] using hfresh

/-- Each two bytes are one unit of the text, and so is a last byte without a partner. -/
theorem length_units_read (hhigh : ∀ x ∈ high, isHigh x = true) (bytes : Bytes) :
    ((read order high bytes).flatMap units).length =
      high.toList.length + (bytes.length + 1) / 2 := by
  induction bytes using List.twoStepInduction generalizing high with
  | nil => cases high <;> rfl
  | singleton a =>
    have hlast : replacement.toNat < 0x10000 := by decide
    cases high <;> simp [finish, units_of_lt hlast]
  | cons_cons a b rest ih _ =>
    have hunit := length_units_readUnit hhigh (unitOf_lt order a b)
    rw [read_cons_cons, List.flatMap_append, List.length_append, ih isHigh_of_mem_readUnit]
    simp only [List.length_cons]
    omega

theorem length_units_decode (order : ByteOrder) (bytes : Bytes) :
    (((decoder order).decode bytes).flatMap units).length = (bytes.length + 1) / 2 := by
  rw [decode_eq_read, length_units_read (by simp)]
  simp

section Lossless
variable {bytes : Bytes} {c : Char} {t : Text}

theorem unitBytes_unitOf (order : ByteOrder) (a b : UInt8) :
    unitBytes order (unitOf order a b) = [a, b] := by
  have ha : a.toNat < 256 := a.toNat_lt
  have hb : b.toNat < 256 := b.toNat_lt
  cases order with
  | little =>
    have hlow : (a.toNat + 256 * b.toNat) % 256 = a.toNat := by omega
    have hhigh : (a.toNat + 256 * b.toNat) / 256 = b.toNat := by omega
    simp only [unitBytes, unitOf, hlow, hhigh, byte_toNat]
  | big =>
    have hlow : (256 * a.toNat + b.toNat) % 256 = b.toNat := by omega
    have hhigh : (256 * a.toNat + b.toNat) / 256 = a.toNat := by omega
    simp only [unitBytes, unitOf, hlow, hhigh, byte_toNat]

/-- Behind a high surrogate a character that is no replacement begins with a low one. -/
theorem read_high_eq_cons (hunit : isHigh unit = true)
    (h : read order (some unit) bytes = c :: t) (hc : c ≠ replacement) :
    ∃ low rest, units c = [unit, low] ∧ bytes = unitBytes order low ++ rest ∧
      read order none rest = t := by
  match bytes with
  | [] | [_] =>
    obtain ⟨hr, -⟩ : replacement = c ∧ _ := by simpa [finish] using h
    exact absurd hr.symm hc
  | a :: b :: rest =>
    rw [read_cons_cons, readUnit] at h
    split at h
    next hlow =>
      obtain ⟨hchar, ht⟩ : (charOf? _).getD replacement = c ∧ read order none rest = t := by
        simpa using h
      have hu : 0xD800 ≤ unit ∧ unit < 0xDC00 := by simpa [isHigh] using hunit
      have hl : 0xDC00 ≤ unitOf order a b ∧ unitOf order a b < 0xE000 := by
        simpa [isLow] using hlow
      have hn := eq_toNat_of_getD hchar hc
      refine ⟨unitOf order a b, rest, ?_, ?_, ht⟩
      · have hq : 0xD800 + (c.toNat - 0x10000) / 0x400 = unit := by omega
        have hr : 0xDC00 + (c.toNat - 0x10000) % 0x400 = unitOf order a b := by omega
        rw [units_of_le (by omega), hq, hr]
      · rw [unitBytes_unitOf]
        rfl
    next =>
      obtain ⟨hr, -⟩ : replacement = c ∧ _ := by simpa using h
      exact absurd hr.symm hc

/-- A character that is read and is no replacement stands in the bytes as it is written. -/
theorem decode_eq_cons (h : (decoder order).decode bytes = c :: t) (hc : c ≠ replacement) :
    ∃ rest, bytes = encodeChar order c ++ rest ∧ (decoder order).decode rest = t := by
  rw [decode_eq_read] at h
  match bytes with
  | [] => simp [finish] at h
  | [_] =>
    obtain ⟨hr, -⟩ : replacement = c ∧ _ := by simpa [finish] using h
    exact absurd hr.symm hc
  | a :: b :: rest =>
    rw [read_cons_cons, readUnit, fresh] at h
    split at h
    next hhigh =>
      obtain ⟨low, rest', hunits, rfl, ht⟩ := read_high_eq_cons hhigh h hc
      refine ⟨rest', ?_, ht⟩
      rw [encodeChar, hunits, List.flatMap_cons, List.flatMap_singleton, unitBytes_unitOf]
      rfl
    next =>
      obtain ⟨hchar, ht⟩ : (charOf? (unitOf order a b)).getD replacement = c ∧
          read order none rest = t := by simpa using h
      have hn := eq_toNat_of_getD hchar hc
      refine ⟨rest, ?_, ht⟩
      rw [encodeChar, units_of_lt (hn ▸ unitOf_lt order a b), ← hn, List.flatMap_singleton,
        unitBytes_unitOf]
      rfl

theorem eq_nil_of_decode (h : (decoder order).decode bytes = []) : bytes = [] := by
  have hunits := length_units_decode order bytes
  rw [h] at hunits
  exact List.length_eq_zero_iff.1 (by simp at hunits; omega)

/-- What is read without a replacement is what would be written. -/
theorem encode_decode (h : replacement ∉ (decoder order).decode bytes) :
    encode order ((decoder order).decode bytes) = bytes :=
  Decoder.flatMap_decode eq_nil_of_decode decode_eq_cons h

end Lossless

end MustacheBuild.Encoding.Utf16
