import MustacheBuild.Encoding.Utf32
import MustacheBuild.Proofs.Encoding.Decoder

/-!
UTF-32 reads back what it writes, and reads one character from each four bytes.
-/
namespace MustacheBuild.Encoding.Utf32

variable {order : ByteOrder} {rest : Bytes}

theorem decode_group (a b c d : UInt8) :
    (decoder order).decode (a :: b :: c :: d :: rest) =
      charOfGroup order [a, b, c, d] :: (decoder order).decode rest := rfl

theorem charOfGroup_encodeChar (order : ByteOrder) (c : Char) :
    charOfGroup order (encodeChar order c) = c := by
  have hlt := toNat_lt c
  have hnumber : number [byte (c.toNat % 256), byte (c.toNat / 256 % 256),
      byte (c.toNat / 65536 % 256), byte (c.toNat / 16777216)] = c.toNat := by
    simp only [number, List.foldr_cons, List.foldr_nil]
    rw [toNat_byte (by omega), toNat_byte (by omega), toNat_byte (by omega),
      toNat_byte (by omega)]
    omega
  cases order <;>
    simp only [charOfGroup, encodeChar, List.reverse_reverse, hnumber, charOf?_toNat,
      Option.getD_some]

theorem decode_encodeChar_append (c : Char) (rest : Bytes) :
    (decoder order).decode (encodeChar order c ++ rest) = c :: (decoder order).decode rest := by
  have hgroup := charOfGroup_encodeChar order c
  cases order with
  | little =>
    simp only [encodeChar, List.cons_append, List.nil_append, decode_group]
    exact congrArg (· :: _) hgroup
  | big =>
    simp only [encodeChar, List.reverse_cons, List.reverse_nil, List.cons_append, List.nil_append,
      decode_group]
    exact congrArg (· :: _) hgroup

theorem decode_encode (order : ByteOrder) (t : Text) :
    (decoder order).decode (encode order t) = t :=
  Decoder.decode_flatMap rfl decode_encodeChar_append t

theorem length_encode (order : ByteOrder) (t : Text) : (encode order t).length = 4 * t.length := by
  induction t with
  | nil => rfl
  | cons c t ih =>
    have hc : (encodeChar order c).length = 4 := by cases order <;> rfl
    simp only [encode, List.flatMap_cons, List.length_append, List.length_cons] at ih ⊢
    rw [ih, hc]
    omega

theorem length_decode (order : ByteOrder) (bytes : Bytes) :
    ((decoder order).decode bytes).length = (bytes.length + 3) / 4 := by
  match bytes with
  | [] => rfl
  | [_] | [_, _] | [_, _, _] =>
    -- A last group of less than four bytes is replaced.
    show [replacement].length = _
    simp
  | a :: b :: c :: d :: rest =>
    rw [decode_group, List.length_cons, length_decode order rest]
    simp only [List.length_cons]
    omega

section Lossless
variable {bytes : Bytes} {c : Char} {t : Text}

/-- The number of four bytes has these bytes. -/
theorem bytes_number (a b c d : UInt8) :
    let n := number [a, b, c, d]
    n % 256 = a.toNat ∧ n / 256 % 256 = b.toNat ∧ n / 65536 % 256 = c.toNat ∧
      n / 16777216 = d.toNat := by
  have ha : a.toNat < 256 := a.toNat_lt
  have hb : b.toNat < 256 := b.toNat_lt
  have hc : c.toNat < 256 := c.toNat_lt
  have hd : d.toNat < 256 := d.toNat_lt
  simp only [number, List.foldr_cons, List.foldr_nil]
  omega

theorem encodeChar_little {a b c d : UInt8} {x : Char} (h : number [a, b, c, d] = x.toNat) :
    encodeChar .little x = [a, b, c, d] := by
  obtain ⟨ha, hb, hc, hd⟩ := bytes_number a b c d
  rw [h] at ha hb hc hd
  simp only [encodeChar, ha, hb, hc, hd, byte_toNat]

theorem encodeChar_charOfGroup {a b c d : UInt8}
    (h : charOfGroup order [a, b, c, d] ≠ replacement) :
    encodeChar order (charOfGroup order [a, b, c, d]) = [a, b, c, d] := by
  cases order with
  | little => exact encodeChar_little (eq_toNat_of_getD rfl h)
  | big =>
    have hback := encodeChar_little (eq_toNat_of_getD rfl h)
    exact congrArg List.reverse hback

/-- A character that is read and is no replacement stands in the bytes as it is written. -/
theorem decode_eq_cons (h : (decoder order).decode bytes = c :: t) (hc : c ≠ replacement) :
    ∃ rest, bytes = encodeChar order c ++ rest ∧ (decoder order).decode rest = t := by
  match bytes with
  | [] => cases h
  | [_] | [_, _] | [_, _, _] => exact absurd (List.cons.inj h).1.symm hc
  | a :: b :: c' :: d :: rest =>
    rw [decode_group] at h
    obtain ⟨rfl, ht⟩ := List.cons.inj h
    exact ⟨rest, by rw [encodeChar_charOfGroup hc]; rfl, ht⟩

theorem eq_nil_of_decode (h : (decoder order).decode bytes = []) : bytes = [] := by
  have hchars := length_decode order bytes
  rw [h] at hchars
  exact List.length_eq_zero_iff.1 (by simp at hchars; omega)

/-- What is read without a replacement is what would be written. -/
theorem encode_decode (h : replacement ∉ (decoder order).decode bytes) :
    encode order ((decoder order).decode bytes) = bytes :=
  Decoder.flatMap_decode eq_nil_of_decode decode_eq_cons h

end Lossless

end MustacheBuild.Encoding.Utf32
