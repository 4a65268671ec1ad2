import MustacheBuild.Proofs.Text.Basic

/-!
Text by the offsets of its bytes in UTF-8. An offset within a character is no place to cut a text,
and neither is one behind the end.
-/
namespace MustacheBuild
namespace Text

variable {s t front behind slice : Text} {n first last : Nat}

/-! ## Lengths in bytes -/

theorem foldl_utf8Size (t : Text) (n : Nat) :
    t.foldl (fun n c => n + c.utf8Size) n = n + t.byteLength := by
  unfold byteLength
  induction t generalizing n with
  | nil => rfl
  | cons c t ih =>
    rw [List.foldl_cons, List.foldl_cons, ih, ih (0 + c.utf8Size)]
    omega

@[simp] theorem byteLength_nil : byteLength [] = 0 := rfl

@[simp] theorem byteLength_cons (c : Char) (t : Text) :
    byteLength (c :: t) = c.utf8Size + t.byteLength := by
  rw [byteLength, List.foldl_cons, foldl_utf8Size, Nat.zero_add]

@[simp] theorem byteLength_append (s t : Text) :
    (s ++ t).byteLength = s.byteLength + t.byteLength := by
  rw [byteLength, List.foldl_append, foldl_utf8Size, foldl_utf8Size, Nat.zero_add]

theorem byteLength_eq_zero_iff : t.byteLength = 0 ↔ t = [] := by
  cases t with
  | nil => simp
  | cons c t =>
    have hpos := c.utf8Size_pos
    rw [byteLength_cons]
    exact iff_of_false (by omega) (List.cons_ne_nil c t)

theorem byteLength_le_of_prefix (h : s <+: t) : s.byteLength ≤ t.byteLength := by
  obtain ⟨behind, rfl⟩ := h
  rw [byteLength_append]
  exact Nat.le_add_right _ _

/-! ## Slices -/

/-- The offset lies at an end of a character. -/
def IsBoundary (t : Text) (n : Nat) : Prop := ∃ front : Text, front <+: t ∧ front.byteLength = n

/-- The text before and behind an offset. -/
def splitAtByte? : Text → Nat → Option (Text × Text)
  | t, 0 => some ([], t)
  | [], _ + 1 => none
  | c :: t, n + 1 =>
    if n + 1 < c.utf8Size then none
    else (splitAtByte? t (n + 1 - c.utf8Size)).map fun cut => (c :: cut.1, cut.2)

/-- The text from one offset to another. -/
def slice? (t : Text) (first last : Nat) : Option Text := do
  let (front, _) ← splitAtByte? t last
  let (_, slice) ← splitAtByte? front first
  return slice

/-- A text is cut at the offset that is the length of what stands before it, and nowhere else. -/
theorem splitAtByte?_eq_some_iff :
    splitAtByte? t n = some (front, behind) ↔ t = front ++ behind ∧ front.byteLength = n := by
  fun_induction splitAtByte? t n generalizing front with
  | case1 t =>
    constructor
    · intro h
      obtain ⟨rfl, rfl⟩ := Prod.mk.inj (Option.some.inj h)
      exact ⟨rfl, rfl⟩
    · rintro ⟨rfl, hlength⟩
      rw [byteLength_eq_zero_iff.1 hlength, List.nil_append]
  | case2 n =>
    constructor
    · intro h
      contradiction
    · rintro ⟨hnil, hlength⟩
      obtain ⟨rfl, -⟩ := List.append_eq_nil_iff.1 hnil.symm
      contradiction
  | case3 c t n hshort =>
    constructor
    · intro h
      contradiction
    · rintro ⟨hcons, hlength⟩
      -- The text in front holds the first character, of which the offset cuts off a part.
      cases front with
      | nil => contradiction
      | cons d front =>
        obtain ⟨rfl, -⟩ := List.cons.inj hcons
        rw [byteLength_cons] at hlength
        omega
  | case4 c t n hlong ih =>
    constructor
    · intro h
      obtain ⟨⟨front', behind'⟩, hcut, heq⟩ := Option.map_eq_some_iff.1 h
      obtain ⟨rfl, rfl⟩ := Prod.mk.inj heq
      obtain ⟨rfl, hlength⟩ := ih.1 hcut
      rw [byteLength_cons, hlength]
      exact ⟨rfl, by omega⟩
    · rintro ⟨hcons, hlength⟩
      cases front with
      | nil => contradiction
      | cons d front =>
        obtain ⟨rfl, rfl⟩ := List.cons.inj hcons
        rw [byteLength_cons] at hlength
        rw [ih.2 ⟨rfl, by omega⟩]
        rfl

/-- A slice is taken between two offsets at ends of characters, and nothing else is one. -/
theorem slice?_eq_some_iff : slice? t first last = some slice ↔
    ∃ front behind, t = front ++ slice ++ behind ∧ front.byteLength = first ∧
      (front ++ slice).byteLength = last := by
  simp only [slice?, Option.bind_eq_bind, Option.bind_eq_some_iff, Option.pure_def,
    Option.some.injEq, Prod.exists, splitAtByte?_eq_some_iff]
  constructor
  · rintro ⟨upTo, behind, ⟨rfl, rfl⟩, front, slice, ⟨rfl, rfl⟩, rfl⟩
    exact ⟨front, behind, rfl, rfl, rfl⟩
  · rintro ⟨front, behind, rfl, rfl, rfl⟩
    exact ⟨front ++ slice, behind, ⟨rfl, rfl⟩, front, slice, ⟨rfl, rfl⟩, rfl⟩

theorem slice?_append (front slice behind : Text) :
    slice? (front ++ slice ++ behind) front.byteLength (front ++ slice).byteLength = some slice :=
  slice?_eq_some_iff.2 ⟨front, behind, rfl, rfl, rfl⟩

/-- The text behind an offset is the slice up to the end. -/
theorem slice?_end (front slice : Text) :
    slice? (front ++ slice) front.byteLength (front ++ slice).byteLength = some slice :=
  slice?_eq_some_iff.2 ⟨front, [], (List.append_nil _).symm, rfl, rfl⟩

theorem slice?_start (slice behind : Text) :
    slice? (slice ++ behind) 0 slice.byteLength = some slice :=
  slice?_eq_some_iff.2 ⟨[], behind, rfl, rfl, rfl⟩

end Text
end MustacheBuild
