import MustacheBuild.Proofs.Text.Basic

/-!
Text with a carriage return put before each line feed. White space, line feeds and marks within one
line are found in it where they were.
-/
namespace MustacheBuild
namespace Text

/-- The text with its lines ended by a carriage return and a line feed. -/
def crlf (t : Text) : Text := t.flatMap fun c => if c = '\n' then ['\r', '\n'] else [c]

variable {s t mark before after : Text} {c : Char}

@[simp] theorem crlf_nil : crlf [] = [] := rfl

@[simp] theorem crlf_append (s t : Text) : (s ++ t).crlf = s.crlf ++ t.crlf := List.flatMap_append

theorem crlf_cons (c : Char) (t : Text) :
    crlf (c :: t) = (if c = '\n' then ['\r', '\n'] else [c]) ++ t.crlf := List.flatMap_cons

@[simp] theorem crlf_lineFeed (t : Text) : crlf ('\n' :: t) = '\r' :: '\n' :: t.crlf := rfl

theorem crlf_cons_of_ne (hc : c ≠ '\n') (t : Text) : crlf (c :: t) = c :: t.crlf := by
  rw [crlf_cons, if_neg hc, List.singleton_append]

theorem crlf_of_notMem (h : '\n' ∉ t) : t.crlf = t := by
  induction t with
  | nil => rfl
  | cons c t ih =>
    rw [List.mem_cons, not_or] at h
    obtain ⟨hc, ht⟩ := h
    rw [crlf_cons_of_ne (Ne.symm hc), ih ht]

@[simp] theorem crlf_eq_nil_iff : t.crlf = [] ↔ t = [] := by
  cases t with
  | nil => simp
  | cons c t => by_cases hc : c = '\n' <;> simp [hc, crlf_cons]

@[simp] theorem isEmpty_crlf (t : Text) : t.crlf.isEmpty = t.isEmpty := by
  rw [Bool.eq_iff_iff, List.isEmpty_iff, List.isEmpty_iff, crlf_eq_nil_iff]

/-- No line feed comes first, since a carriage return stands before it. -/
theorem head?_crlf_ne (t : Text) : t.crlf.head? ≠ some '\n' := by
  cases t with
  | nil => simp
  | cons c t => by_cases hc : c = '\n' <;> simp [hc, crlf_cons]

theorem crlf_injective (h : s.crlf = t.crlf) : s = t := by
  induction s generalizing t with
  | nil => exact (crlf_eq_nil_iff.1 h.symm).symm
  | cons c s ih =>
    cases t with
    | nil => exact crlf_eq_nil_iff.1 h
    | cons d t =>
      by_cases hc : c = '\n' <;> by_cases hd : d = '\n'
      · subst hc hd
        rw [crlf_lineFeed, crlf_lineFeed] at h
        rw [ih (List.cons.inj (List.cons.inj h).2).2]
      · subst hc
        rw [crlf_lineFeed, crlf_cons_of_ne hd] at h
        exact absurd (congrArg List.head? (List.cons.inj h).2).symm (head?_crlf_ne t)
      · subst hd
        rw [crlf_lineFeed, crlf_cons_of_ne hc] at h
        exact absurd (congrArg List.head? (List.cons.inj h).2) (head?_crlf_ne s)
      · rw [crlf_cons_of_ne hc, crlf_cons_of_ne hd] at h
        obtain ⟨rfl, hrest⟩ := List.cons.inj h
        rw [ih hrest]

@[simp] theorem lineFeeds_crlf (t : Text) : t.crlf.lineFeeds = t.lineFeeds := by
  induction t with
  | nil => rfl
  | cons c t ih =>
    simp only [lineFeeds] at ih
    by_cases hc : c = '\n'
    · simp [hc, lineFeeds, ih]
    · simp [hc, crlf_cons_of_ne hc, lineFeeds, ih]

@[simp] theorem all_isBlank_crlf (t : Text) : t.crlf.all isBlank = t.all isBlank := by
  induction t with
  | nil => rfl
  | cons c t ih =>
    by_cases hc : c = '\n'
    · simp [hc, isBlank]
    · rw [crlf_cons_of_ne hc, List.all_cons, List.all_cons, ih]

/-! ## Texts put in the place of characters -/

section
variable {p : Char → Bool} {f : Char → Text}

/-- Where `p` holds of a character it holds of all that takes its place, and where it does not hold
it does not hold of the first character of that. -/
structure Follows (p : Char → Bool) (f : Char → Text) : Prop where
  holds : ∀ c, p c = true → ∀ d ∈ f c, p d = true
  fails : ∀ c, p c = false → ∃ d ds, f c = d :: ds ∧ p d = false

theorem Follows.dropWhile_flatMap (h : Follows p f) (t : Text) :
    (t.flatMap f).dropWhile p = (t.dropWhile p).flatMap f := by
  induction t with
  | nil => rfl
  | cons c t ih =>
    rw [List.flatMap_cons]
    cases hc : p c with
    | true =>
      rw [List.dropWhile_append_of_pos (h.holds c hc), ih, List.dropWhile_cons_of_pos hc]
    | false =>
      obtain ⟨d, ds, hd, hfails⟩ := h.fails c hc
      rw [List.dropWhile_cons_of_neg (by simp [hc]), List.flatMap_cons, hd, List.cons_append,
        List.dropWhile_cons_of_neg (by simp [hfails])]

theorem Follows.takeWhile_flatMap (h : Follows p f) (t : Text) :
    (t.flatMap f).takeWhile p = (t.takeWhile p).flatMap f := by
  induction t with
  | nil => rfl
  | cons c t ih =>
    rw [List.flatMap_cons]
    cases hc : p c with
    | true =>
      rw [List.takeWhile_append_of_pos (h.holds c hc), ih, List.takeWhile_cons_of_pos hc,
        List.flatMap_cons]
    | false =>
      obtain ⟨d, ds, hd, hfails⟩ := h.fails c hc
      rw [List.takeWhile_cons_of_neg (by simp [hc]), hd, List.cons_append,
        List.takeWhile_cons_of_neg (by simp [hfails]), List.flatMap_nil]

end

/-- What takes the place of a character in a text that is read from its end. -/
theorem reverse_crlf (t : Text) :
    t.crlf.reverse = t.reverse.flatMap fun c => if c = '\n' then ['\n', '\r'] else [c] := by
  have hreverse (c : Char) : (if c = '\n' then ['\r', '\n'] else [c]).reverse =
      if c = '\n' then ['\n', '\r'] else [c] := by
    split <;> rfl
  rw [crlf, List.reverse_flatMap]
  exact congrArg (List.flatMap · t.reverse) (funext hreverse)

theorem reverse_flatMap_crlf (t : Text) :
    (t.flatMap fun c => if c = '\n' then ['\n', '\r'] else [c]).reverse = crlf t.reverse := by
  have h := reverse_crlf t.reverse
  rw [List.reverse_reverse] at h
  rw [← h, List.reverse_reverse]

theorem follows_isWhite {w : Text} (hwhite : ∀ d ∈ w, isWhite d = true) :
    Follows isWhite fun c => if c = '\n' then w else [c] := by
  constructor
  · intro c hc d hd
    split at hd
    next => exact hwhite d hd
    next => rwa [List.mem_singleton.1 hd]
  · intro c hc
    have hfeed : c ≠ '\n' := by
      rintro rfl
      contradiction
    exact ⟨c, [], if_neg hfeed, hc⟩

theorem follows_ne_lineFeed :
    Follows (· != '\n') fun c => if c = '\n' then ['\n', '\r'] else [c] := by
  constructor
  · intro c hc d hd
    have hfeed : c ≠ '\n' := by simpa using hc
    rw [if_neg hfeed] at hd
    rwa [List.mem_singleton.1 hd]
  · intro c hc
    obtain rfl : c = '\n' := by simpa using hc
    exact ⟨'\n', ['\r'], rfl, rfl⟩

/-! ## White space and lines -/

@[simp] theorem trim_crlf (t : Text) : t.crlf.trim = t.trim.crlf := by
  have hstart : t.crlf.trimStart = t.trimStart.crlf :=
    (follows_isWhite (by simp [isWhite])).dropWhile_flatMap t
  have hend (s : Text) : s.crlf.trimEnd = s.trimEnd.crlf := by
    rw [trimEnd, reverse_crlf, (follows_isWhite (by simp [isWhite])).dropWhile_flatMap,
      reverse_flatMap_crlf, trimEnd]
  rw [trim, hstart, hend, trim]

theorem splitLastLine_crlf (t : Text) :
    splitLastLine t.crlf = ((splitLastLine t).1.crlf, (splitLastLine t).2.crlf) := by
  rw [splitLastLine, reverse_crlf, follows_ne_lineFeed.dropWhile_flatMap,
    follows_ne_lineFeed.takeWhile_flatMap, reverse_flatMap_crlf, reverse_flatMap_crlf]
  rfl

theorem splitFirstLine_crlf (t : Text) :
    splitFirstLine t.crlf = ((splitFirstLine t).1.crlf, (splitFirstLine t).2.crlf) := by
  induction t with
  | nil => rfl
  | cons c t ih =>
    by_cases hc : c = '\n'
    · subst hc
      rfl
    · simp [splitFirstLine, hc, crlf_cons_of_ne hc, ih]

/-- A first line has a line feed nowhere but at its end. -/
theorem splitFirstLine_cases (t : Text) :
    ∃ line, '\n' ∉ line ∧
      ((splitFirstLine t).1 = line ∨ (splitFirstLine t).1 = line ++ ['\n']) := by
  induction t with
  | nil => exact ⟨[], List.not_mem_nil, Or.inl rfl⟩
  | cons c t ih =>
    by_cases hc : c = '\n'
    · exact ⟨[], List.not_mem_nil, Or.inr (by simp [splitFirstLine, hc])⟩
    · obtain ⟨line, hline, h⟩ := ih
      refine ⟨c :: line, by simp [Ne.symm hc, hline], ?_⟩
      simpa [splitFirstLine, hc] using h

/-! ## Marks -/

theorem prefix_crlf_iff (hfeed : '\n' ∉ mark) (hreturn : '\r' ∉ mark) :
    mark <+: t.crlf ↔ mark <+: t := by
  induction mark generalizing t with
  | nil => simp
  | cons m mark ih =>
    rw [List.mem_cons, not_or] at hfeed hreturn
    cases t with
    | nil => rfl
    | cons c t =>
      by_cases hc : c = '\n'
      · subst hc
        rw [crlf_lineFeed, List.cons_prefix_cons, List.cons_prefix_cons]
        simp [Ne.symm hfeed.1, Ne.symm hreturn.1]
      · rw [crlf_cons_of_ne hc, List.cons_prefix_cons, List.cons_prefix_cons,
          ih hfeed.2 hreturn.2]

/-- A mark within one line is found where it was. -/
theorem infix_crlf_iff (hmark : mark ≠ []) (hfeed : '\n' ∉ mark) (hreturn : '\r' ∉ mark) :
    mark <:+: t.crlf ↔ mark <:+: t := by
  induction t with
  | nil => rfl
  | cons c t ih =>
    by_cases hc : c = '\n'
    · subst hc
      rw [crlf_lineFeed, infix_cons_iff_of_notMem hmark hreturn,
        infix_cons_iff_of_notMem hmark hfeed, infix_cons_iff_of_notMem hmark hfeed, ih]
    · rw [List.infix_cons_iff, ← ih, ← prefix_crlf_iff hfeed hreturn, crlf_cons_of_ne hc,
        List.infix_cons_iff]

theorem cut?_crlf (hmark : mark ≠ []) (hfeed : '\n' ∉ mark) (hreturn : '\r' ∉ mark) (t : Text) :
    cut? mark t.crlf = (cut? mark t).map fun cut => (cut.1.crlf, cut.2.crlf) := by
  cases hcut : cut? mark t with
  | none =>
    rw [cut?_eq_none_iff] at hcut
    rw [Option.map_none, cut?_eq_none_iff, infix_crlf_iff hmark hfeed hreturn]
    exact hcut
  | some cut =>
    obtain ⟨before, after⟩ := cut
    obtain ⟨rfl, hbefore⟩ := (cut?_eq_some_iff hmark).1 hcut
    have hlast : '\n' ∉ mark.dropLast := fun h => hfeed ((List.dropLast_prefix mark).subset h)
    refine (cut?_eq_some_iff hmark).2 ⟨?_, ?_⟩
    · rw [crlf_append, crlf_append, crlf_of_notMem hfeed]
    · rwa [FoundBehind, ← crlf_of_notMem hlast, ← crlf_append, infix_crlf_iff hmark hfeed hreturn]

theorem pieces_crlf {separator : Char} (hfeed : separator ≠ '\n') (hreturn : separator ≠ '\r')
    (t : Text) :
    pieces separator t.crlf = ((pieces separator t).1.crlf, (pieces separator t).2.map crlf) := by
  induction t with
  | nil => rfl
  | cons c t ih =>
    by_cases hc : c = '\n'
    · subst hc
      simp [pieces, ih, Ne.symm hfeed, Ne.symm hreturn]
    · rw [crlf_cons_of_ne hc]
      by_cases hseparator : c = separator
      · simp [pieces, hseparator, ih]
      · simp [pieces, hseparator, ih, crlf_cons_of_ne hc]

end Text
end MustacheBuild
