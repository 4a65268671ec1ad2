import Mathlib.Data.List.DropRight
import MustacheBuild.Text.Basic

/-!
Laws of cutting a text at a mark, of trimming it, and of taking it line by line.
-/
namespace MustacheBuild
namespace Text

variable {mark s t before after : Text} {c : Char}

/-! ## Marks -/

theorem cut?_eq_none_iff : cut? mark t = none ↔ ¬ mark <:+: t := by
  induction t with
  | nil => simp [cut?]
  | cons c cs ih =>
    rw [cut?, List.infix_cons_iff, ← List.isPrefixOf_iff_prefix]
    split
    next hmark => simp [hmark]
    next hmark => simp [hmark, ih]

/-- Where the mark is written behind the text, it does not occur before, nor overlap the text. -/
def FoundBehind (mark t : Text) : Prop := ¬ mark <:+: t ++ mark.dropLast

instance (mark t : Text) : Decidable (FoundBehind mark t) := inferInstanceAs (Decidable (¬ _))

theorem not_infix_dropLast (hmark : mark ≠ []) : ¬ mark <:+: mark.dropLast := by
  intro h
  have hlength := h.length_le
  have hpos := List.length_pos_iff.2 hmark
  rw [List.length_dropLast] at hlength
  omega

theorem FoundBehind.not_infix (h : FoundBehind mark t) : ¬ mark <:+: t := fun hfound =>
  h (hfound.trans (List.prefix_append t _).isInfix)

theorem FoundBehind.of_cons (h : FoundBehind mark (c :: t)) : FoundBehind mark t := fun hinfix =>
  h (List.infix_cons hinfix)

/-- The mark is found where nothing of it occurs before. -/
theorem cut?_append (hmark : mark ≠ []) (h : FoundBehind mark before) (after : Text) :
    cut? mark (before ++ mark ++ after) = some (before, after) := by
  induction before with
  | nil =>
    obtain ⟨c, cs, rfl⟩ := List.exists_cons_of_ne_nil hmark
    have hpre : (c :: cs).isPrefixOf (c :: (cs ++ after)) = true :=
      List.isPrefixOf_iff_prefix.2 ⟨after, rfl⟩
    rw [List.nil_append, List.cons_append, cut?, if_pos hpre]
    simp
  | cons c before ih =>
    have hpre : ¬ mark.isPrefixOf (c :: (before ++ mark ++ after)) = true := by
      rw [List.isPrefixOf_iff_prefix]
      intro hpre
      have hlong : c :: before ++ mark.dropLast <+: c :: (before ++ mark ++ after) := by
        rw [List.append_assoc]
        exact (List.prefix_append_right_inj (c :: before)).2
          ((List.dropLast_prefix mark).trans (List.prefix_append mark after))
      refine h (List.prefix_of_prefix_length_le hpre hlong ?_).isInfix
      simp only [List.length_append, List.length_cons, List.length_dropLast]
      omega
    rw [List.cons_append, List.cons_append, cut?, if_neg hpre, ih h.of_cons]
    rfl

theorem foundBehind_of_cut? (hmark : mark ≠ []) (h : cut? mark t = some (before, after)) :
    FoundBehind mark before := by
  induction t generalizing before with
  | nil =>
    rw [cut?, if_neg (by simpa using hmark)] at h
    contradiction
  | cons c cs ih =>
    rw [cut?] at h
    split at h
    next hpre =>
      obtain ⟨rfl, -⟩ := Prod.mk.inj (Option.some.inj h)
      exact not_infix_dropLast hmark
    next hpre =>
      obtain ⟨⟨b, a⟩, hcut, heq⟩ := Option.map_eq_some_iff.1 h
      obtain ⟨rfl, rfl⟩ := Prod.mk.inj heq
      have hcs := cut?_eq_some hcut
      intro hinfix
      rw [List.cons_append, List.infix_cons_iff] at hinfix
      rcases hinfix with hstart | hlater
      · refine hpre (List.isPrefixOf_iff_prefix.2 (hstart.trans ?_))
        rw [hcs, List.append_assoc]
        exact (List.prefix_append_right_inj (c :: b)).2
          ((List.dropLast_prefix mark).trans (List.prefix_append mark a))
      · exact ih hcut hlater

/-- A text is cut at the first occurrence of the mark. -/
theorem cut?_eq_some_iff (hmark : mark ≠ []) :
    cut? mark t = some (before, after) ↔ t = before ++ mark ++ after ∧ FoundBehind mark before := by
  constructor
  · intro h
    exact ⟨cut?_eq_some h, foundBehind_of_cut? hmark h⟩
  · rintro ⟨rfl, h⟩
    exact cut?_append hmark h after

theorem infix_cons_iff_of_notMem (hmark : mark ≠ []) (hc : c ∉ mark) :
    mark <:+: c :: t ↔ mark <:+: t := by
  rw [List.infix_cons_iff, or_iff_right]
  intro hstart
  obtain ⟨d, ds, rfl⟩ := List.exists_cons_of_ne_nil hmark
  obtain ⟨rfl, -⟩ := List.cons_prefix_cons.1 hstart
  simp at hc

/-- A mark lies on one side of a character that is not in it. -/
theorem infix_append_cons_iff (hmark : mark ≠ []) (hc : c ∉ mark) :
    mark <:+: s ++ c :: t ↔ mark <:+: s ∨ mark <:+: t := by
  rw [List.infix_append_iff, infix_cons_iff_of_notMem hmark hc, ← or_assoc, or_iff_left_iff_imp]
  rintro ⟨u, v, rfl, hu, hv⟩
  cases v with
  | nil => exact Or.inl (by simpa using hu.isInfix)
  | cons d v =>
    obtain ⟨rfl, -⟩ := List.cons_prefix_cons.1 hv
    simp at hc

theorem infix_append_iff_of_notMem (hmark : mark ≠ []) (h : ∀ c ∈ s, c ∉ mark) :
    mark <:+: s ++ t ↔ mark <:+: t := by
  induction s with
  | nil => rfl
  | cons c s ih =>
    rw [List.cons_append, infix_cons_iff_of_notMem hmark (h c List.mem_cons_self)]
    exact ih fun d hd => h d (List.mem_cons_of_mem c hd)

theorem FoundBehind.append_of_notMem (hmark : mark ≠ []) (hs : ∀ c ∈ s, c ∉ mark)
    (h : FoundBehind mark t) : FoundBehind mark (s ++ t) := by
  rwa [FoundBehind, List.append_assoc, infix_append_iff_of_notMem hmark hs]

theorem foundBehind_of_notMem (hmark : mark ≠ []) (ht : ∀ c ∈ t, c ∉ mark) :
    FoundBehind mark t := by
  rw [FoundBehind, infix_append_iff_of_notMem hmark ht]
  exact not_infix_dropLast hmark

/-- A character that is doubled in a mark does not meet itself where two texts meet. -/
theorem FoundBehind.not_infix_append (h : FoundBehind [c, c] s) (ht : ¬ [c, c] <:+: t) :
    ¬ [c, c] <:+: s ++ t := by
  induction s with
  | nil => exact ht
  | cons x s ih =>
    rw [List.cons_append, List.infix_cons_iff]
    rintro (hstart | hlater)
    · obtain ⟨rfl, hnext⟩ : c = x ∧ [c] <+: s ++ t := List.cons_prefix_cons.1 hstart
      refine h ?_
      cases s with
      | nil => exact List.infix_rfl
      | cons y s =>
        obtain ⟨rfl, -⟩ : c = y ∧ [] <+: s ++ t := List.cons_prefix_cons.1 hnext
        exact (List.prefix_append [c, c] (s ++ [c])).isInfix
    · exact ih h.of_cons hlater

theorem FoundBehind.append (hs : FoundBehind [c, c] s) (ht : FoundBehind [c, c] t) :
    FoundBehind [c, c] (s ++ t) := by
  rw [FoundBehind, List.append_assoc]
  exact hs.not_infix_append ht

/-! ## White space -/

/-- Nothing is white at the two ends of the text. -/
structure IsTrimmed (t : Text) : Prop where
  head : ∀ c ∈ t.head?, isWhite c = false
  last : ∀ c ∈ t.getLast?, isWhite c = false

theorem trimEnd_append_of_white {w : Text} (h : ∀ c ∈ w, isWhite c = true) (t : Text) :
    trimEnd (t ++ w) = trimEnd t := by
  have hw : w.reverse.dropWhile isWhite = [] :=
    List.dropWhile_eq_nil_iff.2 fun c hc => h c (List.mem_reverse.1 hc)
  rw [trimEnd, List.reverse_append, List.dropWhile_append, hw]
  rfl

theorem trim_append_of_white {w : Text} (h : ∀ c ∈ w, isWhite c = true) (t : Text) :
    trim (t ++ w) = trim t := by
  have hw : w.dropWhile isWhite = [] := List.dropWhile_eq_nil_iff.2 h
  rw [trim, trim, trimStart, trimStart, List.dropWhile_append]
  split
  next hnil => rw [hw, List.isEmpty_iff.1 hnil]
  next => exact trimEnd_append_of_white h _

theorem trim_cons_of_white (hc : isWhite c = true) (t : Text) : trim (c :: t) = trim t := by
  rw [trim, trim, trimStart, trimStart, List.dropWhile_cons_of_pos hc]

theorem trimEnd_eq_self (h : ∀ c ∈ t.getLast?, isWhite c = false) : trimEnd t = t := by
  have hend : t.rdropWhile isWhite = t := by
    rw [List.rdropWhile_eq_self_iff]
    intro hne
    simpa using h _ (List.getLast_mem_getLast? hne)
  exact hend

theorem IsTrimmed.trim_eq (h : IsTrimmed t) : trim t = t := by
  have hstart : trimStart t = t := by
    cases t with
    | nil => rfl
    | cons c t => exact List.dropWhile_cons_of_neg (by simp [h.head c rfl])
  rw [trim, hstart, trimEnd_eq_self h.last]

theorem trim_infix (t : Text) : trim t <:+: t :=
  (List.rdropWhile_prefix isWhite (trimStart t)).isInfix.trans
    (List.dropWhile_suffix isWhite).isInfix

theorem isTrimmed_trim (t : Text) : IsTrimmed (trim t) where
  head c hc := by
    obtain ⟨rest, hrest⟩ : trim t <+: trimStart t := List.rdropWhile_prefix isWhite (trimStart t)
    have hstart : (t.dropWhile isWhite).head? = some c := by
      rw [← trimStart, ← hrest, List.head?_append, Option.mem_def.1 hc]
      rfl
    have hnot := List.head?_dropWhile_not isWhite t
    rwa [hstart] at hnot
  last c hc := by
    obtain ⟨hne, rfl⟩ := List.mem_getLast?_eq_getLast hc
    exact Bool.eq_false_iff.2 (List.rdropWhile_last_not isWhite (trimStart t) hne)

/-! ## Lines -/

@[simp] theorem lineFeeds_append (s t : Text) :
    (s ++ t).lineFeeds = s.lineFeeds + t.lineFeeds := List.count_append

/-- The text ends with a line feed unless it is empty. -/
def WholeLines (t : Text) : Prop := ∀ c ∈ t.getLast?, c = '\n'

instance (t : Text) : Decidable (WholeLines t) := t.getLast?.decidableForallMem

theorem wholeLines_iff : WholeLines t ↔ t = [] ∨ ∃ lines, t = lines ++ ['\n'] := by
  rcases t.eq_nil_or_concat' with rfl | ⟨lines, c, rfl⟩ <;> simp [WholeLines]

theorem WholeLines.of_append (h : WholeLines (s ++ t)) : WholeLines t := by
  intro c hc
  refine h c ?_
  rw [List.getLast?_append, Option.mem_def.1 hc]
  rfl

theorem WholeLines.of_suffix (h : WholeLines t) (hs : s <:+ t) : WholeLines s := by
  obtain ⟨before, rfl⟩ := hs
  exact h.of_append

theorem WholeLines.lineFeed_mem (h : WholeLines t) (ht : t ≠ []) : '\n' ∈ t := by
  rcases wholeLines_iff.1 h with rfl | ⟨lines, rfl⟩
  · exact absurd rfl ht
  · simp

/-- A mark within one line does not lie across the end of a line. -/
theorem WholeLines.infix_append_iff (hs : WholeLines s) (hmark : mark ≠ []) (hfeed : '\n' ∉ mark) :
    mark <:+: s ++ t ↔ mark <:+: s ∨ mark <:+: t := by
  rcases wholeLines_iff.1 hs with rfl | ⟨lines, rfl⟩
  · simp [hmark]
  · rw [List.append_assoc, List.singleton_append, infix_append_cons_iff hmark hfeed,
      infix_append_cons_iff hmark hfeed]
    simp [hmark]

theorem wholeLines_splitLastLine (t : Text) : WholeLines (splitLastLine t).1 := by
  intro c hc
  rw [splitLastLine, List.getLast?_reverse] at hc
  have hnot := List.head?_dropWhile_not (· != '\n') t.reverse
  rw [Option.mem_def.1 hc] at hnot
  simpa using hnot

theorem splitLastLine_of_wholeLines (hs : WholeLines s) (t : Text) :
    splitLastLine (s ++ t) = (s ++ (splitLastLine t).1, (splitLastLine t).2) := by
  rcases wholeLines_iff.1 hs with rfl | ⟨lines, rfl⟩
  · rfl
  -- Read from its end, the text stops at the line feed of `s` at the latest.
  have hdrop : (t.reverse ++ '\n' :: lines.reverse).dropWhile (· != '\n') =
      t.reverse.dropWhile (· != '\n') ++ '\n' :: lines.reverse := by
    rw [List.dropWhile_append]
    split
    next hnil => simp [List.isEmpty_iff.1 hnil]
    next => rfl
  have htake : (t.reverse ++ '\n' :: lines.reverse).takeWhile (· != '\n') =
      t.reverse.takeWhile (· != '\n') := by
    rw [List.takeWhile_append]
    split
    next hall =>
      have hend := List.takeWhile_prefix (· != '\n') (l := t.reverse)
      simp [hend.eq_of_length hall]
    next => rfl
  simp [splitLastLine, hdrop, htake]

theorem splitFirstLine_of_mem (hs : '\n' ∈ s) (t : Text) :
    splitFirstLine (s ++ t) = ((splitFirstLine s).1, (splitFirstLine s).2 ++ t) := by
  induction s with
  | nil => contradiction
  | cons c s ih =>
    by_cases hc : c = '\n'
    · simp [splitFirstLine, hc]
    · have hmem : '\n' ∈ s := List.mem_of_ne_of_mem (Ne.symm hc) hs
      simp [splitFirstLine, hc, ih hmem]

section
variable {line : Text}

theorem takeWhile_of_notMem (h : '\n' ∉ line) : line.takeWhile (· != '\n') = line := by
  apply List.takeWhile_eq_self_iff.2
  intro c hc
  rw [bne_iff_ne]
  rintro rfl
  exact h hc

theorem takeWhile_lineFeed (h : '\n' ∉ line) (rest : Text) :
    (line ++ '\n' :: rest).takeWhile (· != '\n') = line := by
  have hline : ∀ c ∈ line, (c != '\n') = true :=
    List.takeWhile_eq_self_iff.1 (takeWhile_of_notMem h)
  simp [List.takeWhile_append_of_pos hline]

theorem dropWhile_reverse_of_notMem (h : '\n' ∉ line) :
    line.reverse.dropWhile (· == '\n') = line.reverse := by
  apply List.dropWhile_eq_self_iff.2
  intro hlength hhead
  apply h
  rw [← List.mem_reverse, ← beq_iff_eq.1 hhead]
  exact List.getElem_mem hlength

theorem splitFirstLine_of_notMem (h : '\n' ∉ line) :
    splitFirstLine line = (line, []) := by
  induction line with
  | nil => rfl
  | cons c line ih =>
    rw [List.mem_cons, not_or] at h
    simp [splitFirstLine, Ne.symm h.1, ih h.2]

theorem splitFirstLine_lineFeed (h : '\n' ∉ line) (rest : Text) :
    splitFirstLine (line ++ '\n' :: rest) = (line ++ ['\n'], rest) := by
  induction line with
  | nil => rfl
  | cons c line ih =>
    rw [List.mem_cons, not_or] at h
    simp [splitFirstLine, Ne.symm h.1, ih h.2]

theorem splitLastLine_of_notMem (h : '\n' ∉ line) : splitLastLine line = ([], line) := by
  have hreverse : line.reverse.takeWhile (· != '\n') = line.reverse :=
    takeWhile_of_notMem (by simpa using h)
  have hsecond : (splitLastLine line).2 = line := by
    rw [splitLastLine, hreverse, List.reverse_reverse]
  have hfirst : (splitLastLine line).1 = [] := by
    have hsplit := splitLastLine_append line
    rwa [hsecond, List.append_left_eq_self] at hsplit
  exact Prod.ext hfirst hsecond

end

/-- The part of a text behind its last line feed does not depend on the lines in front. -/
theorem rtakeWhile_of_wholeLines {s : Text} (hs : WholeLines s) (t : Text) :
    (s ++ t).rtakeWhile (· != '\n') = t.rtakeWhile (· != '\n') :=
  congrArg Prod.snd (splitLastLine_of_wholeLines hs t)

theorem WholeLines.append_of_ne_nil {t : Text} (ht : WholeLines t) (hne : t ≠ []) (s : Text) :
    WholeLines (s ++ t) := by
  intro c hc
  rw [List.getLast?_append_of_ne_nil s hne] at hc
  exact ht c hc

theorem WholeLines.append {s t : Text} (hs : WholeLines s) (ht : WholeLines t) :
    WholeLines (s ++ t) := by
  by_cases hne : t = []
  · rwa [hne, List.append_nil]
  · exact ht.append_of_ne_nil hne s

theorem rtakeWhile_append_of_notMem (s : Text) {t : Text} (ht : '\n' ∉ t) :
    (s ++ t).rtakeWhile (· != '\n') = s.rtakeWhile (· != '\n') ++ t := by
  have hall : ∀ c ∈ t.reverse, (c != '\n') = true := by
    intro c hc
    rw [bne_iff_ne]
    rintro rfl
    exact ht (List.mem_reverse.1 hc)
  unfold List.rtakeWhile
  rw [List.reverse_append, List.takeWhile_append_of_pos hall, List.reverse_append,
    List.reverse_reverse]

theorem all_dropWhile_of_reverse {p q : Char → Bool} {t : Text}
    (h : (t.reverse.dropWhile q).all p = true) : (t.dropWhile p).all q = true := by
  have hsplit : t = (t.reverse.dropWhile q).reverse ++ (t.reverse.takeWhile q).reverse := by
    rw [← List.reverse_append, List.takeWhile_append_dropWhile, List.reverse_reverse]
  rw [hsplit, List.dropWhile_append_of_pos (by simpa using h), List.all_eq_true]
  intro c hc
  have hmem := List.mem_reverse.1 ((List.dropWhile_suffix p).subset hc)
  exact List.mem_takeWhile_imp hmem

/-- On both sides characters with `p` come first, and behind them characters with `q`. -/
theorem all_dropWhile_reverse (p q : Char → Bool) (t : Text) :
    (t.reverse.dropWhile q).all p = (t.dropWhile p).all q := by
  rw [Bool.eq_iff_iff]
  constructor
  · exact all_dropWhile_of_reverse
  · intro h
    apply all_dropWhile_of_reverse
    rwa [List.reverse_reverse]

end Text
end MustacheBuild
