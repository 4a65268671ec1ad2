import MustacheBuild.Proofs.Template.Written

/-!
The tags of a source in their places, each with all the text before it and all the text behind it.
The scanner goes from one to the next, and over the rest of its line where the line goes with it.
-/
namespace MustacheBuild

open Text (FoundBehind)

/-- A tag in its place. -/
structure Occurrence where
  /-- All the text in front of the tag. -/
  before : Text
  /-- The tag with its braces, or with all that follows them where it is never closed. -/
  source : Text
  tag : WrittenTag
  /-- All the text behind the tag. -/
  after : Text
  deriving DecidableEq, Repr

/-- The tags of `t`, which stands behind `before`, in order. -/
def occurrences (before t : Text) : List Occurrence :=
  match _hopen : Text.cut? Braces.double.opening t with
  | none => []
  | some (literal, inner) =>
    match _hclose : Text.cut? (Braces.split inner).1.closing (Braces.split inner).2 with
    | none =>
      [⟨before ++ literal, (Braces.split inner).1.opening ++ (Braces.split inner).2,
        .unclosed (Braces.split inner).1, []⟩]
    | some (content, after) =>
      ⟨before ++ literal, (Braces.split inner).1.wrap content,
        .closed (Braces.split inner).1 content, after⟩ ::
        occurrences (before ++ literal ++ (Braces.split inner).1.wrap content) after
termination_by t.length
decreasing_by
  have hinner := congrArg List.length (Text.cut?_eq_some _hopen)
  have hafter := congrArg List.length (Text.cut?_eq_some _hclose)
  have hsplit := congrArg List.length (Braces.opening_split inner)
  have hpos := List.length_pos_iff.2 (Braces.split inner).1.opening_ne_nil
  simp only [List.length_append] at hinner hafter hsplit
  omega

section
variable {before literal content body after t : Text} {braces : Braces}

theorem occurrences_of_notInfix (h : ¬ Braces.double.opening <:+: t) (before : Text) :
    occurrences before t = [] := by
  unfold occurrences
  split
  next => rfl
  next hopen => simp [Text.cut?_eq_none_iff.2 h] at hopen

theorem occurrences_of_cut? {inner : Text}
    (hcut : Text.cut? Braces.double.opening t = some (literal, inner))
    (hsplit : Braces.split inner = (braces, body)) (before : Text) :
    occurrences before t =
      match Text.cut? braces.closing body with
      | none => [⟨before ++ literal, braces.opening ++ body, .unclosed braces, []⟩]
      | some (content, after) =>
        ⟨before ++ literal, braces.wrap content, .closed braces content, after⟩ ::
          occurrences (before ++ literal ++ braces.wrap content) after := by
  rw [occurrences]
  split
  next hnone => simp [hcut] at hnone
  next found rest hopen =>
    obtain ⟨rfl, rfl⟩ := Prod.mk.inj (Option.some.inj (hcut.symm.trans hopen))
    rw [hsplit]
    split
    next hclose => rw [hclose]
    next content after hclose => rw [hclose]

theorem occurrences_unclosed (hliteral : FoundBehind Braces.double.opening literal)
    (hbody : braces = .double → body.head? ≠ some '{') (hclosing : ¬ braces.closing <:+: body)
    (before : Text) :
    occurrences before (literal ++ (braces.opening ++ body)) =
      [⟨before ++ literal, braces.opening ++ body, .unclosed braces, []⟩] := by
  obtain ⟨inner, hcut, hsplit⟩ := Braces.cut?_opening hliteral hbody
  rw [occurrences_of_cut? hcut hsplit, Text.cut?_eq_none_iff.2 hclosing]

theorem occurrences_enclosed (hliteral : FoundBehind Braces.double.opening literal)
    (hcontent : braces.Encloses content) (before after : Text) :
    occurrences before (literal ++ (braces.wrap content ++ after)) =
      ⟨before ++ literal, braces.wrap content, .closed braces content, after⟩ ::
        occurrences (before ++ literal ++ braces.wrap content) after := by
  obtain ⟨inner, hcut, hsplit⟩ := Braces.cut?_opening hliteral (hcontent.head?_append after)
  have hwrap : braces.wrap content ++ after =
      braces.opening ++ (content ++ braces.closing ++ after) := by simp [Braces.wrap]
  rw [hwrap, occurrences_of_cut? hcut hsplit,
    Text.cut?_append braces.closing_ne_nil hcontent.found]

theorem occurrences_append_of_notMem {w : Text} (hw : '{' ∉ w) (before t : Text) :
    occurrences before (w ++ t) = occurrences (before ++ w) t := by
  have hmark := Braces.notMem_opening_of_notMem hw
  have hopening := Braces.opening_ne_nil .double
  induction t using tag_induction with
  | plain t ht =>
    rw [occurrences_of_notInfix ht, occurrences_of_notInfix]
    rwa [Text.infix_append_iff_of_notMem hopening hmark]
  | unclosed literal braces body hliteral hbody hclosing =>
    rw [occurrences_unclosed hliteral hbody hclosing, ← List.append_assoc,
      occurrences_unclosed (hliteral.append_of_notMem hopening hmark) hbody hclosing,
      List.append_assoc]
  | enclosed literal braces content after hliteral hcontent _ =>
    rw [occurrences_enclosed hliteral hcontent, ← List.append_assoc,
      occurrences_enclosed (hliteral.append_of_notMem hopening hmark) hcontent]
    simp only [List.append_assoc]

/-- A tag with all that stands before it and behind it is the whole source. -/
theorem append_of_mem_occurrences {o : Occurrence} (h : o ∈ occurrences before t) :
    o.before ++ o.source ++ o.after = before ++ t := by
  induction t using tag_induction generalizing before with
  | plain t ht => simp [occurrences_of_notInfix ht] at h
  | unclosed literal braces body hliteral hbody hclosing =>
    rw [occurrences_unclosed hliteral hbody hclosing, List.mem_singleton] at h
    simp [h]
  | enclosed literal braces content after hliteral hcontent ih =>
    rw [occurrences_enclosed hliteral hcontent, List.mem_cons] at h
    rcases h with rfl | h
    · simp
    · rw [ih after List.suffix_rfl h]
      simp

/-! ## The scanner's way -/

namespace Site

/-- All the text that the scanner has passed behind the site. -/
def through (s : Site) : Text := s.literal ++ s.indent ++ s.source ++ s.trail

variable (atLineStart : Bool) (literal source : Text) (tag : Tag) (after : Text)

theorem through_append_rest :
    (ofTag atLineStart literal source tag after).through ++
        (ofTag atLineStart literal source tag after).rest = literal ++ source ++ after :=
  (ofTag_append atLineStart literal source tag after).1

theorem lineFeeds_through :
    (ofTag atLineStart literal source tag after).through.lineFeeds =
      literal.lineFeeds + (ofTag atLineStart literal source tag after).linesWithin := by
  rw [← linesBefore_ofTag atLineStart literal source tag after]
  simp only [through, linesBefore, linesWithin, Text.lineFeeds_append, Nat.add_assoc]

/-- No tag is passed with the line of another. -/
theorem occurrences_rest_ofTag (before : Text) :
    occurrences (before ++ (ofTag atLineStart literal source tag after).through)
        (ofTag atLineStart literal source tag after).rest =
      occurrences (before ++ literal ++ source) after := by
  rcases ofTag_cases atLineStart literal source tag after with
    ⟨kept, indent, trail, rest, -, hindent, htrail, h⟩ | h
  · rw [h, indent?_eq_some hindent, trail?_eq_some htrail,
      occurrences_append_of_notMem (notMem_trail? htrail)]
    simp only [through, List.append_assoc]
  · rw [h]
    simp only [through, List.append_assoc, List.append_nil]

end Site

/-- The scanner refuses nothing exactly if all tags are proper. -/
theorem scan_faultless_iff (atLineStart : Bool) (line : Nat) (before t : Text) :
    (∀ token ∈ Token.scan atLineStart line t, token.isFault = false) ↔
      ∀ o ∈ occurrences before t, o.tag.Proper := by
  induction atLineStart, line, t using Token.scan_induction generalizing before with
  | plain atLineStart line t ht => simp [Token.scan_of_notInfix ht, occurrences_of_notInfix ht]
  | unclosed atLineStart line literal braces body hliteral hbody hclosing =>
    rw [Token.scan_unclosed hliteral hbody hclosing, occurrences_unclosed hliteral hbody hclosing]
    simpa using fun h => WrittenTag.Proper.closed h braces rfl
  | refused atLineStart line literal braces content after fault hliteral hcontent hbody =>
    have hread := WrittenTag.readAs_ofBody braces content
    rw [Token.scan_refused hliteral hcontent hbody, occurrences_enclosed hliteral hcontent]
    simpa using fun h => absurd (hread.proper.1 h) (by simp [hbody])
  | enclosed atLineStart line literal braces content after tag hliteral hcontent hbody ih =>
    have hproper := (WrittenTag.readAs_ofBody braces content).proper.2 ⟨tag, hbody⟩
    rw [Token.scan_enclosed hliteral hcontent hbody, occurrences_enclosed hliteral hcontent,
      ← Site.occurrences_rest_ofTag _ _ _ tag]
    simp only [List.forall_mem_cons, Token.isFault_text, Token.isFault_tag, true_and, hproper]
    exact ih _

end
end MustacheBuild
