import MustacheBuild.Proofs.Template.Append
import MustacheBuild.Proofs.Template.Occurrence

/-!
Lines that hold one tag and nothing else, put around the lines of a template or between them. Such
a line goes with its tag, so that a section made of lines has the tree of these lines for children,
and a line with a comment makes no difference.
-/
namespace MustacheBuild

open Text (FoundBehind WholeLines)

/-- A line with a tag and nothing else but blanks. Without an ending it can only be the last. -/
structure TagLine where
  indent : Text
  /-- What stands between the braces of the tag. -/
  content : Text
  trail : Text
  ending : Text
  indent_blank : ∀ c ∈ indent, Text.isBlank c = true
  trail_blank : ∀ c ∈ trail, Text.isBlank c = true
  ending_mem : ending ∈ [[], ['\n'], ['\r', '\n']]

namespace TagLine

def toText (l : TagLine) : Text :=
  l.indent ++ (Braces.double.wrap l.content ++ (l.trail ++ l.ending))

/-- The line is followed by another. -/
def Ended (l : TagLine) : Prop := l.ending ≠ []

instance (l : TagLine) : Decidable l.Ended := inferInstanceAs (Decidable (_ ≠ _))

/-- The tag of the line is this one. -/
structure Holds (l : TagLine) (tag : Tag) : Prop where
  enclosed : Braces.double.Encloses l.content
  read : Tag.ofBody .double l.content = .ok tag

end TagLine

/-- A text that can be written for a name between braces with nothing around it. -/
structure PlainName (x : Text) : Prop where
  notEmpty : x ≠ []
  unbraced : '{' ∉ x ∧ '}' ∉ x
  trimmed : Text.IsTrimmed x

/-- The place behind so many characters lies within the tag. -/
def Occurrence.Spans (o : Occurrence) (position : Nat) : Prop :=
  o.before.length < position ∧ position < o.before.length + o.source.length

instance (o : Occurrence) (position : Nat) : Decidable (o.Spans position) :=
  inferInstanceAs (Decidable (_ ∧ _))

variable {x content a b t : Text} {tag : Tag} {line : Nat}

/-! ## What is written in a tag -/

theorem Braces.encloses_of_notMem (hopening : content.head? ≠ some '{') (hclosing : '}' ∉ content) :
    Braces.double.Encloses content := by
  refine ⟨Text.foundBehind_of_notMem (closing_ne_nil double) ?_, fun _ => hopening⟩
  intro c hc hmem
  obtain rfl : c = '}' := by simpa [closing] using hmem
  exact hclosing hc

namespace PlainName

theorem holds_cons (hx : PlainName x) (make : Text → Tag) {l : TagLine} {c : Char}
    (h : l.content = c :: x) (hbrace : c ≠ '{' ∧ c ≠ '}') (hc : Text.isWhite c = false)
    (hmake : ∀ written, Tag.ofContent (c :: written) = Tag.named make written) :
    l.Holds (make x) := by
  constructor
  · rw [h]
    apply Braces.encloses_of_notMem
    · simpa using hbrace.1
    · simpa [hx.unbraced.2] using hbrace.2.symm
  · have htrim : Text.IsTrimmed (c :: x) := by
      constructor
      · simpa using hc
      · obtain ⟨d, y, rfl⟩ := List.exists_cons_of_ne_nil hx.notEmpty
        exact hx.trimmed.last
    rw [h, Tag.ofBody, htrim.trim_eq, hmake, Tag.named, hx.trimmed.trim_eq,
      if_neg (by simpa using hx.notEmpty)]

end PlainName

/-! ## Lines with one tag -/

namespace TagLine

variable (l : TagLine)

theorem indent?_indent : Site.indent? true l.indent = some ([], l.indent) := by
  have hfeed : '\n' ∉ l.indent := fun h => absurd (l.indent_blank _ h) (by decide)
  have hblank : l.indent.all Text.isBlank = true := List.all_eq_true.2 l.indent_blank
  simp [Site.indent?, Text.splitLastLine_of_notMem hfeed, hblank]

theorem trail?_ending : Site.trail? (l.trail ++ l.ending) = some (l.trail ++ l.ending, []) := by
  have hfeed : '\n' ∉ l.trail := fun h => absurd (l.trail_blank _ h) (by decide)
  have hreturns (returns : Text) (hall : ∀ c ∈ returns, c = '\r') :
      ((l.trail ++ returns).dropWhile Text.isBlank).all (· == '\r') = true := by
    rw [List.dropWhile_append_of_pos l.trail_blank, List.all_eq_true]
    intro c hc
    exact beq_iff_eq.2 (hall c ((List.dropWhile_suffix _).subset hc))
  have hnone := hreturns [] (by simp)
  rw [List.append_nil] at hnone
  have hending := l.ending_mem
  simp only [List.mem_cons, List.not_mem_nil, or_false] at hending
  rcases hending with hending | hending | hending
  · rw [hending, List.append_nil, Site.trail?_of_notMem hfeed, if_pos hnone]
  · rw [hending, Site.trail?_lineFeed hfeed, if_pos hnone]
  · have hline : '\n' ∉ l.trail ++ ['\r'] := by simpa using hfeed
    have hsplit : l.trail ++ ['\r', '\n'] = l.trail ++ ['\r'] ++ '\n' :: [] := by simp
    rw [hending, hsplit, Site.trail?_lineFeed hline, if_pos (hreturns ['\r'] (by simp))]

variable {l}

/-- Nothing but its tag is found in the line. -/
theorem Holds.scan_toText (h : l.Holds tag) (halone : tag.canStandAlone = true) (line : Nat) :
    Token.scan true line l.toText =
      [.text [], .tag tag (line + l.indent.lineFeeds), .text []] := by
  have hindent : FoundBehind Braces.double.opening l.indent := by
    have hbrace : '{' ∉ l.indent := fun hmem => absurd (l.indent_blank _ hmem) (by decide)
    exact Text.foundBehind_of_notMem (Braces.opening_ne_nil .double)
      (Braces.notMem_opening_of_notMem hbrace)
  have hsite : Site.ofTag true l.indent (Braces.double.wrap l.content) tag (l.trail ++ l.ending) =
      ⟨[], l.indent, Braces.double.wrap l.content, .ok tag, l.trail ++ l.ending, [], true⟩ := by
    simp [Site.ofTag, halone, l.indent?_indent, l.trail?_ending]
  have hempty : ¬ Braces.double.opening <:+: [] := by decide
  rw [toText, Token.scan_enclosed hindent h.enclosed h.read, hsite, Token.scan_of_notInfix hempty]

theorem wholeLines_toText (h : l.Ended) : WholeLines l.toText := by
  have hending := l.ending_mem
  have hfeed : WholeLines l.ending := by
    simp only [List.mem_cons, List.not_mem_nil, or_false] at hending
    rcases hending with hending | hending | hending
    · exact absurd hending h
    · rw [hending]
      decide
    · rw [hending]
      decide
  unfold toText
  rw [← List.append_assoc, ← List.append_assoc]
  exact hfeed.append_of_ne_nil h _

/-- The parser reads the tag of the line and goes on behind it. -/
theorem Holds.alike_scan (h : l.Holds tag) (halone : tag.canStandAlone = true)
    (hend : l.Ended ∨ t = []) (line : Nat) :
    Parser.Alike (Token.scan true line (l.toText ++ t))
      (.tag tag (line + l.indent.lineFeeds) ::
        Token.scan true (line + l.toText.lineFeeds) t) := by
  have hscan := h.scan_toText halone line
  intro opened siblings
  rcases hend with hended | rfl
  · have hreadable : Token.Readable true l.toText := by
      have hfaultless : ∀ token ∈ Token.scan true line l.toText, token.isFault = false := by
        simp [hscan]
      exact Token.readable_of_scan hfaultless
    rw [alike_scan_append t hreadable (wholeLines_toText hended) fun _ => rfl, hscan]
    rw [List.cons_append, List.cons_append, List.singleton_append, Parser.alike_text_nil]
    exact (Parser.alike_text_nil _).cons _ opened siblings
  · have hempty : ¬ Braces.double.opening <:+: [] := by decide
    rw [List.append_nil, hscan, Token.scan_of_notInfix hempty, Parser.alike_text_nil]

end TagLine

namespace PlainName

variable {l : TagLine}

theorem holds_opening (hx : PlainName x) {inverted : Bool}
    (h : l.content = (if inverted then '^' else '#') :: x) : l.Holds (.opening x inverted) := by
  cases inverted with
  | false =>
    have hplain : l.content = '#' :: x := h
    exact hx.holds_cons (.opening · false) hplain (by decide) (by decide) fun _ => rfl
  | true =>
    have hinverted : l.content = '^' :: x := h
    exact hx.holds_cons (.opening · true) hinverted (by decide) (by decide) fun _ => rfl

theorem holds_closing (hx : PlainName x) (h : l.content = '/' :: x) : l.Holds (.closing x) :=
  hx.holds_cons .closing h (by decide) (by decide) fun _ => rfl

end PlainName

theorem TagLine.Holds.comment {l : TagLine} (hcontent : Braces.double.Encloses l.content)
    (h : (WrittenTag.closed .double l.content).sigil? = some '!') : l.Holds .comment := by
  refine ⟨hcontent, ?_⟩
  rw [WrittenTag.ofBody_eq]
  exact if_pos h

/-! ## Lines in a section -/

/-- Lines between the line that begins a section and the line that ends it are its children. -/
theorem parse_section_lines {lines : Text} {m : List Node} (hlines : WholeLines lines)
    (hm : parse lines = .ok m) {first last : TagLine} {inverted : Bool}
    (hfirst : first.Holds (.opening x inverted)) (hended : first.Ended)
    (hlast : last.Holds (.closing x)) :
    parse (first.toText ++ (lines ++ last.toText)) =
      .ok [.block (Name.ofText x) inverted m] := by
  have hreadable := Token.readable_of_scan (Parser.nest_eq_ok_iff.1 hm).1
  generalize hframe : OpenSection.mk x inverted (1 + first.indent.lineFeeds) [] = frame
  have hinside (more : List Token) :
      Parser.nest (Token.scan true (1 + first.toText.lineFeeds) lines ++ more) [frame] [] =
        Parser.nest more [frame] m := by
    have hnest : Parser.nest (Token.scan true (1 + first.toText.lineFeeds) lines) [] [] =
        .ok m := by rwa [Token.scan_add_line, Parser.nest_moved_iff]
    exact Parser.nest_append_of_ok hnest more [frame]
  have hclose := hlast.alike_scan rfl (Or.inr rfl) (t := [])
    (1 + first.toText.lineFeeds + lines.lineFeeds)
  rw [List.append_nil] at hclose
  rw [parse, hfirst.alike_scan rfl (Or.inl hended), Parser.nest, hframe,
    alike_scan_append _ hreadable hlines fun _ => rfl, hinside, hclose]
  subst hframe
  rw [Parser.nest, if_pos rfl, Token.scan_of_notInfix (by decide)]
  rfl

/-! ## Lines without effect -/

/-- A mark that appears only with what is put behind a text ends behind that text. -/
theorem length_lt_of_not_infix {mark body : Text} (hmark : ¬ mark <:+: body)
    (h : body ++ b = content ++ mark ++ t) : body.length < content.length + mark.length := by
  by_contra! hle
  have hprefix : content ++ mark <+: body := by
    refine List.prefix_of_prefix_length_le ⟨t, h.symm⟩ (List.prefix_append body b) ?_
    rwa [List.length_append]
  exact hmark ((List.suffix_append content mark).isInfix.trans hprefix.isInfix)

/-- A tag that is closed only behind a first part of the source reaches over its end. -/
theorem exists_spans_of_not_infix {literal body : Text} {braces : Braces}
    (hliteral : FoundBehind Braces.double.opening literal)
    (hbody : braces = .double → (body ++ b).head? ≠ some '{') (hpart : ¬ braces.closing <:+: body)
    (hclosing : braces.closing <:+: body ++ b) (before : Text) :
    ∃ o ∈ occurrences before (literal ++ (braces.opening ++ (body ++ b))),
      o.Spans (before.length + (literal ++ (braces.opening ++ body)).length) := by
  cases hcut : Text.cut? braces.closing (body ++ b) with
  | none => exact absurd hclosing (Text.cut?_eq_none_iff.1 hcut)
  | some found =>
    obtain ⟨content, after⟩ := found
    obtain ⟨hclosed, hfound⟩ := (Text.cut?_eq_some_iff braces.closing_ne_nil).1 hcut
    have hcontent : braces.Encloses content := by
      refine ⟨hfound, fun hdouble => ?_⟩
      have hhead := hbody hdouble
      cases content with
      | nil => simp
      | cons c content => simpa [hclosed] using hhead
    have hwrap : literal ++ (braces.opening ++ (body ++ b)) =
        literal ++ (braces.wrap content ++ after) := by simp [hclosed, Braces.wrap]
    rw [hwrap, occurrences_enclosed hliteral hcontent]
    refine ⟨_, List.mem_cons_self, ?_⟩
    have hreach := length_lt_of_not_infix hpart hclosed
    have hopening := List.length_pos_iff.2 braces.opening_ne_nil
    unfold Occurrence.Spans
    simp only [List.length_append, Braces.wrap]
    omega

/-- Where tags of a source do not reach over the end of a first part, the tags of this part are tags
of the source. -/
theorem proper_of_append (ha : WholeLines a) (before : Text)
    (hspans : ∀ o ∈ occurrences before (a ++ b), ¬ o.Spans (before.length + a.length))
    (hproper : ∀ o ∈ occurrences before (a ++ b), o.tag.Proper) :
    ∀ o ∈ occurrences before a, o.tag.Proper := by
  induction a using tag_induction generalizing before with
  | plain a hplain => simp [occurrences_of_notInfix hplain]
  | unclosed literal braces body hliteral hbody hclosing =>
    have hne : body ≠ [] := by
      rintro rfl
      rw [List.append_nil] at ha
      have hopening : WholeLines braces.opening := ha.of_append
      revert hopening
      cases braces <;> simp [WholeLines, Braces.opening]
    have hhead : braces = .double → (body ++ b).head? ≠ some '{' := by
      rwa [List.head?_append_of_ne_nil _ hne]
    rw [List.append_assoc, List.append_assoc] at hspans hproper
    by_cases hbehind : braces.closing <:+: body ++ b
    · obtain ⟨o, ho, hover⟩ := exists_spans_of_not_infix hliteral hhead hclosing hbehind before
      exact absurd hover (hspans o ho)
    · rw [occurrences_unclosed hliteral hhead hbehind] at hproper
      exact absurd rfl ((hproper _ (List.mem_singleton_self _)).closed braces)
  | enclosed literal braces content after hliteral hcontent ih =>
    have hafter : WholeLines after := ha.of_append.of_append
    rw [List.append_assoc, List.append_assoc] at hspans hproper
    rw [occurrences_enclosed hliteral hcontent, List.forall_mem_cons] at hspans
    rw [occurrences_enclosed hliteral hcontent, List.forall_mem_cons] at hproper ⊢
    refine ⟨hproper.1, ?_⟩
    apply ih after List.suffix_rfl hafter (before ++ literal ++ braces.wrap content) _ hproper.2
    simpa only [List.length_append, Nat.add_assoc] using hspans.2

/-- A line with a comment makes no difference between the lines of a source. -/
theorem parse_append_comment {n : List Node} (ha : WholeLines a)
    (hspans : ∀ o ∈ occurrences [] (a ++ b), ¬ o.Spans a.length) (hn : parse (a ++ b) = .ok n)
    {comment : TagLine} (hcomment : comment.Holds .comment) (hend : comment.Ended ∨ b = []) :
    parse (a ++ (comment.toText ++ b)) = .ok n := by
  have hproper := (scan_faultless_iff true 1 [] _).1 (Parser.nest_eq_ok_iff.1 hn).1
  have hreadable : Token.Readable true a := by
    have htags := proper_of_append ha [] (by simpa using hspans) hproper
    exact Token.readable_of_scan ((scan_faultless_iff true 1 [] a).2 htags)
  have hskip (line : Nat) : Parser.Alike (Token.scan true line (comment.toText ++ b))
      (Token.scan true (line + comment.toText.lineFeeds) b) :=
    hcomment.alike_scan rfl hend line
  rw [parse, alike_scan_append _ hreadable ha fun _ => rfl] at hn ⊢
  rw [(hskip _).append_left, Token.scan_add_line]
  rw [Parser.nest_eq_ok_iff] at hn ⊢
  simpa [or_imp, forall_and] using hn

/-! ## Sources made of lines -/

/-- Lines that are put between the beginning and the end of a section are its children, and a line
with a comment makes no difference wherever it is put between lines. -/
theorem parse_tag_lines :
    (∀ (lines : Text) (m : List Node) (x : Text) (inverted : Bool) (first last : TagLine),
      WholeLines lines → parse lines = .ok m → PlainName x →
      first.content = (if inverted then '^' else '#') :: x → first.Ended →
      last.content = '/' :: x →
      parse (first.toText ++ lines ++ last.toText) = .ok [.block (Name.ofText x) inverted m]) ∧
    ∀ (a b : Text) (n : List Node) (comment : TagLine),
      WholeLines a → (∀ o ∈ occurrences [] (a ++ b), ¬ o.Spans a.length) →
      parse (a ++ b) = .ok n → Braces.double.Encloses comment.content →
      (WrittenTag.closed .double comment.content).sigil? = some '!' →
      comment.Ended ∨ b = [] →
      parse (a ++ comment.toText ++ b) = .ok n := by
  constructor
  · intro lines m x inverted first last hlines hm hx hfirst hended hlast
    rw [List.append_assoc]
    exact parse_section_lines hlines hm (hx.holds_opening hfirst) hended (hx.holds_closing hlast)
  · intro a b n comment ha hspans hn hcontent hsigil hend
    rw [List.append_assoc]
    exact parse_append_comment ha hspans hn (.comment hcontent hsigil) hend

theorem parse_tag_lines_section :
    let first : TagLine :=
      ⟨[' '], ['#', 'a'], [], ['\r', '\n'], by simp [Text.isBlank], by simp, by simp⟩
    let last : TagLine := ⟨[], ['/', 'a'], ['\t'], [], by simp, by simp [Text.isBlank], by simp⟩
    let comment : TagLine :=
      ⟨['\t'], "! c".toList, [], ['\n'], by simp [Text.isBlank], by simp, by simp⟩
    let nodes := [Node.block (Name.ofText ['a']) false [.text ['x', '\n']]]
    parse (first.toText ++ ['x', '\n'] ++ last.toText) = .ok nodes ∧
      parse (first.toText ++ comment.toText ++ (['x', '\n'] ++ last.toText)) = .ok nodes := by
  intro first last comment nodes
  have hsection : parse (first.toText ++ ['x', '\n'] ++ last.toText) = .ok nodes := by
    apply parse_tag_lines.1 ['x', '\n'] [.text ['x', '\n']] ['a'] false first last
    · decide
    · cbv
    · have htrim : Text.IsTrimmed ['a'] := ⟨by simp [Text.isWhite], by simp [Text.isWhite]⟩
      exact ⟨by simp, by simp, htrim⟩
    · rfl
    · decide
    · rfl
  refine ⟨hsection, ?_⟩
  apply parse_tag_lines.2 first.toText (['x', '\n'] ++ last.toText) nodes comment
  · decide
  · have htags : occurrences [] (first.toText ++ (['x', '\n'] ++ last.toText)) =
        [⟨[' '], "{{#a}}".toList, .closed .double ['#', 'a'], "\r\nx\n{{/a}}\t".toList⟩,
        ⟨" {{#a}}\r\nx\n".toList, "{{/a}}".toList, .closed .double ['/', 'a'], ['\t']⟩] := by
      cbv
    rw [htags]
    decide
  · rwa [List.append_assoc] at hsection
  · exact ⟨by decide, by decide⟩
  · decide
  · exact Or.inl (by decide)

end MustacheBuild
