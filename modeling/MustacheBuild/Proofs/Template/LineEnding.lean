import MustacheBuild.Proofs.Template.Written
import MustacheBuild.Proofs.Text.LineEnding

/-!
A template whose lines end with a carriage return before the line feed is read as the template
without: the same tags are found on the same lines, the same of them are alone on their lines, and
the tree and the errors differ in the texts and names alone.
-/
namespace MustacheBuild

open Text (crlf)

/-! ## Templates with other line endings -/

namespace Name

def crlf : Name → Name
  | implicit => implicit
  | dotted first rest => dotted first.crlf (rest.map Text.crlf)

theorem ofText_crlf (t : Text) : ofText t.crlf = (ofText t).crlf := by
  by_cases ht : t = ['.']
  · subst ht
    rfl
  · have hcrlf : t.crlf ≠ ['.'] := fun h => ht (Text.crlf_injective h)
    rw [ofText, ofText, if_neg ht, if_neg hcrlf, Text.pieces_crlf (by decide) (by decide), crlf]

end Name

def Tag.crlf : Tag → Tag
  | interpolation name => interpolation name.crlf
  | opening name inverted => opening name.crlf inverted
  | closing name => closing name.crlf
  | comment => comment

@[simp] theorem Tag.canStandAlone_crlf (tag : Tag) :
    tag.crlf.canStandAlone = tag.canStandAlone := by
  cases tag <;> rfl

/-- The tag is alone on its line or not as before. -/
def Site.crlf (s : Site) : Site where
  literal := s.literal.crlf
  indent := s.indent.crlf
  source := s.source.crlf
  tag := s.tag.map Tag.crlf
  trail := s.trail.crlf
  rest := s.rest.crlf
  alone := s.alone

def Token.crlf : Token → Token
  | text t => text t.crlf
  | tag found line => tag found.crlf line
  | fault found line => fault found line

mutual

def Node.crlf : Node → Node
  | .text t => .text t.crlf
  | .interpolation name => .interpolation name.crlf
  | .block name inverted children => .block name.crlf inverted (crlfNodes children)

/-- The tree with other line endings in all its texts and names. -/
def crlfNodes : List Node → List Node
  | [] => []
  | node :: rest => node.crlf :: crlfNodes rest

end

def OpenSection.crlf (s : OpenSection) : OpenSection where
  name := s.name.crlf
  inverted := s.inverted
  line := s.line
  before := crlfNodes s.before

def ParseError.Cause.crlf : Cause → Cause
  | tag fault => tag fault
  | unclosedSection name => unclosedSection name.crlf
  | unexpectedClose name => unexpectedClose name.crlf
  | mismatchedClose expected found => mismatchedClose expected.crlf found.crlf

/-- The same error on the same line, with other line endings in the names that it tells. -/
def ParseError.crlf (e : ParseError) : ParseError := { e with cause := e.cause.crlf }

/-! ## Tags -/

variable {t : Text} {atLineStart : Bool}

namespace Braces

theorem crlf_opening (braces : Braces) : braces.opening.crlf = braces.opening := by
  cases braces <;> rfl

theorem crlf_closing (braces : Braces) : braces.closing.crlf = braces.closing := by
  cases braces <;> rfl

theorem cut?_opening_crlf (t : Text) : Text.cut? double.opening t.crlf =
    (Text.cut? double.opening t).map fun cut => (cut.1.crlf, cut.2.crlf) :=
  Text.cut?_crlf (opening_ne_nil double) (by decide) (by decide) t

theorem cut?_closing_crlf (braces : Braces) (t : Text) : Text.cut? braces.closing t.crlf =
    (Text.cut? braces.closing t).map fun cut => (cut.1.crlf, cut.2.crlf) := by
  refine Text.cut?_crlf braces.closing_ne_nil ?_ ?_ t <;> cases braces <;> decide

theorem split_crlf (t : Text) : split t.crlf = ((split t).1, (split t).2.crlf) := by
  cases t with
  | nil => rfl
  | cons c t =>
    by_cases hbrace : c = '{'
    · subst hbrace
      rfl
    · have hhead : (crlf (c :: t)).head? ≠ some '{' := by
        by_cases hc : c = '\n' <;> simp [hc, Text.crlf_cons, hbrace]
      rw [split_of_head? hhead, split_of_head? (by simpa using hbrace)]

end Braces

namespace Tag

theorem named_crlf (make : Text → Tag) (hmake : ∀ t, make t.crlf = (make t).crlf)
    (written : Text) : named make written.crlf = (named make written).map crlf := by
  rw [named, named, Text.trim_crlf, Text.isEmpty_crlf]
  split
  next => rfl
  next => rw [hmake, Except.map]

theorem ofContent_crlf (content : Text) :
    ofContent content.crlf = (ofContent content).map crlf := by
  by_cases hplain : ∀ c ∈ content.head?, c ∉ WrittenTag.sigils
  · have hcrlf : ∀ c ∈ content.crlf.head?, c ∉ WrittenTag.sigils := by
      cases content with
      | nil => simp
      | cons c content =>
        by_cases hc : c = '\n'
        · subst hc
          simp [WrittenTag.sigils]
        · rw [Text.crlf_cons_of_ne hc]
          exact hplain
    rw [ofContent_of_plain hplain, ofContent_of_plain hcrlf]
    exact named_crlf interpolation (fun _ => rfl) content
  · obtain ⟨c, rest, rfl, hc⟩ : ∃ c rest, content = c :: rest ∧ c ∈ WrittenTag.sigils := by
      cases content with
      | nil => simp at hplain
      | cons c rest => exact ⟨c, rest, rfl, by simpa using hplain⟩
    simp only [WrittenTag.sigils, List.mem_cons, List.not_mem_nil, or_false] at hc
    rcases hc with rfl | rfl | rfl | rfl | rfl | rfl | rfl
    · exact named_crlf (opening · false) (fun _ => rfl) rest
    · exact named_crlf (opening · true) (fun _ => rfl) rest
    · exact named_crlf closing (fun _ => rfl) rest
    · exact named_crlf interpolation (fun _ => rfl) rest
    · rfl
    · rfl
    · rfl

theorem ofBody_crlf (braces : Braces) (content : Text) :
    ofBody braces content.crlf = (ofBody braces content).map crlf := by
  cases braces with
  | double => rw [ofBody, ofBody, Text.trim_crlf, ofContent_crlf]
  | triple => exact named_crlf interpolation (fun _ => rfl) content

end Tag

/-! ## Sites -/

namespace Site

theorem indent?_crlf (atLineStart : Bool) (literal : Text) : indent? atLineStart literal.crlf =
    (indent? atLineStart literal).map fun cut => (cut.1.crlf, cut.2.crlf) := by
  simp only [indent?, Text.splitLastLine_crlf, Text.isEmpty_crlf, Text.all_isBlank_crlf]
  split <;> rfl

/-- All carriage returns before a line feed go with it, so one more makes no difference. -/
theorem trail?_crlf (after : Text) :
    trail? after.crlf = (trail? after).map fun cut => (cut.1.crlf, cut.2.crlf) := by
  have hcontent : ((Text.splitFirstLine after).1.crlf.reverse.dropWhile (· == '\n')).dropWhile
      (· == '\r') = ((Text.splitFirstLine after).1.reverse.dropWhile (· == '\n')).dropWhile
        (· == '\r') := by
    obtain ⟨line, hline, h | h⟩ := Text.splitFirstLine_cases after
    · rw [h, Text.crlf_of_notMem hline]
    · rw [h, Text.crlf_append, Text.crlf_of_notMem hline]
      simp [Text.dropWhile_reverse_of_notMem hline]
  simp only [trail?, Text.splitFirstLine_crlf, hcontent]
  split <;> rfl

theorem ofTag_crlf (atLineStart : Bool) (literal source : Text) (tag : Tag) (after : Text) :
    ofTag atLineStart literal.crlf source.crlf tag.crlf after.crlf =
      (ofTag atLineStart literal source tag after).crlf := by
  unfold ofTag
  rw [Tag.canStandAlone_crlf, indent?_crlf, trail?_crlf]
  cases tag.canStandAlone <;> cases indent? atLineStart literal <;> cases trail? after <;> rfl

theorem refused_crlf (literal source : Text) (fault : TagFault) (after : Text) :
    refused literal.crlf source.crlf fault after.crlf = (refused literal source fault after).crlf :=
  rfl

/-- The same tag is found in the same surroundings, alone on its line or not. -/
theorem find?_crlf (atLineStart : Bool) (t : Text) :
    find? atLineStart t.crlf = (find? atLineStart t).map crlf := by
  rw [find?, find?, Braces.cut?_opening_crlf]
  cases Text.cut? Braces.double.opening t with
  | none => rfl
  | some cut =>
    obtain ⟨literal, inner⟩ := cut
    simp only [Option.map_some, Braces.split_crlf, Braces.cut?_closing_crlf]
    generalize (Braces.split inner).1 = braces
    generalize (Braces.split inner).2 = body
    have hopening (u : Text) : braces.opening ++ u.crlf = (braces.opening ++ u).crlf := by
      rw [Text.crlf_append, Braces.crlf_opening]
    cases Text.cut? braces.closing body with
    | none =>
      simp only [Option.map_none, Option.map_some, hopening, ← refused_crlf, Text.crlf_nil]
    | some cut =>
      obtain ⟨content, after⟩ := cut
      have hsource : braces.opening ++ content.crlf ++ braces.closing =
          (braces.opening ++ content ++ braces.closing).crlf := by
        rw [Text.crlf_append, Text.crlf_append, Braces.crlf_opening, Braces.crlf_closing]
      simp only [Option.map_some, Tag.ofBody_crlf, hsource]
      cases Tag.ofBody braces content with
      | error fault => rfl
      | ok tag => exact congrArg some (ofTag_crlf ..)

/-- The tags of a source in their surroundings, one behind the other. Nothing is looked for behind a
tag that is refused. -/
def all (atLineStart : Bool) (t : Text) : List Site :=
  match _h : find? atLineStart t with
  | some s => s :: if s.tag.isOk then all s.alone s.rest else []
  | none => []
termination_by t.length
decreasing_by exact find?_rest_lt ‹_›

theorem all_of_none (h : find? atLineStart t = none) : all atLineStart t = [] := by
  rw [all]
  split
  next hs =>
    rw [h] at hs
    contradiction
  next => rfl

theorem all_of_some {s : Site} (h : find? atLineStart t = some s) :
    all atLineStart t = s :: if s.tag.isOk then all s.alone s.rest else [] := by
  rw [all]
  split
  next hs =>
    obtain rfl := Option.some.inj (h.symm.trans hs)
    rfl
  next hnone =>
    rw [h] at hnone
    contradiction

@[simp] theorem linesBefore_crlf (s : Site) : s.crlf.linesBefore = s.linesBefore := by
  simp [linesBefore, crlf]

@[simp] theorem linesWithin_crlf (s : Site) : s.crlf.linesWithin = s.linesWithin := by
  simp [linesWithin, crlf]

theorem isOk_tag_crlf (s : Site) : s.crlf.tag.isOk = s.tag.isOk := by
  rw [crlf]
  cases s.tag <;> rfl

/-- The same tags are found, and the same of them are alone on their lines. -/
theorem all_crlf (atLineStart : Bool) (t : Text) :
    all atLineStart t.crlf = (all atLineStart t).map crlf := by
  induction atLineStart, t using all.induct with
  | case1 atLineStart t s hs ih =>
    have hcrlf : find? atLineStart t.crlf = some s.crlf := by rw [find?_crlf, hs, Option.map_some]
    rw [all_of_some hs, all_of_some hcrlf, isOk_tag_crlf, List.map_cons]
    split
    next => exact congrArg (s.crlf :: ·) ih
    next => rfl
  | case2 atLineStart t hnone =>
    have hcrlf : find? atLineStart t.crlf = none := by rw [find?_crlf, hnone, Option.map_none]
    rw [all_of_none hnone, all_of_none hcrlf, List.map_nil]

end Site

/-! ## Tokens -/

namespace Token

/-- The tokens of a text in which these tags are found, its first line having the given number. -/
def ofSites (line : Nat) (t : Text) : List Site → List Token
  | [] => [text t]
  | s :: sites =>
    text s.literal ::
      match s.tag with
      | .ok found => tag found (line + s.linesBefore) ::
        ofSites (line + s.linesBefore + s.linesWithin) s.rest sites
      | .error e => [fault e (line + s.linesBefore)]

theorem scan_eq_ofSites (atLineStart : Bool) (line : Nat) (t : Text) :
    scan atLineStart line t = ofSites line t (Site.all atLineStart t) := by
  induction atLineStart, t using Site.all.induct generalizing line with
  | case1 atLineStart t s hs ih =>
    rw [Site.all_of_some hs, ofSites]
    cases htag : s.tag with
    | error e => rw [scan_of_error hs htag]
    | ok found =>
      rw [scan_of_ok hs htag, ih]
      rfl
  | case2 atLineStart t hnone =>
    rw [Site.all_of_none hnone, scan]
    split
    next => rfl
    next hs =>
      rw [hnone] at hs
      contradiction

theorem ofSites_crlf (line : Nat) (t : Text) (sites : List Site) :
    ofSites line t.crlf (sites.map Site.crlf) = (ofSites line t sites).map crlf := by
  induction sites generalizing line t with
  | nil => rfl
  | cons s sites ih =>
    rw [List.map_cons, ofSites, ofSites, Site.linesBefore_crlf, Site.linesWithin_crlf]
    cases htag : s.tag with
    | error e => simp [Site.crlf, htag, Except.map, crlf]
    | ok found => simp [Site.crlf, htag, Except.map, crlf, ih]

end Token

/-! ## The parser -/

@[simp] theorem crlfNodes_append (xs ys : List Node) :
    crlfNodes (xs ++ ys) = crlfNodes xs ++ crlfNodes ys := by
  induction xs with
  | nil => rfl
  | cons node xs ih => rw [List.cons_append, crlfNodes, ih, crlfNodes, List.cons_append]

theorem Node.appendText_crlf (siblings : List Node) (t : Text) :
    appendText (crlfNodes siblings) t.crlf = crlfNodes (appendText siblings t) := by
  rcases siblings.eq_nil_or_concat' with rfl | ⟨init, node, rfl⟩
  · by_cases ht : t = [] <;> simp [appendText, crlfNodes, Node.crlf, ht]
  · by_cases ht : t = [] <;> cases node <;> simp [appendText, crlfNodes, Node.crlf, ht]

theorem Parser.nest_crlf (tokens : List Token) (opened : List OpenSection)
    (siblings : List Node) :
    nest (tokens.map Token.crlf) (opened.map OpenSection.crlf) (crlfNodes siblings) =
      ((nest tokens opened siblings).map crlfNodes).mapError ParseError.crlf := by
  fun_induction nest tokens opened siblings with
  | case1 siblings => rfl
  | case2 innermost outer siblings => rfl
  | case3 t tokens opened siblings ih =>
    rw [← ih, ← Node.appendText_crlf]
    rfl
  | case4 fault line => rfl
  | case5 line tokens opened siblings ih => exact ih
  | case6 name line tokens opened siblings ih =>
    rw [← ih, crlfNodes_append, List.map_cons]
    simp only [Token.crlf, Tag.crlf, nest, crlfNodes, Node.crlf, Name.ofText_crlf]
  | case7 name inverted line tokens opened siblings ih => exact ih
  | case8 name line => rfl
  | case9 line tokens innermost outer siblings ih =>
    rw [← ih, crlfNodes_append, List.map_cons, List.map_cons]
    simp only [Token.crlf, Tag.crlf, OpenSection.crlf, nest, if_true, crlfNodes, Node.crlf,
      Name.ofText_crlf]
  | case10 name line tokens innermost outer siblings hdiffers =>
    -- Two names that differ still do so with other line endings.
    have hcrlf : innermost.name.crlf ≠ name.crlf := fun h => hdiffers (Text.crlf_injective h)
    rw [List.map_cons, List.map_cons]
    simp only [Token.crlf, Tag.crlf, OpenSection.crlf, nest, if_neg hcrlf]
    rfl

/-- The parser goes by the tags of the source, and by which of them are alone on their lines. -/
theorem parse_eq_nest_ofSites (source : Text) :
    parse source = Parser.nest (Token.ofSites 1 source (Site.all true source)) [] [] := by
  rw [parse, Token.scan_eq_ofSites]

/-- With other line endings a source is accepted or refused as before: the tree has the other line
endings in its texts and names, the error is of the same kind on the same line, and the same tags
are alone on their lines. -/
theorem parse_crlf (s : Text) :
    parse s.crlf = ((parse s).map crlfNodes).mapError ParseError.crlf ∧
      Site.all true s.crlf = (Site.all true s).map Site.crlf := by
  refine ⟨?_, Site.all_crlf true s⟩
  rw [parse_eq_nest_ofSites, parse_eq_nest_ofSites s, Site.all_crlf, Token.ofSites_crlf]
  exact Parser.nest_crlf _ [] []

example : parse (crlf "x\n {{#a}}\n{{b}}\n{{/a}} \n".toList) =
    .ok [.text "x\r\n".toList, .block (Name.ofText ['a']) false
      [.interpolation (Name.ofText ['b']), .text "\r\n".toList]] := by cbv

end MustacheBuild
