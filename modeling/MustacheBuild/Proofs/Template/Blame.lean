import MustacheBuild.Proofs.Template.Occurrence

/-!
Which tag a template is refused for. Of the tags in order the first that is wrong is at fault, or at
the end the one that began the innermost section that is still open; and the error tells the line on
which this tag begins.
-/
namespace MustacheBuild

open Text (FoundBehind)

/-- What is wrong with a tag where sections of these names are open, the innermost first. -/
inductive WrittenTag.Wrong : List Text → WrittenTag → ParseError.Cause → Prop
  | unclosed (opened : List Text) (braces : Braces) :
    Wrong opened (.unclosed braces) (.tag (.unclosed braces))
  | nameless (opened : List Text) {braces : Braces} {content : Text}
    (hsigil : ∀ c ∈ (closed braces content).sigil?, c ∉ ['!', '>', '='])
    (hname : (closed braces content).name = []) :
    Wrong opened (closed braces content) (.tag .nameless)
  | partials (opened : List Text) {w : WrittenTag} (hsigil : w.sigil? = some '>') :
    Wrong opened w (.tag (.unsupported .partials))
  | customDelimiters (opened : List Text) {w : WrittenTag} (hsigil : w.sigil? = some '=') :
    Wrong opened w (.tag (.unsupported .customDelimiters))
  | unexpectedClose {w : WrittenTag} (hsigil : w.sigil? = some '/') (hname : w.name ≠ []) :
    Wrong [] w (.unexpectedClose w.name)
  | mismatchedClose {w : WrittenTag} {innermost : Text} (outer : List Text)
    (hsigil : w.sigil? = some '/') (hname : w.name ≠ []) (hdiffers : innermost ≠ w.name) :
    Wrong (innermost :: outer) w (.mismatchedClose innermost w.name)

namespace Occurrence

/-- The line on which the tag begins. -/
def line (o : Occurrence) : Nat := 1 + o.before.count '\n'

theorem line_eq (o : Occurrence) : o.line = 1 + o.before.lineFeeds := rfl

/-- The sections that are open behind the tag, by the tags that began them, innermost first. A
closing tag ends the innermost. -/
def pass (opened : List Occurrence) (o : Occurrence) : List Occurrence :=
  if o.tag.sigil? = some '#' ∨ o.tag.sigil? = some '^' then o :: opened
  else if o.tag.sigil? = some '/' then opened.tail
  else opened

def names (opened : List Occurrence) : List Text := opened.map fun o => o.tag.name

/-- None of the tags is wrong, where these sections are open before them. -/
def Faultless (opened : List Occurrence) : List Occurrence → Prop
  | [] => True
  | o :: tags => (∀ cause, ¬ o.tag.Wrong (names opened) cause) ∧ Faultless (o.pass opened) tags

end Occurrence
open Occurrence

/-- The error that the tags give where these sections are open before them. -/
inductive Blamed (opened tags : List Occurrence) : ParseError → Prop
  /-- The first wrong tag is at fault. -/
  | wrongTag {earlier later : List Occurrence} {o : Occurrence} {cause : ParseError.Cause}
    (htags : tags = earlier ++ o :: later) (hearlier : Faultless opened earlier)
    (hwrong : o.tag.Wrong (names (earlier.foldl pass opened)) cause) :
    Blamed opened tags ⟨o.line, cause⟩
  /-- The innermost section is never closed. -/
  | openSection {o : Occurrence} {outer : List Occurrence} (hfaultless : Faultless opened tags)
    (hopen : tags.foldl pass opened = o :: outer) :
    Blamed opened tags ⟨o.line, .unclosedSection o.tag.name⟩

section
variable {opened tags : List Occurrence} {o : Occurrence} {cause : ParseError.Cause}
  {e : ParseError} {content : Text} {braces : Braces} {tag : Tag} {names : List Text}
  {fault : TagFault}

/-! ## Wrong tags -/

namespace WrittenTag

theorem wrong_unclosed_iff :
    Wrong names (.unclosed braces) cause ↔ cause = .tag (.unclosed braces) := by
  constructor
  · intro h
    cases h with
    | unclosed => rfl
    | partials _ hsigil => contradiction
    | customDelimiters _ hsigil => contradiction
    | unexpectedClose hsigil => contradiction
    | mismatchedClose _ hsigil => contradiction
  · rintro rfl
    exact .unclosed names braces

/-- What is wrong with a tag that the scanner refuses is what it refuses it for. -/
theorem wrong_iff_of_error (h : Tag.ofBody braces content = .error fault) :
    Wrong names (closed braces content) cause ↔ cause = .tag fault := by
  rw [ofBody_eq] at h
  dsimp only at h
  split_ifs at h with hcomment hpartial hdelimiters hname <;> cases h
  · constructor
    · intro h
      cases h <;> simp_all
    · rintro rfl
      exact .partials names hpartial
  · constructor
    · intro h
      cases h <;> simp_all
    · rintro rfl
      exact .customDelimiters names hdelimiters
  · constructor
    · intro h
      cases h <;> simp_all
    · rintro rfl
      exact .nameless names (by rintro c hc; simp_all) hname

/-- Of the tags that the scanner reads only one that closes a section can be wrong. -/
theorem wrong_iff_of_ok (h : Tag.ofBody braces content = .ok tag) (names : List Text)
    (cause : ParseError.Cause) :
    Wrong names (closed braces content) cause ↔
      ∃ name, tag = .closing name ∧
        ((names = [] ∧ cause = .unexpectedClose name) ∨
          ∃ innermost outer, names = innermost :: outer ∧ innermost ≠ name ∧
            cause = .mismatchedClose innermost name) := by
  rw [ofBody_eq] at h
  constructor
  · intro hwrong
    dsimp only at h
    split_ifs at h with hcomment hpartial hdelimiters hname hopening hinverted hclosing <;>
      cases h <;> cases hwrong <;> simp_all
  · rintro ⟨name, rfl, hcases⟩
    dsimp only at h
    split_ifs at h with hcomment hpartial hdelimiters hname hopening hinverted hclosing <;> cases h
    rcases hcases with ⟨rfl, rfl⟩ | ⟨innermost, outer, rfl, hdiffers, rfl⟩
    · exact .unexpectedClose hclosing hname
    · exact .mismatchedClose outer hclosing hname hdiffers

theorem name_of_opening {name : Text} {inverted : Bool}
    (h : Tag.ofBody braces content = .ok (.opening name inverted)) :
    (closed braces content).name = name := by
  rw [ofBody_eq] at h
  dsimp only at h
  split_ifs at h <;> cases h <;> rfl

end WrittenTag

/-- The sections that are open behind a tag that was read. -/
def Tag.pass (opened : List Occurrence) (o : Occurrence) : Tag → List Occurrence
  | opening .. => o :: opened
  | closing _ => opened.tail
  | interpolation _ | comment => opened

theorem Occurrence.pass_of_ok (h : Tag.ofBody braces content = .ok tag)
    (ho : o.tag = .closed braces content) (opened : List Occurrence) :
    o.pass opened = tag.pass opened o := by
  rw [WrittenTag.ofBody_eq] at h
  unfold pass
  rw [ho]
  dsimp only at h
  split_ifs at h <;> cases h <;> simp [*, Tag.pass]

/-! ## The error that tags give -/

theorem blamed_nil_iff : Blamed opened [] e ↔
    ∃ o outer, opened = o :: outer ∧ e = ⟨o.line, .unclosedSection o.tag.name⟩ := by
  constructor
  · intro h
    cases h with
    | wrongTag htags => simp at htags
    | @openSection o outer _ hopen => exact ⟨o, outer, hopen, rfl⟩
  · rintro ⟨o, outer, rfl, rfl⟩
    exact .openSection trivial rfl

theorem blamed_cons_of_wrong (cause : ParseError.Cause)
    (hwrong : ∀ found, o.tag.Wrong (Occurrence.names opened) found ↔ found = cause) :
    Blamed opened (o :: tags) e ↔ e = ⟨o.line, cause⟩ := by
  have hcause := (hwrong cause).2 rfl
  constructor
  · intro h
    cases h with
    | @wrongTag earlier later p found htags hearlier hfound =>
      cases earlier with
      | nil =>
        obtain ⟨rfl, -⟩ := List.cons.inj htags
        rw [(hwrong found).1 hfound]
      | cons first earlier =>
        obtain ⟨rfl, -⟩ := List.cons.inj htags
        exact absurd hcause (hearlier.1 cause)
    | openSection hfaultless => exact absurd hcause (hfaultless.1 cause)
  · rintro rfl
    have htags : o :: tags = [] ++ o :: tags := rfl
    exact .wrongTag htags trivial hcause

theorem blamed_cons_of_right (hright : ∀ cause, ¬ o.tag.Wrong (Occurrence.names opened) cause) :
    Blamed opened (o :: tags) e ↔ Blamed (o.pass opened) tags e := by
  constructor
  · intro h
    cases h with
    | @wrongTag earlier later p found htags hearlier hfound =>
      cases earlier with
      | nil =>
        obtain ⟨rfl, -⟩ := List.cons.inj htags
        exact absurd hfound (hright found)
      | cons first earlier =>
        obtain ⟨rfl, hrest⟩ := List.cons.inj htags
        exact .wrongTag hrest hearlier.2 hfound
    | openSection hfaultless hopen => exact .openSection hfaultless.2 hopen
  · intro h
    cases h with
    | @wrongTag earlier later p found htags hearlier hfound =>
      have hall : o :: tags = (o :: earlier) ++ p :: later := congrArg (o :: ·) htags
      exact .wrongTag hall ⟨hright, hearlier⟩ hfound
    | openSection hfaultless hopen => exact .openSection ⟨hright, hfaultless⟩ hopen

/-! ## The parser -/

/-- The parser's open sections are those that the tags have begun. -/
def Tracks (frames : List OpenSection) (opened : List Occurrence) : Prop :=
  List.Forall₂ (fun s o => s.name = o.tag.name ∧ s.line = o.line) frames opened

variable {frames : List OpenSection} {t before : Text} {atLineStart : Bool} {line : Nat}

theorem Tracks.nest_nil_iff (h : Tracks frames opened) (siblings : List Node) :
    Parser.nest [] frames siblings = .error e ↔ Blamed opened [] e := by
  rw [blamed_nil_iff]
  cases h with
  | nil => simp [Parser.nest]
  | cons hinnermost _ =>
    obtain ⟨hname, hline⟩ := hinnermost
    simp [Parser.nest, hname, hline, eq_comm]

/-- What the parser says of the text scanned is what the tags in it give. -/
theorem nest_scan_eq_error_iff (siblings : List Node) (hline : line = 1 + before.lineFeeds)
    (h : Tracks frames opened) :
    Parser.nest (Token.scan atLineStart line t) frames siblings = .error e ↔
      Blamed opened (occurrences before t) e := by
  induction atLineStart, line, t using Token.scan_induction
    generalizing before frames opened siblings with
  | plain atLineStart line t ht =>
    rw [Token.scan_of_notInfix ht, occurrences_of_notInfix ht, Parser.nest]
    exact h.nest_nil_iff _
  | unclosed atLineStart line literal braces body hliteral hbody hclosing =>
    rw [Token.scan_unclosed hliteral hbody hclosing, occurrences_unclosed hliteral hbody hclosing,
      Parser.nest, Parser.nest, blamed_cons_of_wrong _ fun _ => WrittenTag.wrong_unclosed_iff,
      hline]
    simp [Occurrence.line_eq, Nat.add_assoc, eq_comm]
  | refused atLineStart line literal braces content after fault hliteral hcontent hbody =>
    rw [Token.scan_refused hliteral hcontent hbody, occurrences_enclosed hliteral hcontent,
      Parser.nest, Parser.nest,
      blamed_cons_of_wrong _ fun _ => WrittenTag.wrong_iff_of_error hbody, hline]
    simp [Occurrence.line_eq, Nat.add_assoc, eq_comm]
  | enclosed atLineStart line literal braces content after tag hliteral hcontent hbody ih =>
    have hrest := Site.occurrences_rest_ofTag atLineStart literal (braces.wrap content) tag after
      before
    have hfeeds := Site.lineFeeds_through atLineStart literal (braces.wrap content) tag after
    rw [Token.scan_enclosed hliteral hcontent hbody, occurrences_enclosed hliteral hcontent,
      Parser.nest, ← hrest]
    have hpass := Occurrence.pass_of_ok (o := ⟨before ++ literal, braces.wrap content,
      .closed braces content, after⟩) hbody rfl
    have hwrong := WrittenTag.wrong_iff_of_ok hbody
    have hfirst : line + literal.lineFeeds = 1 + (before ++ literal).lineFeeds := by
      rw [hline, Text.lineFeeds_append, Nat.add_assoc]
    generalize Site.ofTag atLineStart literal (braces.wrap content) tag after = site at *
    have hnext : line + literal.lineFeeds + site.linesWithin =
        1 + (before ++ site.through).lineFeeds := by
      rw [Text.lineFeeds_append, hfeeds, hline]
      omega
    cases tag with
    | comment =>
      rw [Parser.nest, blamed_cons_of_right (by simp [hwrong]), hpass]
      exact ih _ hnext h
    | interpolation name =>
      rw [Parser.nest, blamed_cons_of_right (by simp [hwrong]), hpass]
      exact ih _ hnext h
    | opening name inverted =>
      rw [Parser.nest, blamed_cons_of_right (by simp [hwrong]), hpass]
      exact ih _ hnext (.cons ⟨(WrittenTag.name_of_opening hbody).symm, hfirst⟩ h)
    | closing name =>
      cases h with
      | nil =>
        rw [Parser.nest, blamed_cons_of_wrong (.unexpectedClose name), hfirst]
        · simp [Occurrence.line_eq, eq_comm]
        · simp [hwrong, Occurrence.names]
      | @cons innermost begun frames outer hinnermost houter =>
        obtain ⟨hinnermost, -⟩ := hinnermost
        rw [Parser.nest]
        split
        next hname =>
          rw [blamed_cons_of_right, hpass]
          · exact ih _ hnext houter
          · simp [hwrong, Occurrence.names, ← hinnermost, hname]
        next hname =>
          rw [blamed_cons_of_wrong (.mismatchedClose innermost.name name), hfirst]
          · simp [Occurrence.line_eq, eq_comm]
          · simp [hwrong, Occurrence.names, ← hinnermost, hname]

/-- A template is refused for the first of its tags that is wrong, or else for the innermost section
that is open at its end, and the error names the line on which that tag begins. -/
theorem parse_eq_error_iff (source : Text) (e : ParseError) :
    parse source = .error e ↔ Blamed [] (occurrences [] source) e :=
  nest_scan_eq_error_iff [] rfl .nil

/-- The tag at fault is the one that closes a section too early, not one behind it. -/
example : parse "{{#a}}\n{{#b}}\n{{/a}}\n{{>c}}".toList =
    .error ⟨3, .mismatchedClose ['b'] ['a']⟩ := by cbv

end

end MustacheBuild
