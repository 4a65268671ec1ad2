import MustacheBuild.Template.Tag

/-!
A template as a sequence of literal text and tags, without regard to nesting. A tag other than an
interpolation that is alone on its line takes the whole line with it.

`Site.find?` locates the next tag together with everything around it that the tag removes, and
`Token.scan` strings the sites together.
-/
namespace MustacheBuild

inductive Token where
  | text (content : Text)
  | tag (tag : Tag) (line : Nat)
  /-- A tag that is refused. Nothing is scanned behind it. -/
  | fault (fault : TagFault) (line : Nat)
  deriving DecidableEq, Repr

/-- A tag in its surroundings. -/
structure Site where
  /-- The text before the tag that stays. -/
  literal : Text
  /-- The blanks before the tag that go with it. -/
  indent : Text
  /-- The tag as written, with its braces. -/
  source : Text
  tag : Except TagFault Tag
  /-- The end of the line that goes with the tag. -/
  trail : Text
  /-- What follows. -/
  rest : Text
  /-- Whether the whole line of the tag goes. -/
  alone : Bool

namespace Site

/-- The line before a tag, if it may be removed: the text after the last line feed of `literal`, or
all of it where the line begins. The other part is what stays. -/
def indent? (atLineStart : Bool) (literal : Text) : Option (Text × Text) :=
  let (kept, line) := Text.splitLastLine literal
  if (atLineStart || !kept.isEmpty) && line.all Text.isBlank then some (kept, line) else none

/-- The line after a tag, if it may be removed, and what follows it. Carriage returns count only
where they stand before the line feed. -/
def trail? (after : Text) : Option (Text × Text) :=
  let (line, rest) := Text.splitFirstLine after
  let content := (line.reverse.dropWhile (· == '\n')).dropWhile (· == '\r')
  if content.all Text.isBlank then some (line, rest) else none

/-- The site of a tag whose line is removed if all around the tag is blank. -/
def ofTag (atLineStart : Bool) (literal source : Text) (tag : Tag) (after : Text) : Site :=
  match if tag.canStandAlone then indent? atLineStart literal else none, trail? after with
  | some (kept, indent), some (trail, rest) =>
    { literal := kept, indent, source, tag := .ok tag, trail, rest, alone := true }
  | _, _ =>
    { literal, indent := [], source, tag := .ok tag, trail := [], rest := after, alone := false }

/-- A tag that is refused, with all that follows its opening braces where it is never closed. -/
def refused (literal source : Text) (fault : TagFault) (after : Text) : Site :=
  { literal, indent := [], source, tag := .error fault, trail := [], rest := after, alone := false }

/-- The first tag of `t`; `atLineStart` tells whether `t` begins a line. -/
def find? (atLineStart : Bool) (t : Text) : Option Site :=
  match Text.cut? Braces.double.opening t with
  | none => none
  | some (literal, inner) =>
    let (braces, body) := Braces.split inner
    match Text.cut? braces.closing body with
    | none => some (refused literal (braces.opening ++ body) (.unclosed braces) [])
    | some (content, after) =>
      let source := braces.opening ++ content ++ braces.closing
      match Tag.ofBody braces content with
      | .error fault => some (refused literal source fault after)
      | .ok tag => some (ofTag atLineStart literal source tag after)

/-- The number of line feeds before the tag. -/
def linesBefore (s : Site) : Nat := s.literal.lineFeeds + s.indent.lineFeeds

/-- The number of line feeds in the tag and in what it removes behind it. -/
def linesWithin (s : Site) : Nat := s.source.lineFeeds + s.trail.lineFeeds

theorem indent?_eq_some {atLineStart : Bool} {literal kept indent : Text}
    (h : indent? atLineStart literal = some (kept, indent)) : literal = kept ++ indent := by
  simp only [indent?] at h
  split at h
  · obtain ⟨rfl, rfl⟩ := Prod.mk.inj (Option.some.inj h)
    exact (Text.splitLastLine_append literal).symm
  · contradiction

theorem trail?_eq_some {after trail rest : Text} (h : trail? after = some (trail, rest)) :
    after = trail ++ rest := by
  simp only [trail?] at h
  split at h
  · obtain ⟨rfl, rfl⟩ := Prod.mk.inj (Option.some.inj h)
    exact (Text.splitFirstLine_append after).symm
  · contradiction

theorem ofTag_append (atLineStart : Bool) (literal source : Text) (tag : Tag) (after : Text) :
    let s := ofTag atLineStart literal source tag after
    s.literal ++ s.indent ++ s.source ++ s.trail ++ s.rest = literal ++ source ++ after ∧
      s.source = source := by
  unfold ofTag
  split
  · next kept indent trail rest hindent htrail =>
    split at hindent
    · simp [indent?_eq_some hindent, trail?_eq_some htrail]
    · contradiction
  · simp

/-- A site loses nothing of the text it was found in, and its tag is not empty. -/
theorem find?_append {atLineStart : Bool} {t : Text} {s : Site} (h : find? atLineStart t = some s) :
    s.literal ++ s.indent ++ s.source ++ s.trail ++ s.rest = t ∧ s.source ≠ [] := by
  unfold find? at h
  split at h
  · contradiction
  · next literal inner hcut =>
    have hopen := Braces.opening_split inner
    have ht : t = literal ++ ((Braces.split inner).1.opening ++ (Braces.split inner).2) := by
      rw [hopen, ← List.append_assoc]
      exact Text.cut?_eq_some hcut
    have hne : (Braces.split inner).1.opening ≠ [] := by
      cases (Braces.split inner).1 <;> simp [Braces.opening]
    dsimp only at h
    split at h
    · cases h
      simp [refused, ht, hne]
    · next content after hbody =>
      have hafter := Text.cut?_eq_some hbody
      split at h
      · cases h
        rw [ht, hafter]
        simp [refused, hne]
      · next tag _ =>
        cases h
        have hall := ofTag_append atLineStart literal
          ((Braces.split inner).1.opening ++ content ++ (Braces.split inner).1.closing) tag after
        refine ⟨?_, ?_⟩
        · rw [hall.1, ht, hafter]
          simp
        · rw [hall.2]
          simp [hne]

theorem find?_rest_lt {atLineStart : Bool} {t : Text} {s : Site}
    (h : find? atLineStart t = some s) : s.rest.length < t.length := by
  obtain ⟨hall, hne⟩ := find?_append h
  have := List.length_pos_iff.2 hne
  rw [← hall]
  simp only [List.length_append]
  omega

end Site

/-- The tokens of `t`, whose first line has the given number. -/
def Token.scan (atLineStart : Bool) (line : Nat) (t : Text) : List Token :=
  match _h : Site.find? atLineStart t with
  | none => [.text t]
  | some s =>
    let tagLine := line + s.linesBefore
    match s.tag with
    | .error e => [.text s.literal, .fault e tagLine]
    | .ok found =>
      .text s.literal :: .tag found tagLine :: scan s.alone (tagLine + s.linesWithin) s.rest
termination_by t.length
decreasing_by exact Site.find?_rest_lt ‹_›

end MustacheBuild
