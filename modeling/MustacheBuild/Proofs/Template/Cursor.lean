import MustacheBuild.Proofs.Template.Standalone
import MustacheBuild.Proofs.Text.Slice

/-!
The scanner as it goes over a source by byte offsets, cutting out each piece of text that it looks
at. It never cuts outside of the source or within a character, it goes on with each tag, and what it
reads is what the parser reads.
-/
namespace MustacheBuild

open Text (FoundBehind slice?)

/-- How far the scanner has come. -/
structure Cursor where
  position : Nat
  /-- The number of the line in which the offset `counted` lies. -/
  line : Nat
  /-- The offset up to which line feeds have been counted. -/
  counted : Nat

/-- The offsets at a tag: where the text before it ends that stays, where the tag itself starts and
ends, and where the scanner goes on. -/
structure TagOffsets where
  textEnd : Nat
  start : Nat
  tagEnd : Nat
  resume : Nat

/-- What the scanner finds next. -/
inductive Turn where
  /-- No tag is left. -/
  | finished (rest : Text)
  | refused (fault : TagFault) (line : Nat)
  | passed (offsets : TagOffsets) (literal : Text) (tag : Tag) (line : Nat)

namespace Site

variable (atLineStart : Bool) (literal source : Text) (tag : Tag) (after : Text)

/-- What stays of a literal is the beginning of it. -/
theorem literal_ofTag_prefix :
    (ofTag atLineStart literal source tag after).literal <+: literal := by
  rcases ofTag_cases atLineStart literal source tag after with
    ⟨kept, indent, _, _, -, hindent, -, h⟩ | h
  · rw [h, indent?_eq_some hindent]
    exact List.prefix_append kept indent
  · have hliteral := congrArg Site.literal h
    exact ⟨[], (List.append_nil _).trans hliteral⟩

/-- The scanner passes the literal, the tag and what goes with it behind it. -/
theorem through_ofTag : (ofTag atLineStart literal source tag after).through =
    literal ++ source ++ (ofTag atLineStart literal source tag after).trail := by
  rcases ofTag_cases atLineStart literal source tag after with
    ⟨_, _, _, _, -, hindent, -, h⟩ | h
  · rw [h, through, indent?_eq_some hindent]
  · simp [h, through]

end Site

namespace Cursor

def start : Cursor := ⟨0, 1, 0⟩

/-- The cursor behind a tag. -/
def behind (offsets : TagOffsets) (line : Nat) : Cursor := ⟨offsets.resume, line, offsets.start⟩

/-- The offset of the first occurrence of a mark. -/
def offset? (mark t : Text) : Option Nat := (Text.cut? mark t).map fun cut => cut.1.byteLength

/-- The number of the line at an offset, for which line feeds are counted on from where the count
stands. -/
def lineAt? (source : Text) (c : Cursor) (offset : Nat) : Option Nat := do
  let passed ← slice? source c.counted offset
  return c.line + passed.lineFeeds

/-- The text behind the first byte of a content, which is a character of its own. -/
def behindSigil? (content : Text) : Option Text := slice? content 1 content.byteLength

/-- The tag with the given trimmed content. -/
def classify? (content : Text) : Option (Except TagFault Tag) :=
  match content.head? with
  | some '#' => (behindSigil? content).map (Tag.named (.opening · false))
  | some '^' => (behindSigil? content).map (Tag.named (.opening · true))
  | some '/' => (behindSigil? content).map (Tag.named .closing)
  | some '&' => (behindSigil? content).map (Tag.named .interpolation)
  | some '!' => some (.ok .comment)
  | some '>' => some (.error (.unsupported .partials))
  | some '=' => some (.error (.unsupported .customDelimiters))
  | _ => some (Tag.named .interpolation content)

def tagOf? : Braces → Text → Option (Except TagFault Tag)
  | .double, content => classify? content.trim
  | .triple, content => some (Tag.named .interpolation content)

/-- The tag that starts at an offset, and the offset at which it ends. -/
def readTag? (source : Text) (start : Nat) : Option (Except TagFault (Tag × Nat)) := do
  let rest ← slice? source (start + Braces.double.opening.byteLength) source.byteLength
  let (braces, body) := Braces.split rest
  match offset? braces.closing body with
  | none => return .error (.unclosed braces)
  | some close =>
    let tag ← tagOf? braces (← slice? body 0 close)
    let tagEnd := start + braces.opening.byteLength + close + braces.closing.byteLength
    return tag.map fun tag => (tag, tagEnd)

/-- Where the line of a tag begins, if nothing but blanks stands before the tag on it, and if it
begins where the scanner stands or behind it. -/
def lineStart? (source : Text) (position start : Nat) : Option (Option Nat) := do
  let upTo ← slice? source 0 start
  let lineStart := (Text.splitLastLine upTo).1.byteLength
  if lineStart < position then return none
  else
    let lead ← slice? source lineStart start
    return if lead.all Text.isBlank then some lineStart else none

/-- Where the line of a tag ends, if nothing but blanks and then the line break stands behind the
tag on it. -/
def lineEnd? (source : Text) (tagEnd : Nat) : Option (Option Nat) := do
  let rest ← slice? source tagEnd source.byteLength
  let lineEnd := (Text.splitFirstLine rest).1.byteLength
  let line ← slice? rest 0 lineEnd
  let content := (line.reverse.dropWhile (· == '\n')).dropWhile (· == '\r')
  return if content.all Text.isBlank then some (tagEnd + lineEnd) else none

/-- Where the text in front of a tag ends that stays, and where the scanner goes on: at the lines of
the tag if they go with it, else at the tag itself. -/
def around? (source : Text) (position start : Nat) (tag : Tag) (tagEnd : Nat) :
    Option (Nat × Nat) := do
  if tag.canStandAlone then
    match ← lineStart? source position start with
    | none => return (start, tagEnd)
    | some first =>
      match ← lineEnd? source tagEnd with
      | none => return (start, tagEnd)
      | some last => return (first, last)
  else return (start, tagEnd)

/-- The text between two offsets, which is cut out only if there is any. -/
def textBetween? (source : Text) (first last : Nat) : Option Text :=
  if last ≤ first then some [] else slice? source first last

/-- One turn of the scanner. There is none if it cuts where the source cannot be cut. -/
def turn? (source : Text) (c : Cursor) : Option Turn := do
  let rest ← slice? source c.position source.byteLength
  match offset? Braces.double.opening rest with
  | none => return .finished (← textBetween? source c.position source.byteLength)
  | some offset =>
    let start := c.position + offset
    let line ← lineAt? source c start
    match ← readTag? source start with
    | .error fault => return .refused fault line
    | .ok (tag, tagEnd) =>
      let (textEnd, resume) ← around? source c.position start tag tagEnd
      let literal ← textBetween? source c.position textEnd
      return .passed ⟨textEnd, start, tagEnd, resume⟩ literal tag line

/-- The scanner goes on from a cursor to the end, or to a tag that is refused, and reads these
tokens on its way. -/
inductive Scans (source : Text) : Cursor → List Token → Prop
  | finished {c : Cursor} {rest : Text} : turn? source c = some (.finished rest) →
    Scans source c [.text rest]
  | refused {c : Cursor} {fault : TagFault} {line : Nat} :
    turn? source c = some (.refused fault line) → Scans source c [.fault fault line]
  | passed {c : Cursor} {offsets : TagOffsets} {literal : Text} {tag : Tag} {line : Nat}
    {tokens : List Token} : turn? source c = some (.passed offsets literal tag line) →
    Scans source (behind offsets line) tokens →
    Scans source c (.text literal :: .tag tag line :: tokens)

/-- The cursors of all turns of the scanner. The parser takes a first part of these turns, up to a
closing tag that does not match. -/
inductive Reached (source : Text) : Cursor → Prop
  | start : Reached source start
  | behind {c : Cursor} {offsets : TagOffsets} {literal : Text} {tag : Tag} {line : Nat} :
    Reached source c → turn? source c = some (.passed offsets literal tag line) →
    Reached source (behind offsets line)

/-- The offsets of a turn are in order and within the source, and none lies within a character. -/
structure InBounds (source : Text) (c : Cursor) (offsets : TagOffsets) : Prop where
  position_le : c.position ≤ offsets.textEnd
  textEnd_le : offsets.textEnd ≤ offsets.start
  start_lt : offsets.start < offsets.tagEnd
  tagEnd_le : offsets.tagEnd ≤ offsets.resume
  resume_le : offsets.resume ≤ source.byteLength
  counted_le : c.counted ≤ offsets.start
  boundaries : ∀ n ∈ [c.position, c.counted, offsets.textEnd, offsets.start, offsets.tagEnd,
    offsets.resume], source.IsBoundary n

section
variable {before rest literal content body after front t : Text} {braces : Braces} {tag : Tag}
  {atLineStart : Bool} {c : Cursor} {line : Nat} {fault : TagFault}

/-! ## Tags -/

/-- The characters that classify a tag take one byte each. -/
theorem behindSigil?_cons (sigil : Char) (h : sigil.utf8Size = 1) (name : Text) :
    behindSigil? (sigil :: name) = some name := by
  have hslice := Text.slice?_end [sigil] name
  rwa [Text.byteLength_cons, h] at hslice

theorem classify?_eq (content : Text) : classify? content = some (Tag.ofContent content) := by
  unfold Tag.ofContent
  split
  next name =>
    exact congrArg (Option.map (Tag.named (.opening · false))) (behindSigil?_cons '#' rfl name)
  next name =>
    exact congrArg (Option.map (Tag.named (.opening · true))) (behindSigil?_cons '^' rfl name)
  next name =>
    exact congrArg (Option.map (Tag.named .closing)) (behindSigil?_cons '/' rfl name)
  next name =>
    exact congrArg (Option.map (Tag.named .interpolation)) (behindSigil?_cons '&' rfl name)
  next => rfl
  next => rfl
  next => rfl
  next name h₁ h₂ h₃ h₄ h₅ h₆ h₇ =>
    cases content with
    | nil => rfl
    | cons sigil content =>
      unfold classify?
      split <;> simp_all

theorem tagOf?_eq (braces : Braces) (content : Text) :
    tagOf? braces content = some (Tag.ofBody braces content) := by
  cases braces with
  | double => exact classify?_eq content.trim
  | triple => rfl

theorem offset?_append {mark : Text} (hmark : mark ≠ []) (h : FoundBehind mark before)
    (after : Text) : offset? mark (before ++ mark ++ after) = some before.byteLength := by
  rw [offset?, Text.cut?_append hmark h]
  rfl

/-- A tag is read where its braces open. -/
theorem readTag?_enclosed (front after : Text) (h : braces.Encloses content) :
    readTag? (front ++ (braces.wrap content ++ after)) front.byteLength =
      some ((Tag.ofBody braces content).map fun tag =>
        (tag, (front ++ braces.wrap content).byteLength)) := by
  have hempty : FoundBehind Braces.double.opening [] := by decide
  obtain ⟨inner, hcut, hsplit⟩ := Braces.cut?_opening hempty (h.head?_append after)
  have hinner := Text.cut?_eq_some hcut
  rw [List.nil_append, List.nil_append] at hinner
  have hsource : front ++ (braces.wrap content ++ after) =
      front ++ Braces.double.opening ++ inner := by
    rw [List.append_assoc, ← hinner, Braces.wrap]
    simp only [List.append_assoc]
  have hslice := Text.slice?_end (front ++ Braces.double.opening) inner
  have hcontent := Text.slice?_start content (braces.closing ++ after)
  rw [← hsource, Text.byteLength_append front Braces.double.opening] at hslice
  rw [← List.append_assoc] at hcontent
  simp only [readTag?, hslice, hsplit, offset?_append braces.closing_ne_nil h.found, hcontent,
    tagOf?_eq, Option.bind_eq_bind, Option.bind_some, Option.pure_def]
  simp only [Braces.wrap, Text.byteLength_append, Nat.add_assoc]

theorem readTag?_unclosed (front : Text) (hbody : braces = .double → body.head? ≠ some '{')
    (hclosing : ¬ braces.closing <:+: body) :
    readTag? (front ++ (braces.opening ++ body)) front.byteLength =
      some (.error (.unclosed braces)) := by
  have hempty : FoundBehind Braces.double.opening [] := by decide
  obtain ⟨inner, hcut, hsplit⟩ := Braces.cut?_opening hempty hbody
  have hinner := Text.cut?_eq_some hcut
  rw [List.nil_append, List.nil_append] at hinner
  have hslice := Text.slice?_end (front ++ Braces.double.opening) inner
  rw [List.append_assoc, ← hinner, Text.byteLength_append] at hslice
  simp only [readTag?, hslice, hsplit, offset?, Text.cut?_eq_none_iff.2 hclosing,
    Option.bind_eq_bind, Option.bind_some, Option.map_none, Option.pure_def]

/-! ## Lines -/

theorem lineAt?_eq (hline : c.line = 1 + front.lineFeeds)
    (hcounted : c.counted = front.byteLength) (t more : Text) :
    lineAt? (front ++ t ++ more) c (front ++ t).byteLength = some (1 + (front ++ t).lineFeeds) := by
  rw [lineAt?, hcounted, Text.slice?_append, hline, Text.lineFeeds_append, ← Nat.add_assoc]
  rfl

/-- The line of a tag begins in front of it where the blanks begin that may go with the tag. -/
theorem lineStart?_eq (h : Resumes before atLineStart) (literal more : Text) :
    lineStart? (before ++ literal ++ more) before.byteLength (before ++ literal).byteLength =
      some ((Site.indent? atLineStart literal).map fun cut => (before ++ cut.1).byteLength) := by
  have hindent := Site.indent?_of_resumes h literal
  have hsplit := Text.splitLastLine_append (before ++ literal)
  have hlead : (Text.splitLastLine (before ++ literal)).2 =
      (before ++ literal).rtakeWhile (· != '\n') := rfl
  have hslice := Text.slice?_append (Text.splitLastLine (before ++ literal)).1
    (Text.splitLastLine (before ++ literal)).2 more
  rw [hsplit] at hslice
  rw [hlead] at hsplit hslice
  dsimp only at hindent
  simp only [lineStart?, Text.slice?_start, hslice, Option.bind_eq_bind, Option.bind_some,
    Option.pure_def]
  generalize (before ++ literal).rtakeWhile (· != '\n') = lead at *
  split at hindent
  next hblank =>
    obtain ⟨kept, rfl, hindent⟩ := hindent
    rw [← List.append_assoc] at hsplit
    have hbegin := List.append_cancel_right hsplit
    rw [← List.append_assoc, hbegin, if_pos hblank, hindent, Text.byteLength_append,
      if_neg (by omega)]
    simp
  next hblank =>
    rw [hindent, if_neg hblank]
    split <;> rfl

/-- The line of a tag ends behind it where the part of it ends that may go with the tag. -/
theorem lineEnd?_eq (front after : Text) :
    lineEnd? (front ++ after) front.byteLength =
      some ((Site.trail? after).map fun cut => (front ++ cut.1).byteLength) := by
  have hline := Text.slice?_start (Text.splitFirstLine after).1 (Text.splitFirstLine after).2
  rw [Text.splitFirstLine_append] at hline
  simp only [lineEnd?, Text.slice?_end, hline, Site.trail?, Option.bind_eq_bind, Option.bind_some,
    Option.pure_def]
  split
  next => simp
  next => rfl

/-- What goes with a tag is what its site says. -/
theorem around?_eq (h : Resumes before atLineStart) (literal written : Text) (tag : Tag)
    (after : Text) :
    let site := Site.ofTag atLineStart literal written tag after
    around? (before ++ literal ++ written ++ after) before.byteLength
        (before ++ literal).byteLength tag (before ++ literal ++ written).byteLength =
      some ((before ++ site.literal).byteLength, (before ++ site.through).byteLength) := by
  intro site
  have hstart := lineStart?_eq h literal (written ++ after)
  rw [← List.append_assoc] at hstart
  have hend := lineEnd?_eq (before ++ literal ++ written) after
  simp only [around?, hstart, hend, site]
  cases hcan : tag.canStandAlone with
  | false =>
    rw [Site.ofTag_beside (Or.inl hcan)]
    simp [Site.through]
  | true =>
    cases hindent : Site.indent? atLineStart literal with
    | none =>
      rw [Site.ofTag_beside (Or.inr (Or.inl hindent))]
      simp [Site.through]
    | some cut =>
      cases htrail : Site.trail? after with
      | none =>
        rw [Site.ofTag_beside (Or.inr (Or.inr htrail))]
        simp [Site.through]
      | some behind =>
        have hlength := congrArg Text.byteLength (Site.indent?_eq_some hindent)
        rw [Text.byteLength_append] at hlength
        simp [Site.ofTag, Site.through, hcan, hindent, htrail, hlength, Nat.add_assoc]

theorem textBetween?_eq (front t behind : Text) :
    textBetween? (front ++ t ++ behind) front.byteLength (front ++ t).byteLength = some t := by
  unfold textBetween?
  split
  next hempty =>
    rw [Text.byteLength_append] at hempty
    have ht : t.byteLength = 0 := by omega
    rw [Text.byteLength_eq_zero_iff.1 ht]
  next => exact Text.slice?_append front t behind

/-! ## Turns -/

/-- The cursor stands between two parts of the source, where the scanner can resume. -/
structure Stands (c : Cursor) (before rest : Text) (atLineStart : Bool) : Prop where
  position : c.position = before.byteLength
  counted : ∃ front : Text, front <+: before ∧ c.counted = front.byteLength ∧
    c.line = 1 + front.lineFeeds
  resumes : rest ≠ [] → Resumes before atLineStart

/-- The offsets at the site of a tag that stands behind a literal. -/
def offsetsAt (before literal written : Text) (site : Site) : TagOffsets where
  textEnd := (before ++ site.literal).byteLength
  start := (before ++ literal).byteLength
  tagEnd := (before ++ literal ++ written).byteLength
  resume := (before ++ site.through).byteLength

theorem stands_start (source : Text) : Stands start [] source true where
  position := rfl
  counted := ⟨[], List.prefix_rfl, rfl, rfl⟩
  resumes _ := .start

namespace Stands

theorem lineAt? (h : Stands c before rest atLineStart) (literal more : Text) :
    Cursor.lineAt? (before ++ literal ++ more) c (before ++ literal).byteLength =
      some (1 + (before ++ literal).lineFeeds) := by
  obtain ⟨front, ⟨passed, rfl⟩, hcounted, hline⟩ := h.counted
  rw [List.append_assoc front]
  exact lineAt?_eq hline hcounted (passed ++ literal) more

theorem turn?_of_notInfix (h : Stands c before rest atLineStart)
    (hrest : ¬ Braces.double.opening <:+: rest) :
    turn? (before ++ rest) c = some (.finished rest) := by
  have htext := textBetween?_eq before rest []
  rw [List.append_nil] at htext
  simp only [turn?, h.position, Text.slice?_end, offset?, Text.cut?_eq_none_iff.2 hrest, htext,
    Option.bind_eq_bind, Option.bind_some, Option.map_none, Option.pure_def]

theorem turn?_unclosed (h : Stands c before (literal ++ (braces.opening ++ body)) atLineStart)
    (hliteral : FoundBehind Braces.double.opening literal)
    (hbody : braces = .double → body.head? ≠ some '{') (hclosing : ¬ braces.closing <:+: body) :
    turn? (before ++ (literal ++ (braces.opening ++ body))) c =
      some (.refused (.unclosed braces) (1 + (before ++ literal).lineFeeds)) := by
  obtain ⟨inner, hcut, -⟩ := Braces.cut?_opening hliteral hbody
  have hline := h.lineAt? literal (braces.opening ++ body)
  have hread := readTag?_unclosed (before ++ literal) hbody hclosing
  rw [List.append_assoc before] at hline hread
  simp only [turn?, h.position, Text.slice?_end, offset?, hcut, ← Text.byteLength_append,
    hline, hread, Option.bind_eq_bind, Option.bind_some, Option.map_some, Option.pure_def]

/-- The turn of a tag whose braces are closed. -/
theorem turn?_enclosed
    (h : Stands c before (literal ++ (braces.wrap content ++ after)) atLineStart)
    (hliteral : FoundBehind Braces.double.opening literal) (hcontent : braces.Encloses content) :
    turn? (before ++ (literal ++ (braces.wrap content ++ after))) c = some
      (match Tag.ofBody braces content with
      | .error fault => .refused fault (1 + (before ++ literal).lineFeeds)
      | .ok tag =>
        let site := Site.ofTag atLineStart literal (braces.wrap content) tag after
        .passed (offsetsAt before literal (braces.wrap content) site) site.literal tag
          (1 + (before ++ literal).lineFeeds)) := by
  have hne : literal ++ (braces.wrap content ++ after) ≠ [] := by
    simp [Braces.wrap, braces.opening_ne_nil]
  obtain ⟨inner, hcut, -⟩ := Braces.cut?_opening hliteral (hcontent.head?_append after)
  have hline := h.lineAt? literal (braces.wrap content ++ after)
  have hread := readTag?_enclosed (before ++ literal) after hcontent
  have hwrap : braces.wrap content ++ after =
      braces.opening ++ (content ++ braces.closing ++ after) := by simp [Braces.wrap]
  rw [← hwrap] at hcut
  rw [List.append_assoc before] at hline hread
  simp only [turn?, h.position, Text.slice?_end, offset?, hcut, ← Text.byteLength_append,
    hline, hread, Option.bind_eq_bind, Option.bind_some, Option.map_some, Option.pure_def]
  cases hbody : Tag.ofBody braces content with
  | error fault => rfl
  | ok tag =>
    have haround := around?_eq (h.resumes hne) literal (braces.wrap content) tag after
    have hall := Site.through_append_rest atLineStart literal (braces.wrap content) tag after
    dsimp only at haround ⊢
    generalize Site.ofTag atLineStart literal (braces.wrap content) tag after = site at *
    have htext := textBetween?_eq before site.literal
      (site.indent ++ site.source ++ site.trail ++ site.rest)
    have hsource : before ++ site.literal ++ (site.indent ++ site.source ++ site.trail ++ site.rest)
        = before ++ (literal ++ (braces.wrap content ++ after)) := by
      rw [← List.append_assoc literal, ← hall, Site.through]
      simp only [List.append_assoc]
    rw [hsource] at htext
    simp only [List.append_assoc] at haround htext ⊢
    simp only [Except.map, haround, htext, Option.bind_some, offsetsAt, List.append_assoc]

/-- The offsets of a turn are in order, as each is the length of a part of the source that begins
with the one before. -/
theorem inBounds (h : Stands c before (literal ++ (braces.wrap content ++ after)) atLineStart)
    (tag : Tag) :
    InBounds (before ++ (literal ++ (braces.wrap content ++ after))) c
      (offsetsAt before literal (braces.wrap content)
        (Site.ofTag atLineStart literal (braces.wrap content) tag after)) := by
  obtain ⟨front, hfront, hcounted, -⟩ := h.counted
  have hall := Site.through_append_rest atLineStart literal (braces.wrap content) tag after
  have hthrough := Site.through_ofTag atLineStart literal (braces.wrap content) tag after
  have hkept := Site.literal_ofTag_prefix atLineStart literal (braces.wrap content) tag after
  generalize Site.ofTag atLineStart literal (braces.wrap content) tag after = site at *
  have hwritten : 0 < (braces.wrap content).byteLength := by
    rw [Nat.pos_iff_ne_zero, ne_eq, Text.byteLength_eq_zero_iff]
    simp [Braces.wrap, braces.opening_ne_nil]
  have hcount : front <+: before ++ literal := hfront.trans (List.prefix_append before literal)
  have htextEnd : before ++ site.literal <+: before ++ literal :=
    (List.prefix_append_right_inj before).2 hkept
  have htagEnd : before ++ literal ++ braces.wrap content <+: before ++ site.through := by
    rw [hthrough, ← List.append_assoc, ← List.append_assoc]
    exact List.prefix_append _ site.trail
  have hresume :
      before ++ site.through <+: before ++ (literal ++ (braces.wrap content ++ after)) := by
    rw [← List.append_assoc literal, ← hall, ← List.append_assoc]
    exact List.prefix_append _ site.rest
  have hstart : before ++ literal <+: before ++ (literal ++ (braces.wrap content ++ after)) :=
    (List.prefix_append _ _).trans (htagEnd.trans hresume)
  constructor
  case position_le =>
    rw [h.position]
    exact Text.byteLength_le_of_prefix (List.prefix_append before site.literal)
  case textEnd_le => exact Text.byteLength_le_of_prefix htextEnd
  case start_lt =>
    simp only [offsetsAt, Text.byteLength_append (before ++ literal)]
    omega
  case tagEnd_le => exact Text.byteLength_le_of_prefix htagEnd
  case resume_le => exact Text.byteLength_le_of_prefix hresume
  case counted_le =>
    rw [hcounted]
    exact Text.byteLength_le_of_prefix hcount
  case boundaries =>
    simp only [List.forall_mem_cons, List.not_mem_nil, false_implies, implies_true, and_true]
    exact ⟨⟨before, List.prefix_append _ _, h.position.symm⟩,
      ⟨front, hcount.trans hstart, hcounted.symm⟩, ⟨_, htextEnd.trans hstart, rfl⟩,
      ⟨_, hstart, rfl⟩, ⟨_, htagEnd.trans hresume, rfl⟩, ⟨_, hresume, rfl⟩⟩

end Stands

/-- Behind a tag the cursor stands where its site ends. -/
theorem stands_behind (before literal : Text) (braces : Braces) (content after : Text)
    (atLineStart : Bool) (tag : Tag) :
    let site := Site.ofTag atLineStart literal (braces.wrap content) tag after
    Stands (.behind (offsetsAt before literal (braces.wrap content) site)
      (1 + (before ++ literal).lineFeeds)) (before ++ site.through) site.rest site.alone where
  position := rfl
  counted := by
    refine ⟨before ++ literal, ?_, rfl, rfl⟩
    rw [Site.through_ofTag, List.append_assoc, ← List.append_assoc]
    exact List.prefix_append _ _
  resumes := Site.resumes_ofTag before atLineStart literal braces content tag after

theorem append_through_append_rest (before literal written : Text) (atLineStart : Bool) (tag : Tag)
    (after : Text) :
    let site := Site.ofTag atLineStart literal written tag after
    before ++ (literal ++ (written ++ after)) = before ++ site.through ++ site.rest := by
  intro site
  rw [List.append_assoc, Site.through_append_rest, List.append_assoc]

/-! ## Runs -/

/-- Wherever the cursor stands there is a next turn; if it passes a tag, the offsets are in bounds
and the cursor stands behind them. -/
theorem Stands.exists_turn (h : Stands c before rest atLineStart) :
    ∃ turn, turn? (before ++ rest) c = some turn ∧
      ∀ offsets literal tag line, turn = .passed offsets literal tag line →
        InBounds (before ++ rest) c offsets ∧
          ∃ before' rest' atLineStart', before ++ rest = before' ++ rest' ∧
            Stands (.behind offsets line) before' rest' atLineStart' := by
  induction rest using tag_induction with
  | plain rest hrest => exact ⟨_, h.turn?_of_notInfix hrest, nofun⟩
  | unclosed literal braces body hliteral hbody hclosing =>
    exact ⟨_, h.turn?_unclosed hliteral hbody hclosing, nofun⟩
  | enclosed literal braces content after hliteral hcontent _ =>
    refine ⟨_, h.turn?_enclosed hliteral hcontent, ?_⟩
    intro offsets kept tag line hturn
    cases hbody : Tag.ofBody braces content with
    | error fault =>
      rw [hbody] at hturn
      contradiction
    | ok found =>
      rw [hbody] at hturn
      cases hturn
      exact ⟨h.inBounds tag, _, _, _, append_through_append_rest before literal _ _ tag after,
        stands_behind before literal braces content after atLineStart tag⟩

theorem Reached.stands {source : Text} (h : Reached source c) :
    ∃ before rest atLineStart, source = before ++ rest ∧ Stands c before rest atLineStart := by
  induction h with
  | start => exact ⟨[], source, true, rfl, stands_start source⟩
  | @behind c offsets literal tag line _ hturn ih =>
    obtain ⟨before, rest, atLineStart, rfl, hstands⟩ := ih
    obtain ⟨turn, hfound, hpassed⟩ := hstands.exists_turn
    exact (hpassed offsets literal tag line (Option.some.inj (hfound.symm.trans hturn))).2

theorem nest_cons_congr {xs ys : List Token}
    (h : ∀ opened siblings, Parser.nest xs opened siblings = Parser.nest ys opened siblings)
    (token : Token) (opened : List OpenSection) (siblings : List Node) :
    Parser.nest (token :: xs) opened siblings = Parser.nest (token :: ys) opened siblings := by
  cases token with
  | text t => rw [Parser.nest, Parser.nest, h]
  | fault fault line => rw [Parser.nest, Parser.nest]
  | tag tag line =>
    cases tag with
    | closing name => cases opened <;> simp only [Parser.nest, h]
    | _ => rw [Parser.nest, Parser.nest, h]

/-- The scanner comes to an end, and the parser makes of what it reads on its way what it makes of
the tokens of the text. -/
theorem Stands.exists_scans (h : Stands c before rest atLineStart)
    (hline : line = 1 + before.lineFeeds) : ∃ tokens, Scans (before ++ rest) c tokens ∧
      ∀ opened siblings, Parser.nest tokens opened siblings =
        Parser.nest (Token.scan atLineStart line rest) opened siblings := by
  induction atLineStart, line, rest using Token.scan_induction generalizing before c with
  | plain atLineStart line rest hrest =>
    refine ⟨_, .finished (h.turn?_of_notInfix hrest), ?_⟩
    simp [Token.scan_of_notInfix hrest]
  | unclosed atLineStart line literal braces body hliteral hbody hclosing =>
    refine ⟨_, .refused (h.turn?_unclosed hliteral hbody hclosing), ?_⟩
    intro opened siblings
    rw [Token.scan_unclosed hliteral hbody hclosing, hline, Text.lineFeeds_append, Nat.add_assoc]
    rfl
  | refused atLineStart line literal braces content after fault hliteral hcontent hbody =>
    have hturn := h.turn?_enclosed hliteral hcontent
    rw [hbody] at hturn
    refine ⟨_, .refused hturn, ?_⟩
    intro opened siblings
    rw [Token.scan_refused hliteral hcontent hbody, hline, Text.lineFeeds_append, Nat.add_assoc]
    rfl
  | enclosed atLineStart line literal braces content after tag hliteral hcontent hbody ih =>
    have hturn := h.turn?_enclosed hliteral hcontent
    rw [hbody] at hturn
    have hline' : line + literal.lineFeeds = 1 + (before ++ literal).lineFeeds := by
      rw [hline, Text.lineFeeds_append, Nat.add_assoc]
    have hfeeds := Site.lineFeeds_through atLineStart literal (braces.wrap content) tag after
    have hbehind := stands_behind before literal braces content after atLineStart tag
    obtain ⟨tokens, hscans, hnest⟩ := ih hbehind (by rw [Text.lineFeeds_append]; omega)
    rw [← append_through_append_rest] at hscans
    refine ⟨_, .passed hturn hscans, ?_⟩
    rw [hline'] at hnest
    rw [Token.scan_enclosed hliteral hcontent hbody, hline']
    exact nest_cons_congr (nest_cons_congr hnest _) _

/-- The scanner comes to an end, and the parser makes the tree or the error of what it reads. In
each of its turns all that it cuts out of the source can be cut out; and where it passes a tag, the
offsets at the tag are in order, none of them lies within a character, and it goes on behind the
place where it stood. -/
theorem scanner_advances (source : Text) :
    (∃ tokens, Scans source start tokens ∧ Parser.nest tokens [] [] = parse source) ∧
      ∀ c, Reached source c → ∃ turn, turn? source c = some turn ∧
        ∀ offsets literal tag line, turn = .passed offsets literal tag line →
          InBounds source c offsets ∧ c.position < offsets.resume := by
  constructor
  · obtain ⟨tokens, hscans, hnest⟩ := (stands_start source).exists_scans rfl
    exact ⟨tokens, hscans, hnest [] []⟩
  · intro c hreached
    obtain ⟨before, rest, atLineStart, rfl, hstands⟩ := hreached.stands
    obtain ⟨turn, hturn, hpassed⟩ := hstands.exists_turn
    refine ⟨turn, hturn, fun offsets literal tag line hpass => ?_⟩
    have hbounds := (hpassed offsets literal tag line hpass).1
    have hfirst := hbounds.position_le.trans hbounds.textEnd_le
    have hlast := hbounds.start_lt.trans_le hbounds.tagEnd_le
    exact ⟨hbounds, hfirst.trans_lt hlast⟩

/-- A tag that is alone on the last line, behind characters of two and four bytes. -/
example : turn? "é😀\n \x7b\x7b! é \x7d\x7d ".toList start =
    some (.passed ⟨7, 8, 17, 18⟩ ['é', '😀', '\n'] .comment 2) := by rfl

end
end Cursor
end MustacheBuild
