import MustacheBuild.Proofs.Template.Occurrence

/-!
What a source says when each of its tags is taken with the lines that it is alone on: what the tags
say, and all the text that is left between them. Whether a tag is alone is said here of the source
as a whole, without regard to where the scanner stands; nothing else of the source is lost.
-/
namespace MustacheBuild

open Text (FoundBehind WholeLines)

/-! ## Text outside of ranges -/

namespace Text

/-- The characters of `t`, the first of which has the given position, that lie in no range. A range
is given by its first position and the one behind its last. -/
def outside (ranges : List (Nat × Nat)) (position : Nat) (t : Text) : Text :=
  ((t.zipIdx position).filter fun c =>
    ranges.all fun range => !(range.1 ≤ c.2 && c.2 < range.2)).map (·.1)

section
variable {ranges : List (Nat × Nat)} {range : Nat × Nat} {position : Nat} {t : Text}

theorem extract_append_drop {first last : Nat} (h : first ≤ last) :
    t.extract first last ++ t.drop last = t.drop first := by
  obtain ⟨n, rfl⟩ := Nat.exists_eq_add_of_le h
  rw [List.extract_eq_take_drop, Nat.add_sub_cancel_left, ← List.drop_drop, List.take_append_drop]

theorem length_extract {first last : Nat} (h : last ≤ t.length) :
    (t.extract first last).length = last - first := by
  rw [List.extract_eq_take_drop, List.length_take, List.length_drop]
  omega

theorem outside_append (ranges : List (Nat × Nat)) (position : Nat) (s t : Text) :
    outside ranges position (s ++ t) =
      outside ranges position s ++ outside ranges (position + s.length) t := by
  simp [outside, List.zipIdx_append]

theorem outside_eq_self
    (h : ∀ range ∈ ranges, range.2 ≤ position ∨ position + t.length ≤ range.1) :
    outside ranges position t = t := by
  unfold outside
  rw [List.filter_eq_self.2, List.zipIdx_map_fst]
  rintro ⟨c, i⟩ hc
  obtain ⟨hfirst, hlast, -⟩ := List.mem_zipIdx hc
  rw [List.all_eq_true]
  intro range hrange
  have := h range hrange
  simp only [Bool.not_eq_true', Bool.and_eq_false_iff, decide_eq_false_iff_not]
  omega

theorem outside_eq_nil (hmem : range ∈ ranges) (hfirst : range.1 ≤ position)
    (hlast : position + t.length ≤ range.2) : outside ranges position t = [] := by
  unfold outside
  rw [List.map_eq_nil_iff, List.filter_eq_nil_iff]
  rintro ⟨c, i⟩ hc hall
  obtain ⟨hposition, hlength, -⟩ := List.mem_zipIdx hc
  have := List.all_eq_true.1 hall range hmem
  simp only [Bool.not_eq_true', Bool.and_eq_false_iff, decide_eq_false_iff_not] at this
  omega

theorem outside_cons_of_le (h : range.2 ≤ position) (ranges : List (Nat × Nat)) (t : Text) :
    outside (range :: ranges) position t = outside ranges position t := by
  unfold outside
  congr 1
  apply List.filter_congr
  rintro ⟨c, i⟩ hc
  have hposition := (List.mem_zipIdx hc).1
  have hbehind : ¬ i < range.2 := by omega
  simp [hbehind]

/-- The first range goes, and what is in front of it stays. -/
theorem outside_cons_append (kept gone rest : Text)
    (h : ∀ range ∈ ranges, position + (kept ++ gone).length ≤ range.1) :
    outside ((position + kept.length, position + (kept ++ gone).length) :: ranges) position
        (kept ++ gone ++ rest) =
      kept ++ outside ranges (position + (kept ++ gone).length) rest := by
  have hlength : (kept ++ gone).length = kept.length + gone.length := List.length_append
  rw [outside_append, outside_append, outside_cons_of_le (Nat.le_refl _)]
  rw [outside_eq_self (t := kept), outside_eq_nil (t := gone) List.mem_cons_self (Nat.le_refl _),
    List.append_nil]
  · omega
  · intro range hrange
    rcases List.mem_cons.1 hrange with rfl | hmem
    · exact Or.inr (Nat.le_refl _)
    · have := h range hmem
      omega

end
end Text

/-! ## Tags alone on their lines -/

namespace Occurrence

/-- What stands in front of the tag on the line on which it begins. -/
def lead (o : Occurrence) : Text := o.before.rtakeWhile (· != '\n')

/-- What stands behind the tag on the line on which it ends. -/
def trail (o : Occurrence) : Text := o.after.takeWhile (· != '\n')

/-- The tag begins or ends a section or is a comment, in front of it are blanks only, and behind it
blanks and then carriage returns only. -/
def standsAlone (o : Occurrence) : Bool :=
  o.tag.sigil? ∈ [some '#', some '^', some '/', some '!'] && o.lead.all Text.isBlank &&
    (o.trail.dropWhile Text.isBlank).all (· == '\r')

/-- The line feed that ends this line, unless the source ends with it. -/
def feed (o : Occurrence) : Text := (o.after.drop o.trail.length).take 1

/-- The positions of the tag and of what goes with it, which is all else on its lines if it stands
alone: the first position, and the one behind the last. -/
def extent (o : Occurrence) : Nat × Nat :=
  if o.standsAlone then
    (o.before.length - o.lead.length,
      o.before.length + o.source.length + o.trail.length + o.feed.length)
  else (o.before.length, o.before.length + o.source.length)

theorem extent_fst_le (o : Occurrence) : o.extent.1 ≤ o.extent.2 := by
  unfold extent
  split <;> omega

/-- What goes with a tag is in front of it or behind it. -/
theorem extent_snd_le (o : Occurrence) :
    o.extent.2 ≤ (o.before ++ o.source ++ o.after).length := by
  have htrail : o.trail.length ≤ o.after.length := (List.takeWhile_prefix _).length_le
  have hfeed : o.feed.length ≤ o.after.length - o.trail.length := by
    rw [feed, List.length_take, List.length_drop]
    omega
  simp only [List.length_append]
  unfold extent
  split <;> omega

end Occurrence

variable {before literal content after t : Text} {braces : Braces} {tag : Tag} {atLineStart : Bool}

/-- A tag is read as one that can stand alone by the character that classifies it. -/
theorem Tag.canStandAlone_of_ofBody (h : ofBody braces content = .ok tag) :
    tag.canStandAlone = decide ((WrittenTag.closed braces content).sigil? ∈
      [some '#', some '^', some '/', some '!']) := by
  rw [WrittenTag.ofBody_eq] at h
  dsimp only at h
  split_ifs at h <;> cases h <;> simp_all [canStandAlone]

/-! ## The scanner's view -/

/-- Where the scanner can be when it looks for the next tag: at the beginning of a line or behind
the braces of a tag. -/
inductive Resumes : Text → Bool → Prop
  | lineStart {before : Text} : WholeLines before → Resumes before true
  | behindTag (before : Text) : Resumes (before ++ ['}']) false

theorem Resumes.start : Resumes [] true := .lineStart (by decide)

namespace Site

/-- What goes with a tag behind it is the whole end of its line, if blanks and then carriage
returns are all that is left of the line. -/
theorem trail?_eq (after : Text) :
    let line := after.takeWhile (· != '\n')
    trail? after =
      if (line.dropWhile Text.isBlank).all (· == '\r') then
        some (line ++ (after.drop line.length).take 1, (after.drop line.length).drop 1)
      else none := by
  intro line
  by_cases hfeed : '\n' ∈ after
  · obtain ⟨first, rest, rfl, hfirst⟩ := List.eq_append_cons_of_mem hfeed
    have hline : line = first := Text.takeWhile_lineFeed hfirst rest
    simp [trail?_lineFeed hfirst, hline]
  · have hline : line = after := Text.takeWhile_of_notMem hfeed
    simp [trail?_of_notMem hfeed, hline]

/-- What may go with a tag in front of it is the whole beginning of its line, wherever the scanner
comes from. -/
theorem indent?_of_resumes (h : Resumes before atLineStart) (literal : Text) :
    let lead := (before ++ literal).rtakeWhile (· != '\n')
    if lead.all Text.isBlank then
      ∃ kept, literal = kept ++ lead ∧ indent? atLineStart literal = some (kept, lead)
    else indent? atLineStart literal = none := by
  intro lead
  have hsplit := Text.splitLastLine_append literal
  have hkept := Text.wholeLines_splitLastLine literal
  have hline : '\n' ∉ (Text.splitLastLine literal).2 := by
    intro hmem
    simpa using List.mem_takeWhile_imp (List.mem_reverse.1 hmem)
  unfold indent?
  generalize Text.splitLastLine literal = cut at hsplit hkept hline
  obtain ⟨kept, line⟩ := cut
  dsimp only at hsplit hkept hline ⊢
  subst hsplit
  have hlead : lead = (before ++ kept).rtakeWhile (· != '\n') ++ line := by
    rw [← Text.rtakeWhile_append_of_notMem _ hline, List.append_assoc]
  by_cases hstart : (atLineStart || !kept.isEmpty) = true
  · have hwhole : WholeLines (before ++ kept) := by
      cases h with
      | lineStart hbefore => exact hbefore.append hkept
      | behindTag before => exact hkept.append_of_ne_nil (by simpa using hstart) _
    have hnone : (before ++ kept).rtakeWhile (· != '\n') = [] := by
      simpa using Text.rtakeWhile_of_wholeLines hwhole []
    rw [hnone, List.nil_append] at hlead
    rw [hlead, hstart, Bool.true_and]
    split
    next => exact ⟨kept, rfl, rfl⟩
    next => rfl
  · -- Nothing but the rest of the line stands behind the last tag, so the tag is in front on it.
    have hbrace : '}' ∈ lead := by
      cases h with
      | lineStart _ => simp at hstart
      | behindTag before =>
        obtain rfl : kept = [] := by simpa using hstart
        rw [hlead, List.append_nil, Text.rtakeWhile_append_of_notMem before (by decide)]
        simp
    have hblank : ¬ lead.all Text.isBlank = true := by
      intro hall
      exact absurd (List.all_eq_true.1 hall '}' hbrace) (by decide)
    rw [if_neg hblank, Bool.eq_false_iff.2 hstart, Bool.false_and]
    exact if_neg (by decide)

/-- What goes with a tag is the rest of its lines if it stands alone in the source, wherever the
scanner comes from. -/
theorem ofTag_of_resumes (h : Resumes before atLineStart)
    (hbody : Tag.ofBody braces content = .ok tag) (literal after : Text) :
    let o : Occurrence :=
      ⟨before ++ literal, braces.wrap content, .closed braces content, after⟩
    if o.standsAlone then
      ∃ kept rest, literal = kept ++ o.lead ∧
        ofTag atLineStart literal (braces.wrap content) tag after =
          ⟨kept, o.lead, braces.wrap content, .ok tag, o.trail ++ o.feed, rest, true⟩
    else ofTag atLineStart literal (braces.wrap content) tag after =
      ⟨literal, [], braces.wrap content, .ok tag, [], after, false⟩ := by
  intro o
  have hstands : o.standsAlone = (tag.canStandAlone && o.lead.all Text.isBlank &&
      (o.trail.dropWhile Text.isBlank).all (· == '\r')) := by
    rw [Tag.canStandAlone_of_ofBody hbody]
    rfl
  have hindent : if o.lead.all Text.isBlank then
      ∃ kept, literal = kept ++ o.lead ∧ indent? atLineStart literal = some (kept, o.lead)
    else indent? atLineStart literal = none := indent?_of_resumes h literal
  have htrail : trail? after = if (o.trail.dropWhile Text.isBlank).all (· == '\r') then
      some (o.trail ++ o.feed, (after.drop o.trail.length).drop 1) else none := trail?_eq after
  split
  next halone =>
    obtain ⟨⟨hsigil, hlead⟩, hend⟩ : (tag.canStandAlone = true ∧ o.lead.all Text.isBlank = true) ∧
        (o.trail.dropWhile Text.isBlank).all (· == '\r') = true := by
      simpa [hstands] using halone
    rw [if_pos hlead] at hindent
    rw [if_pos hend] at htrail
    obtain ⟨kept, hliteral, hindent⟩ := hindent
    refine ⟨kept, (after.drop o.trail.length).drop 1, hliteral, ?_⟩
    simp [ofTag, hsigil, hindent, htrail]
  next halone =>
    apply ofTag_beside
    cases hcan : tag.canStandAlone with
    | false => exact Or.inl rfl
    | true =>
      cases hlead : o.lead.all Text.isBlank with
      | false => exact Or.inr (Or.inl (by simpa [hlead] using hindent))
      | true =>
        have hend : (o.trail.dropWhile Text.isBlank).all (· == '\r') = false := by
          simpa only [hstands, hcan, hlead, Bool.true_and, Bool.not_eq_true] using halone
        exact Or.inr (Or.inr (by simpa [hend] using htrail))

/-- The scanner keeps what is in front of the extent of a tag, and goes on behind it. -/
theorem extent_eq_of_resumes (h : Resumes before atLineStart)
    (hbody : Tag.ofBody braces content = .ok tag) (literal after : Text) :
    let site := ofTag atLineStart literal (braces.wrap content) tag after
    (⟨before ++ literal, braces.wrap content, .closed braces content, after⟩ : Occurrence).extent =
      (before.length + site.literal.length, before.length + site.through.length) := by
  have hsite := ofTag_of_resumes h hbody literal after
  dsimp only at hsite ⊢
  generalize ofTag atLineStart literal (braces.wrap content) tag after = site at hsite
  generalize ho : Occurrence.mk (before ++ literal) (braces.wrap content)
    (.closed braces content) after = o at hsite ⊢
  have hbefore : o.before = before ++ literal := by rw [← ho]
  have hsource : o.source = braces.wrap content := by rw [← ho]
  unfold Occurrence.extent
  rw [hbefore, hsource]
  split at hsite
  next halone =>
    obtain ⟨kept, rest, hliteral, rfl⟩ := hsite
    have hlength : literal.length = kept.length + o.lead.length := by
      rw [← List.length_append, ← hliteral]
    simp only [through, List.length_append, hlength, if_pos halone, Prod.mk.injEq]
    omega
  next halone =>
    subst hsite
    simp [through, halone, Nat.add_assoc]

/-- A line that goes with a tag ends with a line feed unless it is the last. -/
theorem wholeLines_of_trail? {trail rest : Text} (h : trail? after = some (trail, rest))
    (hrest : rest ≠ []) : trail ≠ [] ∧ WholeLines trail := by
  by_cases hfeed : '\n' ∈ after
  · obtain ⟨line, behind, rfl, hline⟩ := List.eq_append_cons_of_mem hfeed
    rw [trail?_lineFeed hline] at h
    split at h
    next =>
      obtain ⟨rfl, -⟩ := Prod.mk.inj (Option.some.inj h)
      simp [WholeLines]
    next => contradiction
  · rw [trail?_of_notMem hfeed] at h
    split at h
    next =>
      obtain ⟨-, rfl⟩ := Prod.mk.inj (Option.some.inj h)
      contradiction
    next => contradiction

/-- Behind the site the scanner is at the beginning of a line or behind a tag again, unless it is at
the end. -/
theorem resumes_ofTag (before : Text) (atLineStart : Bool) (literal : Text) (braces : Braces)
    (content : Text) (tag : Tag) (after : Text)
    (hrest : (ofTag atLineStart literal (braces.wrap content) tag after).rest ≠ []) :
    Resumes (before ++ (ofTag atLineStart literal (braces.wrap content) tag after).through)
      (ofTag atLineStart literal (braces.wrap content) tag after).alone := by
  rcases ofTag_cases atLineStart literal (braces.wrap content) tag after with
    ⟨kept, indent, trail, rest, -, -, htrail, h⟩ | h
  · rw [h] at hrest ⊢
    obtain ⟨hne, hlines⟩ := wholeLines_of_trail? htrail hrest
    apply Resumes.lineStart
    rw [through, ← List.append_assoc]
    exact hlines.append_of_ne_nil hne _
  · rw [h]
    obtain ⟨front, hclosing⟩ : ∃ front, braces.closing = front ++ ['}'] := by
      cases braces with
      | double => exact ⟨['}'], rfl⟩
      | triple => exact ⟨['}', '}'], rfl⟩
    have hbehind := Resumes.behindTag (before ++ literal ++ braces.opening ++ content ++ front)
    simpa [through, Braces.wrap, hclosing] using hbehind

end Site

/-! ## What the source says -/

/-- The lines of a tag that stands alone end before those of the next begin. -/
theorem extents_apart (h : Token.Readable atLineStart t)
    (hresumes : t ≠ [] → Resumes before atLineStart) :
    (∀ o ∈ occurrences before t, before.length ≤ o.extent.1) ∧
      (occurrences before t).Pairwise fun o p => o.extent.2 ≤ p.extent.1 := by
  induction h generalizing before with
  | plain atLineStart t ht => simp [occurrences_of_notInfix ht]
  | enclosed atLineStart literal braces content after tag hliteral hcontent hbody _ ih =>
    have hne : literal ++ (braces.wrap content ++ after) ≠ [] := by
      simp [Braces.wrap, braces.opening_ne_nil]
    have hextent := Site.extent_eq_of_resumes (hresumes hne) hbody literal after
    have hrest := Site.occurrences_rest_ofTag atLineStart literal (braces.wrap content) tag after
      before
    have hbehind := Site.resumes_ofTag before atLineStart literal braces content tag after
    obtain ⟨hfirst, hapart⟩ := ih hbehind
    rw [occurrences_enclosed hliteral hcontent, ← hrest]
    generalize Site.ofTag atLineStart literal (braces.wrap content) tag after = site at *
    rw [List.length_append] at hfirst
    simp only [List.forall_mem_cons, List.pairwise_cons, hextent]
    refine ⟨⟨by omega, fun o ho => ?_⟩, fun o ho => hfirst o ho, hapart⟩
    have := hfirst o ho
    omega

/-- What a source says from a position on: the text between the extents of these tags, and in the
place of each extent what the tag says. -/
def writtenEvents (source : Text) (position : Nat) : List Occurrence → List Event
  | [] => [.text (source.drop position)]
  | o :: rest =>
    .text (source.extract position o.extent.1) ::
      (o.tag.event?.toList ++ writtenEvents source o.extent.2 rest)

/-- The tokens say what is written, where no tag is refused. -/
theorem events_scan (h : Token.Readable atLineStart t)
    (hresumes : t ≠ [] → Resumes before atLineStart) (line : Nat) :
    Token.events (Token.scan atLineStart line t) =
      writtenEvents (before ++ t) before.length (occurrences before t) := by
  induction h generalizing before line with
  | plain atLineStart t ht =>
    rw [Token.scan_of_notInfix ht, occurrences_of_notInfix ht, writtenEvents, List.drop_left]
    rfl
  | enclosed atLineStart literal braces content after tag hliteral hcontent hbody _ ih =>
    have hne : literal ++ (braces.wrap content ++ after) ≠ [] := by
      simp [Braces.wrap, braces.opening_ne_nil]
    have hextent := Site.extent_eq_of_resumes (hresumes hne) hbody literal after
    have hrest := Site.occurrences_rest_ofTag atLineStart literal (braces.wrap content) tag after
      before
    have hall := Site.through_append_rest atLineStart literal (braces.wrap content) tag after
    have hbehind := Site.resumes_ofTag before atLineStart literal braces content tag after
    have hevent := (WrittenTag.readAs_ofBody braces content).event tag hbody
    rw [Token.scan_enclosed hliteral hcontent hbody, occurrences_enclosed hliteral hcontent]
    generalize Site.ofTag atLineStart literal (braces.wrap content) tag after = site at *
    have hsource : before ++ (literal ++ (braces.wrap content ++ after)) =
        before ++ site.through ++ site.rest := by
      rw [List.append_assoc before, hall, List.append_assoc literal]
    have htext : (before ++ site.through ++ site.rest).extract before.length
        (before.length + site.literal.length) = site.literal := by
      simp [List.extract_eq_take_drop, Site.through, List.append_assoc]
    rw [Token.events_text_cons, Token.events_tag_cons, ih hbehind, writtenEvents, hextent, hevent,
      hrest, hsource, htext, List.length_append]

/-- The text in what is written is what lies in no extent. -/
theorem toText_writtenEvents {source : Text} {position : Nat} {tags : List Occurrence}
    (hfirst : ∀ o ∈ tags, position ≤ o.extent.1)
    (hapart : tags.Pairwise fun o p => o.extent.2 ≤ p.extent.1)
    (hlast : ∀ o ∈ tags, o.extent.2 ≤ source.length) :
    (writtenEvents source position tags).flatMap Event.toText =
      Text.outside (tags.map Occurrence.extent) position (source.drop position) := by
  induction tags generalizing position with
  | nil =>
    rw [writtenEvents, List.map_nil, Text.outside_eq_self (by simp)]
    simp [Event.toText]
  | cons o rest ih =>
    have hposition := (List.forall_mem_cons.1 hfirst).1
    obtain ⟨hbehind, hapart⟩ := List.pairwise_cons.1 hapart
    obtain ⟨hend, hlast⟩ := List.forall_mem_cons.1 hlast
    have hle := o.extent_fst_le
    have hkept : position + (source.extract position o.extent.1).length = o.extent.1 := by
      rw [Text.length_extract (by omega)]
      omega
    have hgone : position + (source.extract position o.extent.1 ++
        source.extract o.extent.1 o.extent.2).length = o.extent.2 := by
      rw [List.length_append, Text.length_extract (by omega), Text.length_extract hend]
      omega
    have hranges : ∀ range ∈ rest.map Occurrence.extent, position +
        (source.extract position o.extent.1 ++ source.extract o.extent.1 o.extent.2).length ≤
          range.1 := by
      rw [hgone]
      exact List.forall_mem_map.2 hbehind
    have houtside := Text.outside_cons_append (source.extract position o.extent.1)
      (source.extract o.extent.1 o.extent.2) (source.drop o.extent.2) hranges
    rw [hkept, hgone, List.append_assoc, Text.extract_append_drop hle,
      Text.extract_append_drop hposition] at houtside
    rw [List.map_cons, houtside, ← ih hbehind hapart hlast, writtenEvents, List.flatMap_cons,
      List.flatMap_append, WrittenTag.flatMap_toText_event?, List.nil_append]
    rfl

/-- The tree of a source says what is written in it. -/
theorem flattenNodes_of_parse {source : Text} {nodes : List Node} (h : parse source = .ok nodes) :
    flattenNodes nodes = Event.merge (writtenEvents source 0 (occurrences [] source)) := by
  obtain ⟨hfault, hflatten⟩ := Parser.nest_eq_ok_iff.1 h
  rw [hflatten, events_scan (Token.readable_of_scan hfault) fun _ => .start]
  rfl

/-- The text of a tree is all of its source that lies in no extent of a tag: all but the tags and
the lines of those that stand alone. No tag has anything in the extent of another. -/
theorem allText_eq_outside_extents {source : Text} {nodes : List Node}
    (h : parse source = .ok nodes) :
    allText nodes = Text.outside ((occurrences [] source).map Occurrence.extent) 0 source ∧
      (occurrences [] source).Pairwise fun o p => o.extent.2 ≤ p.extent.1 := by
  have hreadable := Token.readable_of_scan (Parser.nest_eq_ok_iff.1 h).1
  obtain ⟨hfirst, hapart⟩ := extents_apart hreadable fun _ => .start
  have hlast : ∀ o ∈ occurrences [] source, o.extent.2 ≤ source.length := by
    intro o ho
    have hend := o.extent_snd_le
    rwa [append_of_mem_occurrences ho] at hend
  refine ⟨?_, hapart⟩
  unfold allText
  rw [flattenNodes_of_parse h, Event.flatMap_toText_merge]
  exact toText_writtenEvents hfirst hapart hlast

theorem allText_eq_outside_extents_section :
    let source := "a\n\t{{#x}} \r\nb{{! c }} {{y}}\n \x7b\x7b! d\n\x7d\x7d\n{{/x}} ".toList
    let nodes := [.text ['a', '\n'], .block (Name.ofText ['x']) false
      [.text ['b', ' '], .interpolation (Name.ofText ['y']), .text ['\n']]]
    parse source = .ok nodes ∧
      allText nodes = Text.outside ((occurrences [] source).map Occurrence.extent) 0 source ∧
      (occurrences [] source).map Occurrence.extent =
        [(2, 12), (13, 21), (22, 27), (28, 38), (38, 45)] := by
  have hparse : parse "a\n\t{{#x}} \r\nb{{! c }} {{y}}\n \x7b\x7b! d\n\x7d\x7d\n{{/x}} ".toList =
      .ok [.text ['a', '\n'], .block (Name.ofText ['x']) false
        [.text ['b', ' '], .interpolation (Name.ofText ['y']), .text ['\n']]] := by cbv
  exact ⟨hparse, (allText_eq_outside_extents hparse).1, by cbv⟩

end MustacheBuild
