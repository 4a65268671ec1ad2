import MustacheBuild.Proofs.Text.Basic
import MustacheBuild.Template.Token

/-!
Where tags are found. A source holds no tag, or it is a literal with a tag behind it that is never
closed, or a literal, a tag between its braces and what follows; and it is scanned accordingly.
-/
namespace MustacheBuild

open Text (FoundBehind)

variable {literal content body after t : Text} {braces : Braces} {tag : Tag}
  {atLineStart : Bool} {line : Nat}

namespace Braces

/-- A tag as it is written. -/
def wrap (braces : Braces) (content : Text) : Text := braces.opening ++ content ++ braces.closing

theorem opening_ne_nil (braces : Braces) : braces.opening ≠ [] := by cases braces <;> simp [opening]

theorem notMem_opening_of_notMem {w : Text} (hw : '{' ∉ w) : ∀ c ∈ w, c ∉ double.opening := by
  intro c hc hmem
  obtain rfl : c = '{' := by simpa [opening] using hmem
  exact hw hc

theorem closing_ne_nil (braces : Braces) : braces.closing ≠ [] := by cases braces <;> simp [closing]

/-- What stands between the braces of a tag: nothing that closes it earlier, and nothing that would
make triple braces of the opening ones. -/
structure Encloses (braces : Braces) (content : Text) : Prop where
  found : FoundBehind braces.closing content
  opened : braces = .double → content.head? ≠ some '{'

theorem split_of_head? (h : t.head? ≠ some '{') : split t = (double, t) := by
  unfold split
  split
  · simp at h
  · rfl

theorem head?_of_split (h : (split t).1 = double) : (split t).2.head? ≠ some '{' := by
  unfold split at h ⊢
  split at h
  next => contradiction
  next hne =>
    intro hhead
    obtain ⟨rest, rfl⟩ := List.head?_eq_some_iff.1 hhead
    exact hne rest rfl

/-- Behind the first two braces of a tag stand the other brace of a triple one, and its content. -/
theorem cut?_opening (hliteral : FoundBehind double.opening literal)
    (hbody : braces = .double → body.head? ≠ some '{') :
    ∃ inner,
      Text.cut? double.opening (literal ++ (braces.opening ++ body)) = some (literal, inner) ∧
      split inner = (braces, body) := by
  cases braces with
  | double =>
    refine ⟨body, ?_, split_of_head? (hbody rfl)⟩
    rw [← List.append_assoc]
    exact Text.cut?_append (opening_ne_nil double) hliteral body
  | triple =>
    refine ⟨'{' :: body, ?_, rfl⟩
    have hcut := Text.cut?_append (opening_ne_nil double) hliteral ('{' :: body)
    rwa [List.append_assoc] at hcut

theorem Encloses.head?_append (h : braces.Encloses content) (after : Text) :
    braces = .double → (content ++ braces.closing ++ after).head? ≠ some '{' := by
  rintro rfl
  cases content with
  | nil => simp [closing]
  | cons c content => simpa using h.opened rfl

end Braces

/-- Every source is of one of three shapes, and what is found in it is found from the left. In the
last shape the end of the source may be scanned from any place on. -/
@[elab_as_elim]
theorem tag_induction {motive : Text → Prop}
    (plain : ∀ t, ¬ Braces.double.opening <:+: t → motive t)
    (unclosed : ∀ literal (braces : Braces) body, FoundBehind Braces.double.opening literal →
      (braces = .double → body.head? ≠ some '{') → ¬ braces.closing <:+: body →
      motive (literal ++ (braces.opening ++ body)))
    (enclosed : ∀ literal (braces : Braces) content after,
      FoundBehind Braces.double.opening literal → braces.Encloses content →
      (∀ rest, rest <:+ after → motive rest) →
      motive (literal ++ (braces.wrap content ++ after)))
    (t : Text) : motive t := by
  induction hlength : t.length using Nat.strong_induction_on generalizing t with
  | _ n ih =>
    cases hcut : Text.cut? Braces.double.opening t with
    | none => exact plain t (Text.cut?_eq_none_iff.1 hcut)
    | some found =>
      obtain ⟨literal, inner⟩ := found
      obtain ⟨ht, hliteral⟩ := (Text.cut?_eq_some_iff (Braces.opening_ne_nil _)).1 hcut
      rw [List.append_assoc, ← Braces.opening_split] at ht
      have hhead : (Braces.split inner).1 = .double → (Braces.split inner).2.head? ≠ some '{' :=
        Braces.head?_of_split
      generalize (Braces.split inner).1 = braces at ht hhead
      generalize (Braces.split inner).2 = body at ht hhead
      cases hclose : Text.cut? braces.closing body with
      | none =>
        rw [ht]
        exact unclosed literal braces body hliteral hhead (Text.cut?_eq_none_iff.1 hclose)
      | some found =>
        obtain ⟨content, after⟩ := found
        obtain ⟨rfl, hfound⟩ := (Text.cut?_eq_some_iff (Braces.closing_ne_nil _)).1 hclose
        have hwrap : t = literal ++ (braces.wrap content ++ after) := by
          rw [ht, Braces.wrap]
          simp
        rw [hwrap]
        refine enclosed literal braces content after hliteral ⟨hfound, ?_⟩ fun rest hrest => ?_
        · rintro rfl
          cases content with
          | nil => simp
          | cons c content => simpa using hhead rfl
        · refine ih rest.length ?_ rest rfl
          have hle := hrest.length_le
          have hpos := List.length_pos_iff.2 (Braces.opening_ne_nil braces)
          rw [← hlength, ht]
          simp only [List.length_append]
          omega

namespace Site

theorem find?_of_notInfix (h : ¬ Braces.double.opening <:+: t) : find? atLineStart t = none := by
  rw [find?, Text.cut?_eq_none_iff.2 h]

theorem find?_unclosed (hliteral : FoundBehind Braces.double.opening literal)
    (hbody : braces = .double → body.head? ≠ some '{') (hclosing : ¬ braces.closing <:+: body) :
    find? atLineStart (literal ++ (braces.opening ++ body)) =
      some (refused literal (braces.opening ++ body) (.unclosed braces) []) := by
  obtain ⟨inner, hcut, hsplit⟩ := Braces.cut?_opening hliteral hbody
  simp only [find?, hcut, hsplit, Text.cut?_eq_none_iff.2 hclosing]

/-- The site of a tag whose braces are closed. -/
def enclosed (atLineStart : Bool) (literal : Text) (braces : Braces) (content after : Text) :
    Site :=
  match Tag.ofBody braces content with
  | .error fault => refused literal (braces.wrap content) fault after
  | .ok tag => ofTag atLineStart literal (braces.wrap content) tag after

theorem find?_enclosed (atLineStart : Bool) (after : Text)
    (hliteral : FoundBehind Braces.double.opening literal) (hcontent : braces.Encloses content) :
    find? atLineStart (literal ++ (braces.wrap content ++ after)) =
      some (enclosed atLineStart literal braces content after) := by
  obtain ⟨inner, hcut, hsplit⟩ := Braces.cut?_opening hliteral (hcontent.head?_append after)
  have hclose := Text.cut?_append braces.closing_ne_nil hcontent.found after
  have hwrap : braces.wrap content ++ after =
      braces.opening ++ (content ++ braces.closing ++ after) := by simp [Braces.wrap]
  rw [hwrap, find?, hcut]
  simp only [hsplit, hclose, enclosed, Braces.wrap]
  cases Tag.ofBody braces content <;> rfl

/-! ## What goes with a tag -/

theorem wholeLines_of_indent? {kept indent : Text}
    (h : indent? atLineStart literal = some (kept, indent)) : Text.WholeLines kept := by
  simp only [indent?] at h
  split at h
  next =>
    obtain ⟨rfl, -⟩ := Prod.mk.inj (Option.some.inj h)
    exact Text.wholeLines_splitLastLine literal
  next => contradiction

/-- Where a tag could be found behind a literal, one can be found where its line begins. -/
theorem foundBehind_of_indent? {kept indent : Text}
    (h : indent? atLineStart literal = some (kept, indent))
    (hliteral : FoundBehind Braces.double.opening literal) :
    FoundBehind Braces.double.opening kept := by
  have hlines := wholeLines_of_indent? h
  rw [FoundBehind, hlines.infix_append_iff (Braces.opening_ne_nil _) (by decide)]
  rintro (hkept | hbrace)
  · refine hliteral (hkept.trans ?_)
    rw [indent?_eq_some h, List.append_assoc]
    exact (List.prefix_append kept _).isInfix
  · exact absurd hbrace (by decide)

/-- The end of the line of a tag that goes with it is blank but for the line break. -/
theorem trail?_isBlank {trail rest : Text} (h : trail? after = some (trail, rest)) :
    ∀ c ∈ trail, c = '\n' ∨ c = '\r' ∨ Text.isBlank c = true := by
  simp only [trail?] at h
  split at h
  next hblank =>
    obtain ⟨rfl, -⟩ := Prod.mk.inj (Option.some.inj h)
    intro c hc
    rw [← List.mem_reverse,
      ← List.takeWhile_append_dropWhile (p := (· == '\n')) (l := List.reverse _),
      List.mem_append] at hc
    rcases hc with hfeed | hc
    · exact Or.inl (by simpa using List.mem_takeWhile_imp hfeed)
    · rw [← List.takeWhile_append_dropWhile (p := (· == '\r')) (l := List.dropWhile _ _),
        List.mem_append] at hc
      rcases hc with hreturn | hc
      · exact Or.inr (Or.inl (by simpa using List.mem_takeWhile_imp hreturn))
      · exact Or.inr (Or.inr (List.all_eq_true.1 hblank c hc))
  next => contradiction

theorem notMem_trail? {trail rest : Text} (h : trail? after = some (trail, rest)) :
    '{' ∉ trail := by
  intro hmem
  rcases trail?_isBlank h '{' hmem with hbrace | hbrace | hbrace <;>
    exact absurd hbrace (by decide)

section
variable {line : Text}

/-- What is left of the last line goes with a tag if it is blanks and then carriage returns. -/
theorem trail?_of_notMem (h : '\n' ∉ line) :
    trail? line =
      if (line.dropWhile Text.isBlank).all (· == '\r') then some (line, []) else none := by
  simp only [trail?, Text.splitFirstLine_of_notMem h, Text.dropWhile_reverse_of_notMem h,
    Text.all_dropWhile_reverse]

theorem trail?_lineFeed (h : '\n' ∉ line) (rest : Text) :
    trail? (line ++ '\n' :: rest) =
      if (line.dropWhile Text.isBlank).all (· == '\r') then some (line ++ ['\n'], rest)
      else none := by
  simp [trail?, Text.splitFirstLine_lineFeed h, Text.dropWhile_reverse_of_notMem h,
    Text.all_dropWhile_reverse]

end

/-- A tag goes with its line, or alone. -/
theorem ofTag_cases (atLineStart : Bool) (literal source : Text) (tag : Tag) (after : Text) :
    (∃ kept indent trail rest, tag.canStandAlone = true ∧
      indent? atLineStart literal = some (kept, indent) ∧ trail? after = some (trail, rest) ∧
      ofTag atLineStart literal source tag after =
        ⟨kept, indent, source, .ok tag, trail, rest, true⟩) ∨
    ofTag atLineStart literal source tag after =
      ⟨literal, [], source, .ok tag, [], after, false⟩ := by
  unfold ofTag
  split
  next kept indent trail rest hindent htrail =>
    split at hindent
    next halone => exact Or.inl ⟨kept, indent, trail, rest, halone, hindent, htrail, rfl⟩
    next => contradiction
  next => exact Or.inr rfl

theorem ofTag_beside {source : Text}
    (h : tag.canStandAlone = false ∨ indent? atLineStart literal = none ∨ trail? after = none) :
    ofTag atLineStart literal source tag after =
      ⟨literal, [], source, .ok tag, [], after, false⟩ := by
  rcases ofTag_cases atLineStart literal source tag after with
    ⟨_, _, _, _, halone, hindent, htrail, -⟩ | hbeside
  · simp [halone, hindent, htrail] at h
  · exact hbeside

theorem ofTag_tag (atLineStart : Bool) (literal source : Text) (tag : Tag) (after : Text) :
    (ofTag atLineStart literal source tag after).tag = .ok tag := by
  rcases ofTag_cases atLineStart literal source tag after with ⟨_, _, _, _, -, -, -, h⟩ | h <;>
    rw [h]

theorem rest_ofTag_suffix (atLineStart : Bool) (literal source : Text) (tag : Tag)
    (after : Text) : (ofTag atLineStart literal source tag after).rest <:+ after := by
  rcases ofTag_cases atLineStart literal source tag after with
    ⟨_, _, trail, rest, -, -, htrail, h⟩ | h
  · rw [h, trail?_eq_some htrail]
    exact List.suffix_append trail rest
  · exact ⟨[], congrArg rest h⟩

theorem linesBefore_ofTag (atLineStart : Bool) (literal source : Text) (tag : Tag) (after : Text) :
    (ofTag atLineStart literal source tag after).linesBefore = literal.lineFeeds := by
  rcases ofTag_cases atLineStart literal source tag after with
    ⟨kept, indent, _, _, -, hindent, -, h⟩ | h
  · rw [h, linesBefore, indent?_eq_some hindent, Text.lineFeeds_append]
  · rw [h]
    rfl

end Site

/-! ## Scanning -/

namespace Token

variable {site : Site} {fault : TagFault}

theorem scan_of_notInfix (h : ¬ Braces.double.opening <:+: t) (atLineStart : Bool)
    (line : Nat) : scan atLineStart line t = [.text t] := by
  rw [scan]
  split
  next => rfl
  next s hs => rw [Site.find?_of_notInfix h] at hs; contradiction

theorem scan_of_error (hsite : Site.find? atLineStart t = some site)
    (htag : site.tag = .error fault) :
    scan atLineStart line t = [.text site.literal, .fault fault (line + site.linesBefore)] := by
  rw [scan]
  split
  next hnone => rw [hsite] at hnone; contradiction
  next s hs =>
    obtain rfl : site = s := Option.some.inj (hsite.symm.trans hs)
    simp only [htag]

theorem scan_of_ok (hsite : Site.find? atLineStart t = some site) (htag : site.tag = .ok tag) :
    scan atLineStart line t = .text site.literal :: .tag tag (line + site.linesBefore) ::
      scan site.alone (line + site.linesBefore + site.linesWithin) site.rest := by
  rw [scan]
  split
  next hnone => rw [hsite] at hnone; contradiction
  next s hs =>
    obtain rfl : site = s := Option.some.inj (hsite.symm.trans hs)
    simp only [htag]

theorem scan_unclosed (hliteral : FoundBehind Braces.double.opening literal)
    (hbody : braces = .double → body.head? ≠ some '{') (hclosing : ¬ braces.closing <:+: body) :
    scan atLineStart line (literal ++ (braces.opening ++ body)) =
      [.text literal, .fault (.unclosed braces) (line + literal.lineFeeds)] :=
  scan_of_error (Site.find?_unclosed hliteral hbody hclosing) rfl

theorem scan_refused (hliteral : FoundBehind Braces.double.opening literal)
    (hcontent : braces.Encloses content) (hbody : Tag.ofBody braces content = .error fault) :
    scan atLineStart line (literal ++ (braces.wrap content ++ after)) =
      [.text literal, .fault fault (line + literal.lineFeeds)] := by
  have hsite := Site.find?_enclosed atLineStart after hliteral hcontent
  rw [Site.enclosed, hbody] at hsite
  exact scan_of_error hsite rfl

theorem scan_enclosed (hliteral : FoundBehind Braces.double.opening literal)
    (hcontent : braces.Encloses content) (hbody : Tag.ofBody braces content = .ok tag) :
    let site := Site.ofTag atLineStart literal (braces.wrap content) tag after
    scan atLineStart line (literal ++ (braces.wrap content ++ after)) =
      .text site.literal :: .tag tag (line + literal.lineFeeds) ::
        scan site.alone (line + literal.lineFeeds + site.linesWithin) site.rest := by
  have hsite := Site.find?_enclosed atLineStart after hliteral hcontent
  rw [Site.enclosed, hbody] at hsite
  rw [scan_of_ok hsite (Site.ofTag_tag ..), Site.linesBefore_ofTag]

/-- What holds of a text and of the place where it is scanned follows from the three shapes of a
text, and from what holds of the rest that is scanned behind a tag. -/
@[elab_as_elim]
theorem scan_induction {motive : Bool → Nat → Text → Prop}
    (plain : ∀ atLineStart line t, ¬ Braces.double.opening <:+: t → motive atLineStart line t)
    (unclosed : ∀ atLineStart line literal (braces : Braces) body,
      FoundBehind Braces.double.opening literal → (braces = .double → body.head? ≠ some '{') →
      ¬ braces.closing <:+: body → motive atLineStart line (literal ++ (braces.opening ++ body)))
    (refused : ∀ atLineStart line literal (braces : Braces) content after fault,
      FoundBehind Braces.double.opening literal → braces.Encloses content →
      Tag.ofBody braces content = .error fault →
      motive atLineStart line (literal ++ (braces.wrap content ++ after)))
    (enclosed : ∀ atLineStart line literal (braces : Braces) content after tag,
      FoundBehind Braces.double.opening literal → braces.Encloses content →
      Tag.ofBody braces content = .ok tag →
      motive (Site.ofTag atLineStart literal (braces.wrap content) tag after).alone
        (line + literal.lineFeeds +
          (Site.ofTag atLineStart literal (braces.wrap content) tag after).linesWithin)
        (Site.ofTag atLineStart literal (braces.wrap content) tag after).rest →
      motive atLineStart line (literal ++ (braces.wrap content ++ after)))
    (atLineStart : Bool) (line : Nat) (t : Text) : motive atLineStart line t := by
  induction t using tag_induction generalizing atLineStart line with
  | plain t ht => exact plain atLineStart line t ht
  | unclosed literal braces body hliteral hbody hclosing =>
    exact unclosed atLineStart line literal braces body hliteral hbody hclosing
  | enclosed literal braces content after hliteral hcontent ih =>
    cases hbody : Tag.ofBody braces content with
    | error fault =>
      exact refused atLineStart line literal braces content after fault hliteral hcontent hbody
    | ok tag =>
      exact enclosed atLineStart line literal braces content after tag hliteral hcontent hbody
        (ih _ (Site.rest_ofTag_suffix ..) _ _)

def isFault : Token → Bool
  | .fault .. => true
  | _ => false

@[simp] theorem isFault_text (t : Text) : (text t).isFault = false := rfl

@[simp] theorem isFault_tag (tag : Tag) (line : Nat) : (Token.tag tag line).isFault = false := rfl

@[simp] theorem isFault_fault (fault : TagFault) (line : Nat) :
    (Token.fault fault line).isFault = true := rfl

/-- No tag of the text is refused, where the text is scanned from the beginning of a line or not. -/
inductive Readable : Bool → Text → Prop
  | plain (atLineStart : Bool) (t : Text) : ¬ Braces.double.opening <:+: t → Readable atLineStart t
  | enclosed (atLineStart : Bool) (literal : Text) (braces : Braces) (content after : Text)
    (tag : Tag) : FoundBehind Braces.double.opening literal → braces.Encloses content →
    Tag.ofBody braces content = .ok tag →
    Readable (Site.ofTag atLineStart literal (braces.wrap content) tag after).alone
      (Site.ofTag atLineStart literal (braces.wrap content) tag after).rest →
    Readable atLineStart (literal ++ (braces.wrap content ++ after))

theorem readable_of_scan (h : ∀ token ∈ scan atLineStart line t, token.isFault = false) :
    Readable atLineStart t := by
  induction atLineStart, line, t using scan_induction with
  | plain atLineStart line t ht => exact .plain atLineStart t ht
  | unclosed atLineStart line literal braces body hliteral hbody hclosing =>
    rw [scan_unclosed hliteral hbody hclosing] at h
    simp at h
  | refused atLineStart line literal braces content after fault hliteral hcontent hbody =>
    rw [scan_refused hliteral hcontent hbody] at h
    simp at h
  | enclosed atLineStart line literal braces content after tag hliteral hcontent hbody ih =>
    rw [scan_enclosed hliteral hcontent hbody] at h
    refine .enclosed atLineStart literal braces content after tag hliteral hcontent hbody ?_
    exact ih fun token hmem => h token (List.mem_cons_of_mem _ (List.mem_cons_of_mem _ hmem))

end Token
end MustacheBuild
