import MustacheBuild.Proofs.Template.Written

/-!
What a tree can say that was parsed: its names can be written between braces, and its texts can be
written before tags without making a tag themselves.
-/
namespace MustacheBuild

open Event (merge)
open Text (FoundBehind)

/-- The name can be written between the braces with white space around it. -/
structure Name.Fits (name : Name) (braces : Braces) : Prop where
  written : Name.ofText name.toText = name
  notEmpty : name.toText ≠ []
  trimmed : Text.IsTrimmed name.toText
  unbroken : ¬ braces.closing <:+: name.toText

/-- The name can be written between triple braces in an interpolation, else between double ones. -/
def Event.Fits : Event → Prop
  | .text _ => True
  | .interpolation name => name.Fits .triple
  | .opening name _ | .closing name => name.Fits .double

/-- The events can be written one behind the other: no text holds the beginning of a tag, or makes
one with what follows. -/
inductive Printable : List Event → Prop
  | nil : Printable []
  | last {t : Text} : ¬ Braces.double.opening <:+: t → Printable [.text t]
  | text {t : Text} {es : List Event} : FoundBehind Braces.double.opening t → Printable es →
    Printable (.text t :: es)
  | tag {e : Event} {es : List Event} : e.isText = false → e.Fits → Printable es →
    Printable (e :: es)

section
variable {t content : Text} {braces : Braces} {es : List Event} {e : Event} {source : Text}
  {nodes : List Node}

theorem Name.fits_ofText (ht : t ≠ []) (htrim : Text.IsTrimmed t)
    (hclosing : ¬ braces.closing <:+: t) : (Name.ofText t).Fits braces := by
  constructor <;> simp only [Name.toText_ofText] <;> assumption

theorem Name.Fits.triple {name : Name} (h : name.Fits braces) : name.Fits .triple := by
  refine ⟨h.written, h.notEmpty, h.trimmed, fun hclosing => h.unbroken ?_⟩
  cases braces with
  | double =>
    have htwo : Braces.double.closing <:+: Braces.triple.closing := ⟨[], ['}'], rfl⟩
    exact htwo.trans hclosing
  | triple => exact hclosing

/-! ## Tags -/

namespace WrittenTag

theorem name_isInfix (braces : Braces) (content : Text) :
    (closed braces content).name <:+: content :=
  (Text.trim_infix _).trans ((List.drop_suffix _ _).isInfix.trans (Text.trim_infix content))

theorem eq_double_of_sigil? {c : Char} (h : (closed braces content).sigil? = some c) :
    braces = .double := by
  cases braces with
  | double => rfl
  | triple => contradiction

/-- What a proper tag says can be written in a tag. -/
theorem fits_event? (h : (closed braces content).Proper)
    (hcontent : ¬ braces.closing <:+: content) :
    ∀ e ∈ (closed braces content).event?, e.isText = false ∧ e.Fits := by
  intro e he
  have hname (hcomment : (closed braces content).sigil? ≠ some '!') :
      (Name.ofText (closed braces content).name).Fits braces :=
    Name.fits_ofText (h.named.resolve_left hcomment) (Text.isTrimmed_trim _)
      fun hclosing => hcontent (hclosing.trans (name_isInfix braces content))
  rw [event?] at he
  split_ifs at he with hcomment hopening hinverted hclosing
  · contradiction
  · obtain rfl := eq_double_of_sigil? hopening
    cases he
    exact ⟨rfl, hname hcomment⟩
  · obtain rfl := eq_double_of_sigil? hinverted
    cases he
    exact ⟨rfl, hname hcomment⟩
  · obtain rfl := eq_double_of_sigil? hclosing
    cases he
    exact ⟨rfl, hname hcomment⟩
  · cases he
    exact ⟨rfl, (hname hcomment).triple⟩

end WrittenTag

/-! ## Texts -/

theorem Printable.of_tag (h : Printable (e :: es)) (he : e.isText = false) :
    e.Fits ∧ Printable es := by
  cases h with
  | last _ => contradiction
  | text _ _ => contradiction
  | tag _ hfits hes => exact ⟨hfits, hes⟩

theorem Printable.of_cons_text (h : Printable (Event.cons (.text t) (e :: es)))
    (he : e.isText = false) : FoundBehind Braces.double.opening t ∧ Printable (e :: es) := by
  by_cases hempty : t = []
  · rw [hempty, Event.cons_empty] at h
    rw [hempty]
    exact ⟨by decide, h⟩
  · rw [Event.cons_text hempty (by simpa using he)] at h
    cases h with
    | text ht hes => exact ⟨ht, hes⟩
    | tag _ _ _ => contradiction

theorem Printable.of_cons_text_nil (h : Printable (Event.cons (.text t) [])) :
    ¬ Braces.double.opening <:+: t := by
  by_cases hempty : t = []
  · rw [hempty]
    decide
  · rw [Event.cons_text hempty (by simp)] at h
    cases h with
    | last ht => exact ht
    | text ht _ => exact ht.not_infix
    | tag _ _ _ => contradiction

theorem Printable.cons_text (ht : FoundBehind Braces.double.opening t) (h : Printable es) :
    Printable (Event.cons (.text t) es) := by
  by_cases hempty : t = []
  · rw [hempty, Event.cons_empty]
    exact h
  rcases Event.head_cases es with htag | ⟨u, es, rfl⟩
  · rw [Event.cons_text hempty htag]
    exact .text ht h
  · cases h with
    | last hu => exact .last (ht.not_infix_append hu)
    | text hu hes => exact .text (ht.append hu) hes
    | tag he _ _ => contradiction

theorem Printable.merge (h : Printable es) : Printable (merge es) := by
  induction h with
  | nil => exact .nil
  | @last t ht =>
    by_cases hempty : t = []
    · rw [hempty]
      exact .nil
    · rw [Event.merge_cons, Event.cons_text hempty (by simp)]
      exact .last ht
  | text ht _ ih => exact ih.cons_text ht
  | tag he hfits _ ih =>
    rw [Event.merge_cons, Event.cons_of_not_isText he]
    exact .tag he hfits ih

/-- A literal that stays before a tag can be written before a tag. -/
theorem Site.foundBehind_ofTag {literal : Text}
    (hliteral : FoundBehind Braces.double.opening literal)
    (atLineStart : Bool) (source : Text) (tag : Tag) (after : Text) :
    FoundBehind Braces.double.opening (ofTag atLineStart literal source tag after).literal := by
  rcases ofTag_cases atLineStart literal source tag after with ⟨_, _, _, _, -, hindent, -, h⟩ | h
  · rw [h]
    exact foundBehind_of_indent? hindent hliteral
  · rw [h]
    exact hliteral

/-- What the tokens say can be written, where none is refused. -/
theorem printable_events_scan {atLineStart : Bool} (h : Token.Readable atLineStart t) (line : Nat) :
    Printable (Token.events (Token.scan atLineStart line t)) := by
  induction h generalizing line with
  | plain atLineStart t ht =>
    rw [Token.scan_of_notInfix ht]
    exact .last ht
  | enclosed atLineStart literal braces content after tag hliteral hcontent hbody _ ih =>
    have hread := WrittenTag.readAs_ofBody braces content
    have hfits := WrittenTag.fits_event? (hread.proper.2 ⟨tag, hbody⟩) hcontent.found.not_infix
    rw [hread.event tag hbody] at hfits
    rw [Token.scan_enclosed hliteral hcontent hbody, Token.events_text_cons, Token.events_tag_cons]
    refine .text (Site.foundBehind_ofTag hliteral _ _ _ _) ?_
    cases hevent : tag.event? with
    | none => exact ih _
    | some e => exact .tag (hfits e hevent).1 (hfits e hevent).2 (ih _)

/-- What a tree says can be written. -/
theorem printable_of_parse (h : parse source = .ok nodes) : Printable (flattenNodes nodes) := by
  obtain ⟨hfault, hflatten⟩ := Parser.nest_eq_ok_iff.1 h
  rw [hflatten]
  exact (printable_events_scan (Token.readable_of_scan hfault) 1).merge

end
end MustacheBuild
