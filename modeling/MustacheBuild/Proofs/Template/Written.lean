import MustacheBuild.Proofs.Template.Nesting

/-!
Tags as they are written. The character that classifies a tag and its name are read off what stands
between its braces, and so is what the tag says; the parser reads each tag in this way or refuses
it.
-/
namespace MustacheBuild

/-- A tag as it is written, with what stands between its braces where they are closed. -/
inductive WrittenTag where
  | closed (braces : Braces) (content : Text)
  | unclosed (braces : Braces)
  deriving DecidableEq, Repr

namespace WrittenTag

/-- The characters that say what kind of tag it is. -/
def sigils : List Char := ['#', '^', '/', '&', '!', '>', '=']

/-- The character that classifies a tag. Triple braces have none. -/
def sigil? : WrittenTag → Option Char
  | closed .double content => content.trim.head?.filter (· ∈ sigils)
  | _ => none

/-- What stands between the braces, behind the classifying character and without white space. -/
def name : WrittenTag → Text
  | closed braces content =>
    Text.trim (content.trim.drop (if (closed braces content).sigil?.isSome then 1 else 0))
  | unclosed _ => []

/-- The tag is closed, it is no partial and no change of delimiters, and it has a name unless it is
a comment. -/
structure Proper (w : WrittenTag) : Prop where
  closed : ∀ braces, w ≠ unclosed braces
  supported : w.sigil? ≠ some '>' ∧ w.sigil? ≠ some '='
  named : w.sigil? = some '!' ∨ w.name ≠ []

/-- What a proper tag says. -/
def event? (w : WrittenTag) : Option Event :=
  if w.sigil? = some '!' then none
  else if w.sigil? = some '#' then some (.opening (Name.ofText w.name) false)
  else if w.sigil? = some '^' then some (.opening (Name.ofText w.name) true)
  else if w.sigil? = some '/' then some (.closing (Name.ofText w.name))
  else some (.interpolation (Name.ofText w.name))

@[simp] theorem withoutText_event? (w : WrittenTag) :
    Event.withoutText w.event?.toList = w.event?.toList := by
  unfold event?
  split_ifs <;> rfl

theorem flatMap_toText_event? (w : WrittenTag) : w.event?.toList.flatMap Event.toText = [] := by
  unfold event?
  split_ifs <;> rfl

end WrittenTag

section
variable {content : Text} {braces : Braces}

theorem Tag.ofContent_of_plain (h : ∀ c ∈ content.head?, c ∉ WrittenTag.sigils) :
    ofContent content = named interpolation content := by
  unfold ofContent
  split <;> first | rfl | simp [WrittenTag.sigils] at h

namespace WrittenTag

/-- Where no character classifies the tag, its name is all that stands between the braces. -/
theorem name_of_plain (h : (closed braces content).sigil? = none) :
    (closed braces content).name = content.trim := by
  simp [name, h, (Text.isTrimmed_trim content).trim_eq]

section
variable {c : Char} {rest : Text}

theorem sigil?_of_cons (h : content.trim = c :: rest) (hc : c ∈ sigils) :
    (closed .double content).sigil? = some c := by simp [sigil?, h, hc]

theorem name_of_cons (h : content.trim = c :: rest) (hc : c ∈ sigils) :
    (closed .double content).name = rest.trim := by
  simp [name, sigil?_of_cons h hc, h]

end

/-- A tag is read by the character that classifies it, and by its name. -/
theorem ofBody_eq (braces : Braces) (content : Text) :
    Tag.ofBody braces content =
      let w := closed braces content
      if w.sigil? = some '!' then .ok .comment
      else if w.sigil? = some '>' then .error (.unsupported .partials)
      else if w.sigil? = some '=' then .error (.unsupported .customDelimiters)
      else if w.name = [] then .error .nameless
      else if w.sigil? = some '#' then .ok (.opening w.name false)
      else if w.sigil? = some '^' then .ok (.opening w.name true)
      else if w.sigil? = some '/' then .ok (.closing w.name)
      else .ok (.interpolation w.name) := by
  cases braces with
  | triple =>
    have hsigil : (closed .triple content).sigil? = none := rfl
    simp [Tag.ofBody, Tag.named, hsigil, name_of_plain hsigil]
  | double =>
    rw [Tag.ofBody]
    by_cases hplain : ∀ c ∈ content.trim.head?, c ∉ sigils
    · have hsigil : (closed .double content).sigil? = none := by simpa [sigil?] using hplain
      rw [Tag.ofContent_of_plain hplain]
      simp [Tag.named, hsigil, name_of_plain hsigil, (Text.isTrimmed_trim content).trim_eq]
    · obtain ⟨c, rest, hcontent, hc⟩ : ∃ c rest, content.trim = c :: rest ∧ c ∈ sigils := by
        cases hhead : content.trim with
        | nil => simp [hhead] at hplain
        | cons c rest => exact ⟨c, rest, rfl, by simpa [hhead] using hplain⟩
      have hsigil := sigil?_of_cons hcontent hc
      have hname := name_of_cons hcontent hc
      rw [hcontent]
      simp only [sigils, List.mem_cons, List.not_mem_nil, or_false] at hc
      rcases hc with rfl | rfl | rfl | rfl | rfl | rfl | rfl <;>
        simp [Tag.ofContent, Tag.named, hsigil, hname]

/-- The tag is read exactly if it is proper, and then it says what is written. -/
structure ReadAs (w : WrittenTag) (result : Except TagFault Tag) : Prop where
  proper : w.Proper ↔ ∃ tag, result = .ok tag
  event : ∀ tag, result = .ok tag → w.event? = tag.event?

theorem proper_closed_iff : (closed braces content).Proper ↔
    ((closed braces content).sigil? ≠ some '>' ∧ (closed braces content).sigil? ≠ some '=') ∧
      ((closed braces content).sigil? = some '!' ∨ (closed braces content).name ≠ []) := by
  constructor
  · intro h
    exact ⟨h.supported, h.named⟩
  · rintro ⟨hsupported, hnamed⟩
    exact ⟨by simp, hsupported, hnamed⟩

theorem readAs_ofBody (braces : Braces) (content : Text) :
    (closed braces content).ReadAs (Tag.ofBody braces content) := by
  rw [ofBody_eq]
  constructor
  · rw [proper_closed_iff]
    dsimp only
    split_ifs <;> simp_all
  · intro tag htag
    unfold event?
    dsimp only at htag
    split_ifs at htag <;> cases htag <;> simp_all [Tag.event?]

end WrittenTag
end

end MustacheBuild
