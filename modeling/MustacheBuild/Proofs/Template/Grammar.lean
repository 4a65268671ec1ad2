import MustacheBuild.Proofs.Template.Standalone

/-!
What the parser accepts. A source is accepted where all its tags are proper and its sections are
nested, and its tree says then what the source does: the text between the extents of its tags and,
in the place of each, what the tag says, one after the other.
-/
namespace MustacheBuild

open Event (merge withoutText)

/-- The tags of a source, in order. -/
def writtenTags (source : Text) : List WrittenTag := (occurrences [] source).map Occurrence.tag

variable {source : Text} {nodes : List Node}

theorem withoutText_writtenEvents (source : Text) (position : Nat) (tags : List Occurrence) :
    withoutText (writtenEvents source position tags) =
      (tags.map Occurrence.tag).filterMap WrittenTag.event? := by
  induction tags generalizing position with
  | nil => rfl
  | cons o rest ih =>
    rw [writtenEvents, Event.withoutText_text_cons, Event.withoutText_append,
      WrittenTag.withoutText_event?, ih, List.map_cons, List.filterMap_cons]
    cases o.tag.event? <;> rfl

theorem withoutText_flattenNodes_of_parse (h : parse source = .ok nodes) :
    withoutText (flattenNodes nodes) = (writtenTags source).filterMap WrittenTag.event? := by
  rw [flattenNodes_of_parse h, Event.withoutText_merge]
  exact withoutText_writtenEvents source 0 _

/-- The sections are matched whatever text is between their tags. -/
theorem exists_parse_iff (source : Text) : (∃ nodes, parse source = .ok nodes) ↔
    (∀ w ∈ writtenTags source, w.Proper) ∧
      Nested ((writtenTags source).filterMap WrittenTag.event?) := by
  rw [parse, Parser.exists_nest_iff, scan_faultless_iff true 1 [], writtenTags,
    List.forall_mem_map]
  refine and_congr_right fun hproper => ?_
  have hreadable := Token.readable_of_scan ((scan_faultless_iff true 1 [] source).2 hproper)
  rw [events_scan hreadable fun _ => .start, ← withoutText_writtenEvents ([] ++ source) 0,
    nested_withoutText_iff]
  rfl

/-- A source is accepted exactly where its tags are closed, supported and named and its sections are
nested, each closed by a tag of its name. Then its tree says what is written in the source, with
text put together, and of tags just those that were written. -/
theorem parse_follows_grammar (source : Text) :
    ((∃ nodes, parse source = .ok nodes) ↔
      (∀ w ∈ writtenTags source, w.Proper) ∧
        Nested ((writtenTags source).filterMap WrittenTag.event?)) ∧
    ∀ nodes, parse source = .ok nodes →
      flattenNodes nodes = merge (writtenEvents source 0 (occurrences [] source)) ∧
      withoutText (flattenNodes nodes) = (writtenTags source).filterMap WrittenTag.event? :=
  ⟨exists_parse_iff source, fun _ h =>
    ⟨flattenNodes_of_parse h, withoutText_flattenNodes_of_parse h⟩⟩

/-- The line of the comment goes with it, and the text on its two sides is put together. -/
theorem parse_follows_grammar_section :
    let source := "{{# a }}x\n {{! c }}\ny{{{b}}}{{/a}} z".toList
    let nodes := [.block (Name.ofText ['a']) false
      [.text ['x', '\n', 'y'], .interpolation (Name.ofText ['b'])], .text [' ', 'z']]
    parse source = .ok nodes ∧
      flattenNodes nodes = merge (writtenEvents source 0 (occurrences [] source)) ∧
      withoutText (flattenNodes nodes) = (writtenTags source).filterMap WrittenTag.event? ∧
      writtenEvents source 0 (occurrences [] source) =
        [.text [], .opening (Name.ofText ['a']) false, .text ['x', '\n'], .text ['y'],
          .interpolation (Name.ofText ['b']), .text [], .closing (Name.ofText ['a']),
          .text [' ', 'z']] := by
  have hparse : parse "{{# a }}x\n {{! c }}\ny{{{b}}}{{/a}} z".toList =
      .ok [.block (Name.ofText ['a']) false
        [.text ['x', '\n', 'y'], .interpolation (Name.ofText ['b'])], .text [' ', 'z']] := by cbv
  have hsays := (parse_follows_grammar _).2 _ hparse
  exact ⟨hparse, hsays.1, hsays.2, by cbv⟩

end MustacheBuild
