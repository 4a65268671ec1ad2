import MustacheBuild.Proofs.Template.Event
import MustacheBuild.Proofs.Template.Site

/-!
The grammar of sections, and the parser that matches them with a stack: it goes through exactly
where each section is closed by a tag of its name, and builds the tree that says what the tokens
say.
-/
namespace MustacheBuild

open Event (merge merge_cons)

/-- What a tag says. A comment says nothing. -/
def Tag.event? : Tag → Option Event
  | .interpolation name => some (.interpolation (Name.ofText name))
  | .opening name inverted => some (.opening (Name.ofText name) inverted)
  | .closing name => some (.closing (Name.ofText name))
  | .comment => none

@[simp] theorem Tag.event?_comment : event? .comment = none := rfl

@[simp] theorem Tag.withoutText_event? (tag : Tag) :
    Event.withoutText tag.event?.toList = tag.event?.toList := by cases tag <;> rfl

namespace Token

def event? : Token → Option Event
  | text t => some (.text t)
  | tag found _ => found.event?
  | fault .. => none

def events (tokens : List Token) : List Event := tokens.filterMap event?

@[simp] theorem events_nil : events [] = [] := rfl

@[simp] theorem events_text_cons (t : Text) (tokens : List Token) :
    events (text t :: tokens) = .text t :: events tokens := rfl

@[simp] theorem events_tag_cons (found : Tag) (line : Nat) (tokens : List Token) :
    events (tag found line :: tokens) = found.event?.toList ++ events tokens := by
  cases found <;> rfl

@[simp] theorem events_append (xs ys : List Token) : events (xs ++ ys) = events xs ++ events ys :=
  List.filterMap_append

end Token

/-! ## The grammar -/

/-- The event is an end of a section. -/
def Event.isEnd : Event → Bool
  | .opening .. => true
  | .closing _ => true
  | _ => false

/-- Sections are closed in the order in which they were opened, the innermost first, each by a tag
of its name. -/
inductive Nested : List Event → Prop
  | nil : Nested []
  | plain {e : Event} {es : List Event} (he : e.isEnd = false) : Nested es → Nested (e :: es)
  | block (name : Name) (inverted : Bool) {inner es : List Event} : Nested inner → Nested es →
    Nested (.opening name inverted :: (inner ++ .closing name :: es))

/-- What is left of a nested sequence while sections of these names are open, innermost first. -/
def Completes : List Name → List Event → Prop
  | [], es => Nested es
  | name :: names, es =>
    ∃ inner rest, es = inner ++ .closing name :: rest ∧ Nested inner ∧ Completes names rest

section
variable {names : List Name} {name other : Name} {inverted : Bool} {es fs inner : List Event}
  {e : Event}

theorem Nested.append (h : Nested es) (hfs : Nested fs) : Nested (es ++ fs) := by
  induction h with
  | nil => exact hfs
  | plain he _ ih => exact ih.plain he
  | block name inverted hinner _ _ ih =>
    rw [List.cons_append, List.append_assoc, List.cons_append]
    exact hinner.block name inverted ih

theorem Nested.append_completes (h : Nested inner) (hes : Completes names es) :
    Completes names (inner ++ es) := by
  cases names with
  | nil => exact Nested.append h hes
  | cons name names =>
    obtain ⟨first, rest, rfl, hfirst, hrest⟩ := hes
    exact ⟨inner ++ first, rest, (List.append_assoc ..).symm, h.append hfirst, hrest⟩

@[simp] theorem completes_nil_iff : Completes names [] ↔ names = [] := by
  cases names with
  | nil => simpa [Completes] using Nested.nil
  | cons name names => simp [Completes]

theorem completes_plain_iff (he : e.isEnd = false) :
    Completes names (e :: es) ↔ Completes names es := by
  have hsingle : Nested [e] := Nested.nil.plain he
  refine ⟨fun h => ?_, hsingle.append_completes⟩
  cases names with
  | nil =>
    cases h with
    | plain _ hes => exact hes
    | block name inverted _ _ => contradiction
  | cons name names =>
    obtain ⟨first, rest, h, hfirst, hrest⟩ := h
    cases hfirst with
    | nil =>
      cases h
      contradiction
    | plain _ hfirst =>
      cases h
      exact ⟨_, rest, rfl, hfirst, hrest⟩
    | block name inverted _ _ =>
      cases h
      contradiction

@[simp] theorem completes_opening_iff :
    Completes names (.opening name inverted :: es) ↔ Completes (name :: names) es := by
  constructor
  · intro h
    cases names with
    | nil =>
      cases h with
      | plain he _ => contradiction
      | block _ _ hinner hrest => exact ⟨_, _, rfl, hinner, hrest⟩
    | cons outer names =>
      obtain ⟨first, rest, h, hfirst, hrest⟩ := h
      cases hfirst with
      | nil => cases h
      | plain he _ =>
        cases h
        contradiction
      | block _ _ hinner hfirst =>
        cases h
        exact ⟨_, _, by simp, hinner, _, rest, rfl, hfirst, hrest⟩
  · rintro ⟨inner, rest, rfl, hinner, hrest⟩
    have hblock : Nested (.opening name inverted :: (inner ++ [.closing name])) :=
      hinner.block name inverted .nil
    simpa using hblock.append_completes hrest

theorem not_nested_closing : ¬ Nested (.closing name :: es) := by
  intro h
  cases h
  contradiction

@[simp] theorem completes_closing_iff :
    Completes names (.closing name :: es) ↔
      ∃ outer, names = name :: outer ∧ Completes outer es := by
  constructor
  · intro h
    cases names with
    | nil => exact absurd h not_nested_closing
    | cons innermost outer =>
      obtain ⟨first, rest, h, hfirst, hrest⟩ := h
      cases hfirst with
      | nil =>
        cases h
        exact ⟨outer, rfl, hrest⟩
      | plain he _ =>
        cases h
        contradiction
      | block _ _ _ _ => cases h
  · rintro ⟨outer, rfl, h⟩
    exact ⟨[], es, rfl, .nil, h⟩

theorem completes_withoutText_iff :
    Completes names (Event.withoutText es) ↔ Completes names es := by
  induction es generalizing names with
  | nil => rfl
  | cons e es ih =>
    cases e with
    | text t =>
      rw [Event.withoutText_text_cons, completes_plain_iff rfl, ih]
    | interpolation name =>
      rw [Event.withoutText_cons_of_not_isText rfl, completes_plain_iff rfl,
        completes_plain_iff rfl, ih]
    | opening name inverted =>
      rw [Event.withoutText_cons_of_not_isText rfl, completes_opening_iff, completes_opening_iff,
        ih]
    | closing name =>
      rw [Event.withoutText_cons_of_not_isText rfl, completes_closing_iff, completes_closing_iff]
      simp only [ih]

theorem nested_withoutText_iff : Nested (Event.withoutText es) ↔ Nested es := by
  have h : Completes [] (Event.withoutText es) ↔ Completes [] es := completes_withoutText_iff
  exact h

theorem completes_merge_iff : Completes names (merge es) ↔ Completes names es := by
  rw [← completes_withoutText_iff, Event.withoutText_merge, completes_withoutText_iff]

mutual

/-- A tree says a nested sequence. -/
theorem Node.nested_flatten : ∀ node : Node, Nested node.flatten
  | .text _ => Nested.nil.plain rfl
  | .interpolation _ => Nested.nil.plain rfl
  | .block name inverted children => (nested_flattenNodes children).block name inverted .nil

theorem nested_flattenNodes : ∀ nodes : List Node, Nested (flattenNodes nodes)
  | [] => .nil
  | node :: rest => node.nested_flatten.append (nested_flattenNodes rest)

end

end

/-! ## The parser -/

theorem Name.ofText_injective {t u : Text} (h : Name.ofText t = Name.ofText u) : t = u := by
  rw [← Name.toText_ofText t, h, Name.toText_ofText]

namespace Parser

variable {tokens : List Token} {opened : List OpenSection} {siblings nodes : List Node}

/-- The names of the open sections. -/
def names (opened : List OpenSection) : List Name := opened.map fun s => Name.ofText s.name

/-- The parser goes through exactly where no tag is refused and the sections are closed in order. -/
theorem exists_nest_iff : (∃ nodes, nest tokens opened siblings = .ok nodes) ↔
    (∀ t ∈ tokens, t.isFault = false) ∧ Completes (names opened) (Token.events tokens) := by
  fun_induction nest tokens opened siblings with
  | case1 siblings => simp [names]
  | case2 innermost outer siblings => simp [names]
  | case3 t tokens opened siblings ih =>
    rw [ih]
    simp [Token.isFault, completes_plain_iff (e := .text t) rfl]
  | case4 fault line => simp [Token.isFault]
  | case5 line tokens opened siblings ih =>
    rw [ih]
    simp [Token.isFault, Tag.event?]
  | case6 name line tokens opened siblings ih =>
    rw [ih]
    simp [Token.isFault, Tag.event?,
      completes_plain_iff (e := .interpolation (Name.ofText name)) rfl]
  | case7 name inverted line tokens opened siblings ih =>
    rw [ih]
    simp [Token.isFault, Tag.event?, names]
  | case8 name line => simp [Tag.event?, names]
  | case9 line tokens innermost outer siblings ih =>
    rw [ih]
    simp [Token.isFault, Tag.event?, names]
  | case10 name line tokens innermost outer siblings hname =>
    have hdiffers : Name.ofText innermost.name ≠ Name.ofText name := fun h =>
      hname (Name.ofText_injective h)
    simp [Tag.event?, names, hdiffers]

/-- What was read before the innermost siblings. -/
def flattenOpened : List OpenSection → List Event
  | [] => []
  | innermost :: outer =>
    flattenOpened outer ++ flattenNodes innermost.before ++
      [.opening (Name.ofText innermost.name) innermost.inverted]

/-- What was read and what is still to be read is, put together, what the tree says. -/
theorem flattenNodes_of_nest (h : nest tokens opened siblings = .ok nodes)
    (hopened : ∀ s ∈ opened, Event.Merged (flattenNodes s.before))
    (hsiblings : Event.Merged (flattenNodes siblings)) :
    flattenNodes nodes =
      (flattenOpened opened ++ flattenNodes siblings).foldr Event.cons
        (merge (Token.events tokens)) := by
  fun_induction nest tokens opened siblings with
  | case1 siblings =>
    obtain rfl : siblings = nodes := Except.ok.inj h
    exact hsiblings.merge_eq.symm
  | case3 t tokens opened siblings ih =>
    rw [ih h hopened (Node.merged_appendText hsiblings t), List.foldr_append, List.foldr_append,
      Node.foldr_cons_appendText]
    rfl
  | case5 line tokens opened siblings ih => exact ih h hopened hsiblings
  | case6 name line tokens opened siblings ih =>
    rw [ih h hopened]
    · simp [Node.flatten, Tag.event?, merge_cons]
    · rw [flattenNodes_append]
      exact hsiblings.append_of_head (Event.merged_singleton_iff.2 (by simp))
        (by simp [Node.flatten, Event.isText])
  | case7 name inverted line tokens opened siblings ih =>
    rw [ih h (List.forall_mem_cons.2 ⟨hsiblings, hopened⟩) (Event.merged_merge [])]
    simp [flattenOpened, Tag.event?, merge_cons]
  | case9 line tokens innermost outer siblings ih =>
    obtain ⟨hbefore, houter⟩ := List.forall_mem_cons.1 hopened
    rw [ih h houter]
    · simp [flattenOpened, Node.flatten, Tag.event?, merge_cons]
    · have hinner :
          Event.Merged (flattenNodes siblings ++ [.closing (Name.ofText innermost.name)]) :=
        hsiblings.append_of_head (Event.merged_singleton_iff.2 (by simp)) (by simp [Event.isText])
      rw [flattenNodes_append, flattenNodes_cons, flattenNodes_nil, List.append_nil, Node.flatten]
      exact hbefore.append_of_head (hinner.cons_of_not_isText rfl) (by simp [Event.isText])
  | case2 | case4 | case8 | case10 => contradiction

/-- The parser builds the tree that says what the tokens say, where no tag is refused and where
there is such a tree. -/
theorem nest_eq_ok_iff : nest tokens [] [] = .ok nodes ↔
    (∀ t ∈ tokens, t.isFault = false) ∧ flattenNodes nodes = merge (Token.events tokens) := by
  have hflatten {built : List Node} (h : nest tokens [] [] = .ok built) :
      flattenNodes built = merge (Token.events tokens) := by
    simpa [flattenOpened] using flattenNodes_of_nest h (by simp) (Event.merged_merge [])
  constructor
  · intro h
    exact ⟨(exists_nest_iff.1 ⟨nodes, h⟩).1, hflatten h⟩
  · rintro ⟨hfault, hnodes⟩
    have hnested : Completes [] (Token.events tokens) := by
      rw [← completes_merge_iff, ← hnodes]
      exact nested_flattenNodes nodes
    obtain ⟨built, hbuilt⟩ : ∃ built, nest tokens [] [] = .ok built :=
      exists_nest_iff.2 ⟨hfault, hnested⟩
    obtain rfl : built = nodes := flattenNodes_injective ((hflatten hbuilt).trans hnodes.symm)
    exact hbuilt

end Parser

theorem merged_flattenNodes_of_parse {source : Text} {nodes : List Node}
    (h : parse source = .ok nodes) :
    Event.Merged (flattenNodes nodes) := by
  rw [(Parser.nest_eq_ok_iff.1 h).2]
  exact Event.merged_merge _

end MustacheBuild
