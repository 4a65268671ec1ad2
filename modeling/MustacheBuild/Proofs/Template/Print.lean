import MustacheBuild.Proofs.Template.NormalForm

/-!
A tree printed as a template again. Interpolations stand between triple braces, and an empty comment
before each end of a section keeps it from being alone on its line, so that the template is read as
the tree that was printed.
-/
namespace MustacheBuild

open Event (merge)
open Text (FoundBehind)

/-- The name with a blank on each side. -/
def Name.padded (name : Name) : Text := ' ' :: (name.toText ++ [' '])

def emptyComment : Text := Braces.double.wrap ['!']

def Event.print : Event → Text
  | .text t => t
  | .interpolation name => Braces.triple.wrap name.padded
  | .opening name inverted =>
    emptyComment ++ Braces.double.wrap ((if inverted then '^' else '#') :: name.padded)
  | .closing name => emptyComment ++ Braces.double.wrap ('/' :: name.padded)

mutual

/-- The node as a template. -/
def Node.print : Node → Text
  | .text t => t
  | .interpolation name => Event.print (.interpolation name)
  | .block name inverted children =>
    Event.print (.opening name inverted) ++ printNodes children ++ Event.print (.closing name)

def printNodes : List Node → Text
  | [] => []
  | node :: rest => node.print ++ printNodes rest

end

mutual

theorem Node.flatMap_print_flatten : ∀ node : Node, node.flatten.flatMap Event.print = node.print
  | .text t => by simp [Node.flatten, Node.print, Event.print]
  | .interpolation name => by simp [Node.flatten, Node.print]
  | .block name inverted children => by
    simp [Node.flatten, Node.print, flatMap_print_flattenNodes children]

theorem flatMap_print_flattenNodes :
    ∀ nodes : List Node, (flattenNodes nodes).flatMap Event.print = printNodes nodes
  | [] => rfl
  | node :: rest => by
    rw [flattenNodes_cons, List.flatMap_append, node.flatMap_print_flatten,
      flatMap_print_flattenNodes rest, printNodes]

end

variable {t content after rest : Text} {name : Name} {braces : Braces} {tag : Tag}
  {atLineStart : Bool} {line : Nat} {e : Event} {es : List Event}

/-! ## Tags beside other text -/

namespace Site

theorem trail?_of_head? {c : Char} (hafter : after.head? = some c)
    (hc : c ∉ ['\n', '\r', ' ', '\t']) : trail? after = none := by
  obtain ⟨t, rfl⟩ := List.head?_eq_some_iff.1 hafter
  rw [Option.eq_none_iff_forall_ne_some]
  rintro ⟨trail, rest⟩ htrail
  have hblank := trail?_isBlank htrail
  simp only [trail?] at htrail
  split at htrail
  next =>
    obtain ⟨rfl, -⟩ := Prod.mk.inj (Option.some.inj htrail)
    have hmem : c ∈ (Text.splitFirstLine (c :: t)).1 := by
      rw [Text.splitFirstLine]
      split <;> simp [*]
    exact hc (by simpa [Text.isBlank] using hblank c hmem)
  next => contradiction

end Site

theorem Token.scan_beside {literal : Text} (hliteral : FoundBehind Braces.double.opening literal)
    (hcontent : braces.Encloses content) (hbody : Tag.ofBody braces content = .ok tag)
    (h : tag.canStandAlone = false ∨ Site.indent? atLineStart literal = none ∨
      Site.trail? after = none) :
    scan atLineStart line (literal ++ (braces.wrap content ++ after)) =
      .text literal :: .tag tag (line + literal.lineFeeds) ::
        scan false (line + literal.lineFeeds + (braces.wrap content).lineFeeds) after := by
  rw [scan_enclosed hliteral hcontent hbody, Site.ofTag_beside h]
  rfl

/-! ## Printed tags -/

theorem Text.trim_padded (ht : Text.IsTrimmed t) : Text.trim (' ' :: (t ++ [' '])) = t := by
  rw [Text.trim_cons_of_white rfl, Text.trim_append_of_white (by simp [Text.isWhite]), ht.trim_eq]

theorem Text.trim_cons_padded {c : Char} (hc : Text.isWhite c = false) (ht : Text.IsTrimmed t)
    (hne : t ≠ []) : Text.trim (c :: ' ' :: (t ++ [' '])) = c :: ' ' :: t := by
  have htrim : Text.IsTrimmed (c :: ' ' :: t) := by
    refine ⟨by simpa using hc, ?_⟩
    obtain ⟨d, t, rfl⟩ := List.exists_cons_of_ne_nil hne
    exact ht.last
  exact (Text.trim_append_of_white (by simp [Text.isWhite]) (c :: ' ' :: t)).trans htrim.trim_eq

theorem Tag.named_padded (make : Text → Tag) (ht : Text.IsTrimmed t) (hne : t ≠ []) :
    named make (' ' :: t) = .ok (make t) := by
  have htrim : Text.trim (' ' :: t) = t := by rw [Text.trim_cons_of_white rfl, ht.trim_eq]
  rw [named, htrim, if_neg (by simpa using hne)]

namespace Name.Fits

theorem foundBehind (h : name.Fits braces) {w : Text} (hw : ¬ braces.closing <:+: w) :
    FoundBehind braces.closing (w ++ name.padded) := by
  have hblank : ' ' ∉ braces.closing := by cases braces <;> simp [Braces.closing]
  have hmark := braces.closing_ne_nil
  rw [FoundBehind, List.append_assoc, padded, List.cons_append, List.append_assoc,
    List.singleton_append, Text.infix_append_cons_iff hmark hblank,
    Text.infix_append_cons_iff hmark hblank]
  rintro (hfound | hfound | hfound)
  · exact hw hfound
  · exact h.unbroken hfound
  · exact Text.not_infix_dropLast hmark hfound

theorem ofBody_triple (h : name.Fits .triple) :
    Tag.ofBody .triple name.padded = .ok (.interpolation name.toText) := by
  rw [Tag.ofBody, Tag.named, padded, Text.trim_padded h.trimmed, if_neg (by simpa using h.notEmpty)]

theorem ofBody_double (h : name.Fits .double) {c : Char} (hc : Text.isWhite c = false) :
    Tag.ofBody .double (c :: name.padded) = Tag.ofContent (c :: ' ' :: name.toText) := by
  rw [Tag.ofBody, padded, Text.trim_cons_padded hc h.trimmed h.notEmpty]

theorem encloses_cons (h : name.Fits .double) {c : Char} (hc : c ≠ '{') :
    Braces.double.Encloses (c :: name.padded) := by
  have hlength : ¬ Braces.double.closing <:+: [c] := fun hfound => by
    simpa [Braces.closing] using hfound.length_le
  exact ⟨h.foundBehind hlength, fun _ => by simpa using hc⟩

end Name.Fits

/-- What is scanned where an event is printed, apart from the text before: nothing that is refused,
and nothing but the event. -/
structure Token.Spells (tokens : List Token) (e : Event) : Prop where
  faultless : ∀ token ∈ tokens, token.isFault = false
  event : ∀ es, (events tokens).foldr Event.cons es = e :: es

/-- The end of a section is not alone on its line, since a comment stands before it, and that is not
alone either. -/
theorem scan_print_end {c : Char} (make : Text → Tag)
    (hliteral : FoundBehind Braces.double.opening t) (hfits : name.Fits .double)
    (hc : c ∈ ['#', '^', '/'])
    (hmake : ∀ written, Tag.ofContent (c :: written) = Tag.named make written)
    (hevent : (make name.toText).event? = some e) (he : e.isText = false) (rest : Text) :
    ∃ tokens line', Token.Spells tokens e ∧
      Token.scan atLineStart line
          (t ++ (emptyComment ++ Braces.double.wrap (c :: name.padded) ++ rest)) =
        .text t :: (tokens ++ Token.scan false line' rest) := by
  have hcomment : Braces.double.Encloses ['!'] := ⟨by decide, by decide⟩
  have hwhite : Text.isWhite c = false := by
    simp only [List.mem_cons, List.not_mem_nil, or_false] at hc
    rcases hc with rfl | rfl | rfl <;> rfl
  have hbrace : c ≠ '{' := by
    rintro rfl
    simp at hc
  have hbody : Tag.ofBody .double (c :: name.padded) = .ok (make name.toText) := by
    rw [hfits.ofBody_double hwhite, hmake, Tag.named_padded make hfits.trimmed hfits.notEmpty]
  have htrail : Site.trail? (Braces.double.wrap (c :: name.padded) ++ rest) = none :=
    Site.trail?_of_head? rfl (by decide)
  have hempty : FoundBehind Braces.double.opening [] := by decide
  have hend (line : Nat) : Token.scan false line (Braces.double.wrap (c :: name.padded) ++ rest) =
      .text [] :: .tag (make name.toText) line ::
        Token.scan false (line + (Braces.double.wrap (c :: name.padded)).lineFeeds) rest :=
    Token.scan_beside hempty (hfits.encloses_cons hbrace) hbody (Or.inr (Or.inl rfl))
  rw [emptyComment, List.append_assoc,
    Token.scan_beside hliteral hcomment rfl (Or.inr (Or.inr htrail)), hend]
  refine ⟨[.tag .comment _, .text [], .tag (make name.toText) _], _, ⟨by simp, fun es => ?_⟩, rfl⟩
  simp [hevent, Event.cons_of_not_isText he]

/-- A printed event is read as itself, wherever it stands behind text that makes no tag with it. -/
theorem scan_print (hliteral : FoundBehind Braces.double.opening t) (he : e.isText = false)
    (hfits : e.Fits) (atLineStart : Bool) (line : Nat) (rest : Text) :
    ∃ tokens line', Token.Spells tokens e ∧
      Token.scan atLineStart line (t ++ (e.print ++ rest)) =
        .text t :: (tokens ++ Token.scan false line' rest) := by
  cases e with
  | text u => contradiction
  | interpolation name =>
    have hcontent : Braces.triple.Encloses name.padded :=
      ⟨hfits.foundBehind (w := []) (by simp [Braces.closing]), by simp⟩
    rw [Event.print, Token.scan_beside hliteral hcontent hfits.ofBody_triple (Or.inl rfl)]
    refine ⟨[.tag (.interpolation name.toText) _], _, ⟨by simp, fun es => ?_⟩, rfl⟩
    simp [Tag.event?, hfits.written, Event.cons_of_not_isText he]
  | opening name inverted =>
    refine scan_print_end (.opening · inverted) hliteral hfits ?_ ?_ ?_ he rest
    · cases inverted <;> simp
    · cases inverted <;> exact fun _ => rfl
    · simp [Tag.event?, hfits.written]
  | closing name =>
    exact scan_print_end .closing hliteral hfits (by simp) (fun _ => rfl)
      (by simp [Tag.event?, hfits.written]) he rest

/-! ## Printed trees -/

/-- Printed events are read as they are, with text in front of them that makes no tag with them. -/
theorem merge_events_scan_print (hmerged : Event.Merged es) (t : Text)
    (h : Printable (Event.cons (.text t) es)) (atLineStart : Bool) (line : Nat) :
    (∀ token ∈ Token.scan atLineStart line (t ++ es.flatMap Event.print), token.isFault = false) ∧
      merge (Token.events (Token.scan atLineStart line (t ++ es.flatMap Event.print))) =
        Event.cons (.text t) es := by
  -- A text that is printed first is only more of the text in front: the induction runs over both.
  induction es generalizing t atLineStart line with
  | nil =>
    rw [List.flatMap_nil, List.append_nil, Token.scan_of_notInfix h.of_cons_text_nil]
    exact ⟨by simp, rfl⟩
  | cons e es ih =>
    obtain ⟨hne, hnext, hes⟩ := Event.merged_cons_iff.1 hmerged
    rw [List.flatMap_cons]
    cases htag : e.isText with
    | true =>
      obtain ⟨u, rfl⟩ : ∃ u, e = .text u := by
        cases e with
        | text u => exact ⟨u, rfl⟩
        | _ => contradiction
      have hu : t ++ u ≠ [] := by simpa using fun _ => hne
      have hjoin : Event.cons (.text t) (.text u :: es) = Event.cons (.text (t ++ u)) es := by
        rw [Event.cons_text hu fun f hf => by simpa [Event.isText] using hnext f hf]
        rfl
      rw [hjoin] at h ⊢
      rw [Event.print, ← List.append_assoc]
      exact ih hes (t ++ u) h atLineStart line
    | false =>
      obtain ⟨ht, hrest⟩ := h.of_cons_text htag
      obtain ⟨hfits, hrest⟩ := hrest.of_tag htag
      obtain ⟨tokens, line', hspells, hscan⟩ :=
        scan_print ht htag hfits atLineStart line (es.flatMap Event.print)
      obtain ⟨hfault, hread⟩ := ih hes [] (by simpa using hrest) false line'
      rw [List.nil_append] at hfault hread
      rw [hscan, Token.events_text_cons, Token.events_append, Event.merge_cons, Event.merge_append,
        hread, Event.cons_empty, hspells.event]
      refine ⟨?_, rfl⟩
      simp only [List.forall_mem_cons, List.forall_mem_append, Token.isFault_text, true_and]
      exact ⟨hspells.faultless, hfault⟩

/-- A tree that was parsed is printed as a template that is parsed as the same tree. -/
theorem parse_print {source : Text} {nodes : List Node} (h : parse source = .ok nodes) :
    parse (printNodes nodes) = .ok nodes := by
  have hread := merge_events_scan_print (merged_flattenNodes_of_parse h) []
    (by simpa using printable_of_parse h) true 1
  rw [List.nil_append, flatMap_print_flattenNodes, Event.cons_empty] at hread
  exact Parser.nest_eq_ok_iff.2 ⟨hread.1, hread.2.symm⟩

theorem parse_print_section :
    let source := "{{! c }}a \x7b b\n{{^ x.y }}\n{{{ z }}}{{.}}\n{{/ x.y }}\n".toList
    let nodes := [.text ['a', ' ', '{', ' ', 'b', '\n'], .block (.dotted ['x'] [['y']]) true
      [.interpolation (.dotted ['z'] []), .interpolation .implicit, .text ['\n']]]
    parse source = .ok nodes ∧
      printNodes nodes =
        "a \x7b b\n{{!}}{{^ x.y }}{{{ z }}}{{{ . }}}\n{{!}}{{/ x.y }}".toList ∧
      parse (printNodes nodes) = .ok nodes := by
  have hparse : parse "{{! c }}a \x7b b\n{{^ x.y }}\n{{{ z }}}{{.}}\n{{/ x.y }}\n".toList =
      .ok [.text ['a', ' ', '{', ' ', 'b', '\n'], .block (.dotted ['x'] [['y']]) true
        [.interpolation (.dotted ['z'] []), .interpolation .implicit, .text ['\n']]] := by cbv
  exact ⟨hparse, by decide, parse_print hparse⟩

end MustacheBuild
