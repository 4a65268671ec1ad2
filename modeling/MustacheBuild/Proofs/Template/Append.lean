import MustacheBuild.Proofs.Render.Basic
import MustacheBuild.Proofs.Template.Nesting

/-!
A source behind whole lines is parsed as if it stood alone: where the first source ends with a line,
neither the search for tags nor that for blank lines looks across its end.
-/
namespace MustacheBuild

open Text (FoundBehind WholeLines)

variable {lines after s : Text} {atLineStart : Bool}

/-! ## Lines in front and behind -/

namespace Site

theorem indent?_of_wholeLines (hlines : WholeLines lines) (hstart : lines = [] → atLineStart = true)
    (literal : Text) :
    indent? atLineStart (lines ++ literal) =
      (indent? true literal).map fun cut => (lines ++ cut.1, cut.2) := by
  have hline : (atLineStart || !(lines ++ (Text.splitLastLine literal).1).isEmpty) = true := by
    cases lines with
    | nil => simp [hstart rfl]
    | cons c lines => simp
  simp only [indent?, Text.splitLastLine_of_wholeLines hlines, hline, Bool.true_or]
  split <;> rfl

theorem trail?_of_mem (h : '\n' ∈ after) (t : Text) :
    trail? (after ++ t) = (trail? after).map fun cut => (cut.1, cut.2 ++ t) := by
  simp only [trail?, Text.splitFirstLine_of_mem h]
  split <;> rfl

theorem ofTag_of_wholeLines (hlines : WholeLines lines) (hstart : lines = [] → atLineStart = true)
    (literal source : Text) (tag : Tag) (after : Text) :
    ofTag atLineStart (lines ++ literal) source tag after =
      let site := ofTag true literal source tag after
      { site with literal := lines ++ site.literal } := by
  unfold ofTag
  rw [indent?_of_wholeLines hlines hstart]
  cases tag.canStandAlone <;> cases indent? true literal <;> cases trail? after <;> rfl

theorem ofTag_of_mem (h : '\n' ∈ after) (atLineStart : Bool) (literal source : Text) (tag : Tag)
    (t : Text) :
    ofTag atLineStart literal source tag (after ++ t) =
      let site := ofTag atLineStart literal source tag after
      { site with rest := site.rest ++ t } := by
  unfold ofTag
  rw [trail?_of_mem h]
  cases (if tag.canStandAlone then indent? atLineStart literal else none) <;>
    cases trail? after <;> rfl

theorem lineFeeds_ofTag (atLineStart : Bool) (literal source : Text) (tag : Tag) (after : Text) :
    (ofTag atLineStart literal source tag after).linesWithin +
        (ofTag atLineStart literal source tag after).rest.lineFeeds =
      source.lineFeeds + after.lineFeeds := by
  rcases ofTag_cases atLineStart literal source tag after with ⟨_, _, _, _, -, -, htrail, h⟩ | h
  · rw [h, trail?_eq_some htrail, Text.lineFeeds_append, ← Nat.add_assoc]
    rfl
  · rw [h]
    rfl

/-- Where something follows a tag, only the end of its own line can be all of it. -/
theorem alone_of_rest_eq_nil (atLineStart : Bool) (literal source : Text) (tag : Tag)
    (hafter : after ≠ []) (hrest : (ofTag atLineStart literal source tag after).rest = []) :
    (ofTag atLineStart literal source tag after).alone = true := by
  rcases ofTag_cases atLineStart literal source tag after with ⟨_, _, _, _, -, -, -, h⟩ | h
  · rw [h]
  · rw [h] at hrest
    contradiction

end Site

/-! ## Tokens that the parser does not tell apart -/

namespace Parser

/-- The parser does the same with both, wherever they follow. -/
def Alike (xs ys : List Token) : Prop :=
  ∀ opened siblings, nest xs opened siblings = nest ys opened siblings

variable {xs ys : List Token}

theorem Alike.cons (h : Alike xs ys) (token : Token) : Alike (token :: xs) (token :: ys) := by
  intro opened siblings
  cases token with
  | text t => exact h _ _
  | fault fault line => rfl
  | tag tag line =>
    cases tag with
    | closing name =>
      cases opened with
      | nil => rfl
      | cons innermost outer =>
        rw [nest, nest]
        split
        next => exact h _ _
        next => rfl
    | _ => exact h _ _

theorem Alike.append_left (h : Alike xs ys) (front : List Token) :
    Alike (front ++ xs) (front ++ ys) := by
  induction front with
  | nil => exact h
  | cons token front ih => exact ih.cons token

theorem alike_text_nil (xs : List Token) : Alike (.text [] :: xs) xs := fun _ _ => rfl

theorem alike_text_text (t u : Text) (xs : List Token) :
    Alike (.text (t ++ u) :: xs) (.text t :: .text u :: xs) := by
  intro opened siblings
  rw [nest, nest, nest, Node.appendText_appendText]

end Parser

/-! ## Scanning -/

/-- Whole lines without a tag are text in front of what follows. -/
theorem alike_scan_of_notInfix (hlines : WholeLines lines)
    (hstart : lines = [] → atLineStart = true)
    (hplain : ¬ Braces.double.opening <:+: lines) (line : Nat) (t : Text) :
    Parser.Alike (Token.scan atLineStart line (lines ++ t))
      (.text lines :: Token.scan true (line + lines.lineFeeds) t) := by
  have hacross (u : Text) :
      Braces.double.opening <:+: lines ++ u ↔ Braces.double.opening <:+: u := by
    rw [hlines.infix_append_iff (Braces.opening_ne_nil _) (by decide), or_iff_right hplain]
  have hbehind {literal : Text} (h : FoundBehind Braces.double.opening literal) :
      FoundBehind Braces.double.opening (lines ++ literal) := by
    rwa [FoundBehind, List.append_assoc, hacross]
  induction t using tag_induction with
  | plain t ht =>
    rw [Token.scan_of_notInfix ht, Token.scan_of_notInfix (by rwa [hacross])]
    exact Parser.alike_text_text lines t []
  | unclosed literal braces body hliteral hbody hclosing =>
    rw [← List.append_assoc, Token.scan_unclosed (hbehind hliteral) hbody hclosing,
      Token.scan_unclosed hliteral hbody hclosing, Text.lineFeeds_append, ← Nat.add_assoc]
    exact Parser.alike_text_text _ _ _
  | enclosed literal braces content after hliteral hcontent _ =>
    rw [← List.append_assoc]
    cases hbody : Tag.ofBody braces content with
    | error fault =>
      rw [Token.scan_refused (hbehind hliteral) hcontent hbody,
        Token.scan_refused hliteral hcontent hbody, Text.lineFeeds_append, ← Nat.add_assoc]
      exact Parser.alike_text_text _ _ _
    | ok tag =>
      rw [Token.scan_enclosed (hbehind hliteral) hcontent hbody,
        Token.scan_enclosed hliteral hcontent hbody, Site.ofTag_of_wholeLines hlines hstart,
        Text.lineFeeds_append, ← Nat.add_assoc]
      exact Parser.alike_text_text _ _ _

/-- What follows whole lines is scanned as the beginning of a source, with its lines counted on. -/
theorem alike_scan_append (t : Text) (h : Token.Readable atLineStart s) (hlines : WholeLines s)
    (hstart : s = [] → atLineStart = true) (line : Nat) :
    Parser.Alike (Token.scan atLineStart line (s ++ t))
      (Token.scan atLineStart line s ++ Token.scan true (line + s.lineFeeds) t) := by
  induction h generalizing line with
  | plain atLineStart s hs =>
    rw [Token.scan_of_notInfix hs]
    exact alike_scan_of_notInfix hlines hstart hs line t
  | enclosed atLineStart literal braces content after tag hliteral hcontent hbody _ ih =>
    have hafter : WholeLines after := hlines.of_append.of_append
    -- The last tag is not the end of the last line, so its line ends behind it.
    have hfeed : '\n' ∈ after := by
      refine hafter.lineFeed_mem ?_
      rintro rfl
      rw [List.append_nil] at hlines
      have hclosing : WholeLines braces.closing := hlines.of_append.of_append
      revert hclosing
      cases braces <;> simp [WholeLines, Braces.closing]
    rw [List.append_assoc, List.append_assoc, Token.scan_enclosed hliteral hcontent hbody,
      Token.scan_enclosed hliteral hcontent hbody, Site.ofTag_of_mem hfeed]
    have hsuffix := Site.rest_ofTag_suffix atLineStart literal (braces.wrap content) tag after
    have hcount := Site.lineFeeds_ofTag atLineStart literal (braces.wrap content) tag after
    have hrest := Site.alone_of_rest_eq_nil atLineStart literal (braces.wrap content) tag
      (List.ne_nil_of_mem hfeed)
    generalize Site.ofTag atLineStart literal (braces.wrap content) tag after = site at *
    have hline : line + (literal ++ (braces.wrap content ++ after)).lineFeeds =
        line + literal.lineFeeds + site.linesWithin + site.rest.lineFeeds := by
      simp only [Text.lineFeeds_append]
      omega
    rw [hline]
    exact ((ih (hafter.of_suffix hsuffix) hrest _).cons _).cons _

/-! ## Lines counted on -/

namespace Token

/-- The token as many lines further down. -/
def moved (lines : Nat) : Token → Token
  | text t => text t
  | tag found line => tag found (line + lines)
  | fault found line => fault found (line + lines)

theorem scan_add_line (lines : Nat) (atLineStart : Bool) (line : Nat) (t : Text) :
    scan atLineStart (line + lines) t = (scan atLineStart line t).map (moved lines) := by
  induction atLineStart, line, t using scan_induction with
  | plain atLineStart line t ht =>
    rw [scan_of_notInfix ht, scan_of_notInfix ht]
    rfl
  | unclosed atLineStart line literal braces body hliteral hbody hclosing =>
    rw [scan_unclosed hliteral hbody hclosing, scan_unclosed hliteral hbody hclosing,
      Nat.add_right_comm]
    rfl
  | refused atLineStart line literal braces content after fault hliteral hcontent hbody =>
    rw [scan_refused hliteral hcontent hbody, scan_refused hliteral hcontent hbody,
      Nat.add_right_comm]
    rfl
  | enclosed atLineStart line literal braces content after tag hliteral hcontent hbody ih =>
    rw [scan_enclosed hliteral hcontent hbody, scan_enclosed hliteral hcontent hbody,
      Nat.add_right_comm, Nat.add_right_comm _ lines, ih]
    rfl

@[simp] theorem event?_moved (lines : Nat) (token : Token) :
    (token.moved lines).event? = token.event? := by cases token <;> rfl

@[simp] theorem events_moved (lines : Nat) (tokens : List Token) :
    events (tokens.map (moved lines)) = events tokens := by
  simp [events, List.filterMap_map]

@[simp] theorem isFault_moved (lines : Nat) (token : Token) :
    (token.moved lines).isFault = token.isFault := by cases token <;> rfl

end Token

namespace Parser

variable {tokens : List Token} {opened opened' : List OpenSection}
  {siblings nodes : List Node} {e : ParseError}

theorem nest_moved_iff (lines : Nat) :
    nest (tokens.map (Token.moved lines)) [] [] = .ok nodes ↔ nest tokens [] [] = .ok nodes := by
  rw [nest_eq_ok_iff, nest_eq_ok_iff]
  simp

/-- What the parser finds wrong depends on the tokens and on the sections that are open, and not on
what was read before them. -/
theorem nest_moved_of_error {lines : Nat} (h : nest tokens opened siblings = .error e)
    (hopened : opened'.map (fun s => (s.name, s.line)) =
      opened.map fun s => (s.name, s.line + lines)) (siblings' : List Node) :
    nest (tokens.map (Token.moved lines)) opened' siblings' =
      .error { e with line := e.line + lines } := by
  fun_induction nest tokens opened siblings generalizing opened' siblings' with
  | case1 siblings => contradiction
  | case2 innermost outer siblings =>
    obtain ⟨s, rest, rfl, hs, -⟩ := List.map_eq_cons_iff.1 hopened
    obtain ⟨hname, hline⟩ := Prod.mk.inj hs
    cases h
    simp [nest, hname, hline]
  | case3 t tokens opened siblings ih => exact ih h hopened _
  | case4 fault line =>
    cases h
    rfl
  | case5 line tokens opened siblings ih => exact ih h hopened _
  | case6 name line tokens opened siblings ih => exact ih h hopened _
  | case7 name inverted line tokens opened siblings ih =>
    refine ih h ?_ []
    simp [hopened]
  | case8 name line =>
    obtain rfl : opened' = [] := List.map_eq_nil_iff.1 hopened
    cases h
    rfl
  | case9 line tokens innermost outer siblings ih =>
    obtain ⟨s, rest, rfl, hs, hrest⟩ := List.map_eq_cons_iff.1 hopened
    obtain ⟨hname, -⟩ := Prod.mk.inj hs
    rw [List.map_cons, Token.moved, nest, if_pos hname]
    exact ih h hrest _
  | case10 name line tokens innermost outer siblings hdiffers =>
    obtain ⟨s, rest, rfl, hs, -⟩ := List.map_eq_cons_iff.1 hopened
    obtain ⟨hname, -⟩ := Prod.mk.inj hs
    cases h
    rw [List.map_cons, Token.moved, nest, hname, if_neg hdiffers]

/-- What the parser reads to its end it reads in the same way inside other sections. -/
theorem nest_append_of_ok (h : nest tokens opened siblings = .ok nodes) (more : List Token)
    (outer : List OpenSection) :
    nest (tokens ++ more) (opened ++ outer) siblings = nest more outer nodes := by
  fun_induction nest tokens opened siblings with
  | case1 siblings =>
    cases h
    rfl
  | case3 t tokens opened siblings ih => exact ih h
  | case5 line tokens opened siblings ih => exact ih h
  | case6 name line tokens opened siblings ih => exact ih h
  | case7 name inverted line tokens opened siblings ih => exact ih h
  | case9 line tokens innermost inner siblings ih =>
    rw [List.cons_append, List.cons_append, nest, if_pos rfl]
    exact ih h
  | case2 | case4 | case8 | case10 => contradiction

end Parser

/-! ## Trees behind each other -/

/-- One list of siblings behind another. A text that ends the first and one that begins the second
are one text. -/
def Node.join (xs : List Node) : List Node → List Node
  | .text t :: ys => appendText xs t ++ ys
  | ys => xs ++ ys

section
variable {xs ys nodes : List Node} {tokens : List Token}

theorem flattenNodes_join (hxs : Event.Merged (flattenNodes xs))
    (hys : Event.Merged (flattenNodes ys)) :
    flattenNodes (Node.join xs ys) = (flattenNodes xs).foldr Event.cons (flattenNodes ys) := by
  have happend (hhead : ∀ f ∈ (flattenNodes ys).head?, f.isText = false) :
      flattenNodes (xs ++ ys) = (flattenNodes xs).foldr Event.cons (flattenNodes ys) := by
    rw [flattenNodes_append, (hxs.append_of_head hys hhead).foldr_cons]
  match ys, hys, happend with
  | [], _, happend => exact happend (by simp)
  | .interpolation _ :: _, _, happend | .block .. :: _, _, happend =>
    exact happend (by simp [Node.flatten, Event.isText])
  | .text t :: ys, hys, _ =>
    have hsplit : flattenNodes (.text t :: ys) = .text t :: flattenNodes ys := rfl
    rw [hsplit] at hys ⊢
    obtain ⟨-, hnext, hrest⟩ := Event.merged_cons_iff.1 hys
    have hmerged := (Node.merged_appendText hxs t).append_of_head hrest
      fun f hf => by simpa [Event.isText] using hnext f hf
    rw [Node.join, flattenNodes_append, ← hmerged.foldr_cons, Node.foldr_cons_appendText,
      hys.cons_eq]

theorem renderNodes_join (xs ys : List Node) (c : Context) :
    (renderNodes (Node.join xs ys) c).1 = (renderNodes xs c).1 ++ (renderNodes ys c).1 := by
  unfold Node.join
  split
  next t ys =>
    rw [renderNodes_append, renderNodes_appendText, renderNodes_cons, List.append_assoc]
    rfl
  next => exact renderNodes_append xs ys c

theorem Parser.nest_of_nest_nil (h : nest tokens [] [] = .ok ys)
    (hxs : Event.Merged (flattenNodes xs)) : nest tokens [] xs = .ok (Node.join xs ys) := by
  have hys := (nest_eq_ok_iff.1 h).2
  obtain ⟨built, hbuilt⟩ : ∃ built, nest tokens [] xs = .ok built :=
    exists_nest_iff.2 (exists_nest_iff.1 ⟨ys, h⟩)
  have hflatten := flattenNodes_of_nest hbuilt (by simp) hxs
  rw [hbuilt]
  refine congrArg Except.ok (flattenNodes_injective ?_)
  rw [hflatten, flattenNodes_join hxs (hys ▸ Event.merged_merge _), hys]
  rfl

end

/-! ## Sources behind each other -/

section
variable {a : Text} {n : List Node}

/-- Behind whole lines the parser goes on with the siblings it has. -/
theorem parse_append (ha : WholeLines a) (hn : parse a = .ok n) (b : Text) :
    parse (a ++ b) =
      Parser.nest ((Token.scan true 1 b).map (Token.moved a.lineFeeds)) [] n := by
  have hreadable := Token.readable_of_scan (Parser.nest_eq_ok_iff.1 hn).1
  have hnest := Parser.nest_append_of_ok hn (Token.scan true (1 + a.lineFeeds) b) []
  rw [List.append_nil] at hnest
  rw [parse, alike_scan_append b hreadable ha (fun _ => rfl), hnest, Token.scan_add_line]

/-- A source behind whole lines is accepted or refused as it is alone. Its tree follows that of the
lines, an error is that many lines further down, and the two are rendered one behind the other. -/
theorem parse_append_of_wholeLines (ha : WholeLines a) (hn : parse a = .ok n) (b : Text) :
    (∀ m, parse b = .ok m → parse (a ++ b) = .ok (Node.join n m) ∧
      ∀ data, render (Node.join n m) data = render n data ++ render m data) ∧
    ∀ e, parse b = .error e → parse (a ++ b) = .error { e with line := e.line + a.lineFeeds } := by
  refine ⟨fun m hm => ⟨?_, fun data => renderNodes_join n m (.ofRoot data)⟩, fun e he => ?_⟩
  · rw [parse_append ha hn]
    exact Parser.nest_of_nest_nil ((Parser.nest_moved_iff _).2 hm) (merged_flattenNodes_of_parse hn)
  · rw [parse_append ha hn]
    exact Parser.nest_moved_of_error he rfl n

theorem parse_append_of_wholeLines_section :
    let lines := "{{#x}}\n1\n{{/x}}\ny\n".toList
    let nodes := [.block (Name.ofText ['x']) false [.text ['1', '\n']], .text ['y', '\n']]
    WholeLines lines ∧ parse lines = .ok nodes ∧
      parse (lines ++ "z{{y}}".toList) =
        .ok (Node.join nodes [.text ['z'], .interpolation (Name.ofText ['y'])]) ∧
      parse (lines ++ "\n {{/x}}".toList) = .error ⟨6, .unexpectedClose ['x']⟩ := by
  have hlines : WholeLines "{{#x}}\n1\n{{/x}}\ny\n".toList := by decide
  have hnodes : parse "{{#x}}\n1\n{{/x}}\ny\n".toList =
      .ok [.block (Name.ofText ['x']) false [.text ['1', '\n']], .text ['y', '\n']] := by cbv
  have htext : parse "z{{y}}".toList = .ok [.text ['z'], .interpolation (Name.ofText ['y'])] := by
    cbv
  have herror : parse "\n {{/x}}".toList = .error ⟨2, .unexpectedClose ['x']⟩ := by cbv
  exact ⟨hlines, hnodes, ((parse_append_of_wholeLines hlines hnodes _).1 _ htext).1,
    (parse_append_of_wholeLines hlines hnodes _).2 _ herror⟩

end
end MustacheBuild
