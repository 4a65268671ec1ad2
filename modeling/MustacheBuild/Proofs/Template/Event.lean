import Mathlib.Data.List.Chain
import Mathlib.Data.List.Permutation
import MustacheBuild.Template.Parser

/-!
A tree as the sequence of what it says, in the order of its source: text, values, and the ends of
sections. A tree is determined by its sequence, and the parser builds the tree whose sequence is
that of the tokens, with text put together.
-/
namespace MustacheBuild

inductive Event where
  | text (content : Text)
  | interpolation (name : Name)
  | opening (name : Name) (inverted : Bool)
  | closing (name : Name)
  deriving DecidableEq, Repr

/-! ## Text put together -/

namespace Event

variable {e : Event} {es fs : List Event} {t u : Text}

def isText : Event → Bool
  | text _ => true
  | _ => false

/-- Puts an event in front of others. Text is joined to the text that stands first, and empty text
is left out. -/
def cons : Event → List Event → List Event
  | text t, text u :: es => text (t ++ u) :: es
  | text t, es => if t.isEmpty then es else text t :: es
  | e, es => e :: es

/-- The events with neighbouring texts joined, and without empty text. -/
def merge (es : List Event) : List Event := es.foldr cons []

/-- No text is empty or stands beside another. -/
structure Merged (es : List Event) : Prop where
  notEmpty : text [] ∉ es
  apart : es.IsChain fun e f => ¬ (e.isText = true ∧ f.isText = true)

@[simp] theorem merge_nil : merge [] = [] := rfl

theorem merge_cons (e : Event) (es : List Event) : merge (e :: es) = cons e (merge es) := rfl

theorem merge_append (es fs : List Event) : merge (es ++ fs) = es.foldr cons (merge fs) :=
  List.foldr_append

theorem cons_of_not_isText (h : e.isText = false) (es : List Event) : cons e es = e :: es := by
  cases e with
  | text t => contradiction
  | interpolation name => cases es <;> rfl
  | opening name inverted => cases es <;> rfl
  | closing name => cases es <;> rfl

@[simp] theorem cons_empty (es : List Event) : cons (text []) es = es := by
  cases es with
  | nil => rfl
  | cons f es => cases f <;> rfl

theorem cons_text (h : t ≠ []) (hes : ∀ f ∈ es.head?, f.isText = false) :
    cons (text t) es = text t :: es := by
  have hempty : t.isEmpty = false := by simpa using h
  cases es with
  | nil => simp [cons, hempty]
  | cons f es =>
    have hf := hes f rfl
    cases f with
    | text u => contradiction
    | _ => simp [cons, hempty]

theorem head_cases (es : List Event) :
    (∀ f ∈ es.head?, f.isText = false) ∨ ∃ u fs, es = text u :: fs := by
  match es with
  | text u :: fs => exact Or.inr ⟨u, fs, rfl⟩
  | [] | interpolation _ :: _ | opening _ _ :: _ | closing _ :: _ => exact Or.inl (by simp [isText])

theorem cons_text_cons_text (t u : Text) (es : List Event) :
    cons (text t) (cons (text u) es) = cons (text (t ++ u)) es := by
  by_cases hu : u = []
  · rw [hu, cons_empty, List.append_nil]
  rcases head_cases es with htext | ⟨v, es, rfl⟩
  · rw [cons_text hu htext, cons_text (by simp [hu]) htext]
    rfl
  · simp [cons]

theorem merged_cons_iff : Merged (e :: es) ↔
    e ≠ text [] ∧ (∀ f ∈ es.head?, ¬ (e.isText = true ∧ f.isText = true)) ∧ Merged es := by
  constructor
  · intro h
    obtain ⟨hnext, happart⟩ := List.isChain_cons.1 h.apart
    exact ⟨fun he => h.notEmpty (by simp [he]), hnext,
      fun hmem => h.notEmpty (List.mem_cons_of_mem e hmem), happart⟩
  · rintro ⟨he, hnext, h⟩
    refine ⟨fun hmem => ?_, List.isChain_cons.2 ⟨hnext, h.apart⟩⟩
    rcases List.mem_cons.1 hmem with hhead | htail
    · exact he hhead.symm
    · exact h.notEmpty htail

theorem merged_append_iff : Merged (es ++ fs) ↔ Merged es ∧ Merged fs ∧
    ∀ e ∈ es.getLast?, ∀ f ∈ fs.head?, ¬ (e.isText = true ∧ f.isText = true) := by
  constructor
  · intro h
    obtain ⟨hes, hfs, hmeet⟩ := List.isChain_append.1 h.apart
    exact ⟨⟨fun hmem => h.notEmpty (List.mem_append_left fs hmem), hes⟩,
      ⟨fun hmem => h.notEmpty (List.mem_append_right es hmem), hfs⟩, hmeet⟩
  · rintro ⟨hes, hfs, hmeet⟩
    refine ⟨fun hmem => ?_, List.isChain_append.2 ⟨hes.apart, hfs.apart, hmeet⟩⟩
    rcases List.mem_append.1 hmem with hleft | hright
    · exact hes.notEmpty hleft
    · exact hfs.notEmpty hright

theorem merged_singleton_iff : Merged [e] ↔ e ≠ text [] :=
  ⟨fun h he => h.notEmpty (by simp [he]),
    fun he => ⟨by simpa using he.symm, List.isChain_singleton e⟩⟩

theorem Merged.append_of_head (hes : Merged es) (hfs : Merged fs)
    (hhead : ∀ f ∈ fs.head?, f.isText = false) : Merged (es ++ fs) :=
  merged_append_iff.2 ⟨hes, hfs, fun _ _ f hf => by simp [hhead f hf]⟩

theorem Merged.cons_eq (h : Merged (e :: es)) : cons e es = e :: es := by
  obtain ⟨he, hnext, -⟩ := merged_cons_iff.1 h
  cases e with
  | text t =>
    exact cons_text (fun ht => he (by rw [ht])) fun f hf => by simpa [isText] using hnext f hf
  | _ => exact cons_of_not_isText rfl es

theorem Merged.foldr_cons (h : Merged (es ++ fs)) : es.foldr cons fs = es ++ fs := by
  induction es with
  | nil => rfl
  | cons e es ih =>
    rw [List.foldr_cons, ih (merged_cons_iff.1 h).2.2]
    exact h.cons_eq

theorem Merged.merge_eq (h : Merged es) : merge es = es := by
  rw [← List.append_nil es] at h
  rw [merge, h.foldr_cons, List.append_nil]

theorem Merged.cons_of_not_isText (h : Merged es) (he : e.isText = false) : Merged (e :: es) :=
  merged_cons_iff.2 ⟨by rintro rfl; contradiction, by simp [he], h⟩

theorem Merged.cons (h : Merged es) (e : Event) : Merged (cons e es) := by
  cases e with
  | text t =>
    by_cases ht : t = []
    · rw [ht, cons_empty]
      exact h
    rcases head_cases es with htext | ⟨u, es, rfl⟩
    · rw [cons_text ht htext]
      exact merged_cons_iff.2 ⟨by simpa using ht, fun f hf => by simp [htext f hf], h⟩
    · obtain ⟨-, hnext, hes⟩ := merged_cons_iff.1 h
      exact merged_cons_iff.2 ⟨by simp [ht], hnext, hes⟩
  | _ =>
    rw [Event.cons_of_not_isText rfl]
    exact h.cons_of_not_isText rfl

theorem merged_merge (es : List Event) : Merged (merge es) := by
  induction es with
  | nil => exact ⟨by simp, List.isChain_nil⟩
  | cons e es ih => exact ih.cons e

/-- What tags say. -/
def withoutText (es : List Event) : List Event := es.filter fun e => !e.isText

@[simp] theorem withoutText_nil : withoutText [] = [] := rfl

@[simp] theorem withoutText_append (es fs : List Event) :
    withoutText (es ++ fs) = withoutText es ++ withoutText fs := List.filter_append ..

@[simp] theorem withoutText_text_cons (t : Text) (es : List Event) :
    withoutText (text t :: es) = withoutText es := rfl

theorem withoutText_cons_of_not_isText (h : e.isText = false) (es : List Event) :
    withoutText (e :: es) = e :: withoutText es := by simp [withoutText, h]

theorem withoutText_cons_text (t : Text) (es : List Event) :
    withoutText (cons (text t) es) = withoutText es := by
  by_cases ht : t = []
  · rw [ht, cons_empty]
  rcases head_cases es with htext | ⟨u, es, rfl⟩
  · rw [cons_text ht htext, withoutText_text_cons]
  · rfl

theorem withoutText_merge (es : List Event) : withoutText (merge es) = withoutText es := by
  induction es with
  | nil => rfl
  | cons e es ih =>
    rw [merge_cons]
    cases e with
    | text t => rw [withoutText_cons_text, withoutText_text_cons, ih]
    | _ => rw [cons_of_not_isText rfl, withoutText_cons_of_not_isText rfl,
        withoutText_cons_of_not_isText rfl, ih]

/-- The text of an event. Tags have none. -/
def toText : Event → Text
  | text t => t
  | _ => []

theorem flatMap_toText_cons (e : Event) (es : List Event) :
    (cons e es).flatMap toText = e.toText ++ es.flatMap toText := by
  cases e with
  | text t =>
    by_cases ht : t = []
    · simp [ht, toText]
    rcases head_cases es with hes | ⟨u, es, rfl⟩
    · rw [cons_text ht hes, List.flatMap_cons]
    · simp [cons, toText]
  | _ => rw [cons_of_not_isText rfl, List.flatMap_cons]

theorem flatMap_toText_merge (es : List Event) :
    (merge es).flatMap toText = es.flatMap toText := by
  induction es with
  | nil => rfl
  | cons e es ih => rw [merge_cons, flatMap_toText_cons, ih, List.flatMap_cons]

end Event

/-! ## Trees in the order of their source -/

mutual

/-- What a node says. -/
def Node.flatten : Node → List Event
  | .text t => [.text t]
  | .interpolation name => [.interpolation name]
  | .block name inverted children =>
    .opening name inverted :: (flattenNodes children ++ [.closing name])

def flattenNodes : List Node → List Event
  | [] => []
  | node :: rest => node.flatten ++ flattenNodes rest

end

@[simp] theorem flattenNodes_nil : flattenNodes [] = [] := rfl

@[simp] theorem flattenNodes_cons (node : Node) (rest : List Node) :
    flattenNodes (node :: rest) = node.flatten ++ flattenNodes rest := rfl

@[simp] theorem flattenNodes_append (xs ys : List Node) :
    flattenNodes (xs ++ ys) = flattenNodes xs ++ flattenNodes ys := by
  induction xs with
  | nil => rfl
  | cons x xs ih => simp [ih]

/-- All the text of a tree. -/
def allText (nodes : List Node) : Text := (flattenNodes nodes).flatMap Event.toText

namespace Node

variable {siblings : List Node}

theorem appendText_of_text (init : List Node) (u t : Text) :
    appendText (init ++ [text u]) t = init ++ [text (u ++ t)] := by
  by_cases ht : t = []
  · simp [appendText, ht]
  · simp [appendText, ht]

/-- The siblings end with a text, or text is put behind them as a node. -/
theorem appendText_cases (siblings : List Node) :
    (∃ init u, siblings = init ++ [text u]) ∨
      (∀ e ∈ (flattenNodes siblings).getLast?, e.isText = false) ∧
        ∀ t, appendText siblings t = siblings ++ if t.isEmpty then [] else [text t] := by
  rcases siblings.eq_nil_or_concat' with rfl | ⟨init, node, rfl⟩
  · refine Or.inr ⟨by simp, fun t => ?_⟩
    unfold appendText
    split <;> rfl
  · cases node with
    | text u => exact Or.inl ⟨init, u, rfl⟩
    | interpolation name =>
      refine Or.inr ⟨by simp [flatten, Event.isText], fun t => ?_⟩
      by_cases ht : t.isEmpty <;> simp [appendText, ht]
    | block name inverted children =>
      have hlast : flattenNodes (init ++ [block name inverted children]) =
          flattenNodes init ++ .opening name inverted :: flattenNodes children ++
            [.closing name] := by simp [flatten]
      rw [hlast, List.getLast?_concat]
      refine Or.inr ⟨by simp [Event.isText], fun t => ?_⟩
      by_cases ht : t.isEmpty <;> simp [appendText, ht]

theorem appendText_appendText (siblings : List Node) (t u : Text) :
    appendText (appendText siblings t) u = appendText siblings (t ++ u) := by
  rcases appendText_cases siblings with ⟨init, v, rfl⟩ | ⟨-, hcase⟩
  · simp only [appendText_of_text, List.append_assoc]
  · rw [hcase t]
    split
    next ht => rw [List.isEmpty_iff.1 ht, List.append_nil, List.nil_append]
    next ht =>
      have ht : t ≠ [] := by simpa using ht
      simp [appendText_of_text, hcase, ht]

/-- Text behind the siblings stands in front of what follows them. -/
theorem foldr_cons_appendText (siblings : List Node) (t : Text) (es : List Event) :
    (flattenNodes (appendText siblings t)).foldr Event.cons es =
      (flattenNodes siblings).foldr Event.cons (Event.cons (.text t) es) := by
  rcases appendText_cases siblings with ⟨init, u, rfl⟩ | ⟨-, hcase⟩
  · rw [appendText_of_text, flattenNodes_append, flattenNodes_append, List.foldr_append,
      List.foldr_append]
    exact congrArg (List.foldr Event.cons · _) (Event.cons_text_cons_text u t es).symm
  · rw [hcase]
    split
    next ht => rw [List.isEmpty_iff.1 ht, Event.cons_empty, List.append_nil]
    next => simp [flatten]

theorem merged_appendText (h : Event.Merged (flattenNodes siblings)) (t : Text) :
    Event.Merged (flattenNodes (appendText siblings t)) := by
  rcases appendText_cases siblings with ⟨init, u, rfl⟩ | ⟨hlast, hcase⟩
  · rw [appendText_of_text]
    rw [flattenNodes_append] at h ⊢
    obtain ⟨hinit, hu, hmeet⟩ := Event.merged_append_iff.1 h
    have hu : u ≠ [] := by simpa using Event.merged_singleton_iff.1 hu
    refine Event.merged_append_iff.2 ⟨hinit, Event.merged_singleton_iff.2 (by simp [hu]), ?_⟩
    intro e he f hf
    obtain rfl : Event.text (u ++ t) = f := Option.some.inj hf
    exact hmeet e he (.text u) rfl
  · rw [hcase]
    split
    next => rwa [List.append_nil]
    next ht =>
      rw [flattenNodes_append]
      refine Event.merged_append_iff.2 ⟨h, Event.merged_singleton_iff.2 (by simpa using ht), ?_⟩
      intro e he f _
      simp [hlast e he]

end Node

/-- The sequence can only go on with the end of a section. -/
def Event.Stops (es : List Event) : Prop := ∀ e ∈ es.head?, ∃ name, e = .closing name

theorem Node.not_stops_flatten_append (node : Node) (es : List Event) :
    ¬ Event.Stops (node.flatten ++ es) := by
  intro h
  cases node with
  | text t => simpa using h _ rfl
  | interpolation name => simpa using h _ rfl
  | block name inverted children => simpa using h _ rfl

mutual

theorem Node.flatten_append_inj {es fs : List Event} :
    ∀ {x y : Node}, x.flatten ++ es = y.flatten ++ fs → x = y ∧ es = fs
  | .text t, .text u, h => by simpa [Node.flatten] using h
  | .interpolation name, .interpolation other, h => by simpa [Node.flatten] using h
  | .block name inverted children, .block other inverted' children', h => by
    simp only [Node.flatten, List.cons_append, List.cons.injEq, Event.opening.injEq,
      List.append_assoc] at h
    obtain ⟨⟨rfl, rfl⟩, hrest⟩ := h
    have hstops (es : List Event) : Event.Stops (.closing name :: es) := by simp [Event.Stops]
    obtain ⟨rfl, hclose⟩ := flattenNodes_append_inj (hstops es) (hstops fs) hrest
    exact ⟨rfl, (List.cons.inj hclose).2⟩
  | .text _, .interpolation _, h | .text _, .block .., h | .interpolation _, .text _, h
  | .interpolation _, .block .., h | .block .., .text _, h | .block .., .interpolation _, h => by
    simp [Node.flatten] at h

/-- A sequence is that of one list of siblings at most, wherever the siblings end. -/
theorem flattenNodes_append_inj {es fs : List Event} (hes : Event.Stops es)
    (hfs : Event.Stops fs) :
    ∀ {xs ys : List Node}, flattenNodes xs ++ es = flattenNodes ys ++ fs → xs = ys ∧ es = fs
  | [], [], h => ⟨rfl, h⟩
  | [], y :: ys, h => by
    rw [flattenNodes_nil, List.nil_append, flattenNodes_cons, List.append_assoc] at h
    exact absurd (h ▸ hes) (y.not_stops_flatten_append _)
  | x :: xs, [], h => by
    rw [flattenNodes_nil, List.nil_append, flattenNodes_cons, List.append_assoc] at h
    exact absurd (h ▸ hfs) (x.not_stops_flatten_append _)
  | x :: xs, y :: ys, h => by
    rw [flattenNodes_cons, flattenNodes_cons, List.append_assoc, List.append_assoc] at h
    obtain ⟨rfl, hrest⟩ := Node.flatten_append_inj h
    obtain ⟨rfl, hend⟩ := flattenNodes_append_inj hes hfs hrest
    exact ⟨rfl, hend⟩

end

theorem flattenNodes_injective {xs ys : List Node} (h : flattenNodes xs = flattenNodes ys) :
    xs = ys := by
  have hstops : Event.Stops [] := by simp [Event.Stops]
  exact (flattenNodes_append_inj hstops hstops (congrArg (· ++ []) h)).1

end MustacheBuild
