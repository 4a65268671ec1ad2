import MustacheBuild.Diff.Operation

/-!
Operations as they are shown: a deletion and an insertion side by side become a replacement, and
long stretches that are kept are cut down to a context of a few lines.
-/
namespace MustacheBuild.Diff

/-- Neighbouring operations that are not yet complete. -/
structure Pending where
  kept : Option Operation
  deleted : Option Operation
  inserted : Option Operation

namespace Pending

def empty : Pending := ⟨none, none, none⟩

/-- What follows the last kept stretch: a replacement if something was deleted and inserted. -/
def change (p : Pending) : List Operation :=
  match p.deleted, p.inserted with
  | some d, some i => [⟨.replace, d.oldStart, d.oldLength, i.newStart, i.newLength⟩]
  | some d, none => [d]
  | none, some i => [i]
  | none, none => []

def join (first : Option Operation) (second : Operation) : Operation :=
  match first with
  | some o => o.absorb second
  | none => second

end Pending

/-- Joins neighbours. At most one of the kept stretch and the change is pending. -/
def replacements (p : Pending) : List Operation → List Operation
  | [] => p.kept.toList ++ p.change
  | o :: rest =>
    match o.tag with
    | .equal => p.change ++ replacements ⟨some (Pending.join p.kept o), none, none⟩ rest
    | .delete =>
      p.kept.toList ++ replacements ⟨none, some (Pending.join p.deleted o), p.inserted⟩ rest
    | .insert =>
      p.kept.toList ++ replacements ⟨none, p.deleted, some (Pending.join p.inserted o)⟩ rest
    | .replace => p.kept.toList ++ p.change ++ o :: replacements .empty rest

/-- The last elements of a kept stretch. -/
def keepLast (count : Nat) (o : Operation) : Operation :=
  let skipped := o.oldLength - count
  .equal (o.oldStart + skipped) (o.newStart + skipped) (o.oldLength - skipped)

/-- The first elements of a kept stretch. -/
def keepFirst (count : Nat) (o : Operation) : Operation :=
  .equal o.oldStart o.newStart (min count o.oldLength)

/-- Cuts a kept stretch at the start to its end. -/
def trimFirst (context : Nat) : List Operation → List Operation
  | o :: rest => (if o.tag = .equal then keepLast context o else o) :: rest
  | [] => []

/-- Cuts a kept stretch at the end to its start. -/
def trimLast (context : Nat) : List Operation → List Operation
  | [] => []
  | [o] => [if o.tag = .equal then keepFirst context o else o]
  | o :: rest => o :: trimLast context rest

/-- Splits the operations where a kept stretch is longer than the context of both its sides; `done`
holds the hunk so far, last first. A last hunk without a change is none. -/
def splitHunks (context : Nat) (done : List Operation) : List Operation → List (List Operation)
  | [] => if done.all (·.tag = .equal) then [] else [done.reverse]
  | o :: rest =>
    if o.tag = .equal && 2 * context < o.oldLength then
      (keepFirst context o :: done).reverse :: splitHunks context [keepLast context o] rest
    else splitHunks context (o :: done) rest

/-- The hunks of a list of operations, with so many lines of context. -/
def hunks (context : Nat) (operations : List Operation) : List (List Operation) :=
  splitHunks context [] (trimLast context (trimFirst context (replacements .empty operations)))

end MustacheBuild.Diff
