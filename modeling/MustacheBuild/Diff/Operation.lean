/-!
Operations that turn one list into another. Each covers a range of the old list and one of the new,
of which a deletion leaves the second empty and an insertion the first.
-/
namespace MustacheBuild.Diff

inductive Tag where
  | equal
  | delete
  | insert
  /-- A deletion and an insertion at the same place. -/
  | replace
  deriving DecidableEq, Repr

structure Operation where
  tag : Tag
  oldStart : Nat
  oldLength : Nat
  newStart : Nat
  newLength : Nat
  deriving DecidableEq, Repr

namespace Operation

def equal (oldStart newStart length : Nat) : Operation :=
  ⟨.equal, oldStart, length, newStart, length⟩

def delete (oldStart oldLength newStart : Nat) : Operation :=
  ⟨.delete, oldStart, oldLength, newStart, 0⟩

def insert (oldStart newStart newLength : Nat) : Operation :=
  ⟨.insert, oldStart, 0, newStart, newLength⟩

def oldEnd (o : Operation) : Nat := o.oldStart + o.oldLength

def newEnd (o : Operation) : Nat := o.newStart + o.newLength

/-- What an operation covers of the old list. -/
def oldRange {α : Type} (o : Operation) (old : List α) : List α :=
  (old.drop o.oldStart).take o.oldLength

/-- What an operation covers of the new list. -/
def newRange {α : Type} (o : Operation) (new : List α) : List α :=
  (new.drop o.newStart).take o.newLength

/-- Makes both ranges longer, as a neighbour of the same kind is taken in. -/
def absorb (o other : Operation) : Operation :=
  { o with oldLength := o.oldLength + other.oldLength, newLength := o.newLength + other.newLength }

end Operation

/-- The number of elements on which two lists begin alike. -/
def commonStart {α : Type} [DecidableEq α] : List α → List α → Nat
  | a :: as, b :: bs => if a = b then commonStart as bs + 1 else 0
  | _, _ => 0

/-- The number of elements on which two lists end alike. -/
def commonEnd {α : Type} [DecidableEq α] (old new : List α) : Nat :=
  commonStart old.reverse new.reverse

end MustacheBuild.Diff
