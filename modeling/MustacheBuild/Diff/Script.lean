import MustacheBuild.Diff.Operation

/-!
The operations between two lists, by divide and conquer: what is common to both at the start and at
the end is cut off, and the rest is split in the middle of a path with the fewest deletions and
insertions, which is searched from both ends at once. Any split gives operations that are right; the
search only makes them few.
-/
namespace MustacheBuild.Diff

/-- How far the search has come on each diagonal. -/
structure Frontier where
  /-- Reaches by diagonal, the diagonals counted from `-offset` on. -/
  reaches : Array Nat
  offset : Nat

namespace Frontier

def start (size : Nat) : Frontier := ⟨Array.replicate (2 * size + 3) 0, size + 1⟩

def reach (f : Frontier) (diagonal : Int) : Nat := f.reaches.getD (diagonal + f.offset).toNat 0

def set (f : Frontier) (diagonal : Int) (value : Nat) : Frontier :=
  { f with reaches := f.reaches.setIfInBounds (diagonal + f.offset).toNat value }

/-- Where the search stands on a diagonal after one more step: it comes from the neighbour that
has come further. -/
def advance (f : Frontier) (depth diagonal : Int) : Nat :=
  if diagonal = -depth ||
      (diagonal != depth && f.reach (diagonal - 1) < f.reach (diagonal + 1)) then
    f.reach (diagonal + 1)
  else f.reach (diagonal - 1) + 1

end Frontier

/-- The diagonals that are reached with so many steps, from the highest down. -/
def diagonals (depth : Nat) : List Int :=
  (List.range (depth + 1)).map fun i : Nat => (depth : Int) - 2 * (i : Int)

section
variable {α : Type} [DecidableEq α] (old new : List α)

/-- One step forward on all diagonals, or the split where it meets the search from the end. -/
def forward (depth : Nat) (front back : Frontier) : List Int → (Nat × Nat) ⊕ Frontier
  | [] => .inr front
  | k :: ks =>
    let delta : Int := (old.length : Int) - new.length
    let x₀ := front.advance depth k
    let y₀ := (x₀ : Int) - k
    let x := if x₀ < old.length && 0 ≤ y₀ && y₀ < new.length then
      x₀ + commonStart (old.drop x₀) (new.drop y₀.toNat) else x₀
    let front := front.set k x
    if delta % 2 != 0 && (k - delta).natAbs + 1 ≤ depth
        && old.length ≤ x + back.reach (delta - k) then .inl (x₀, y₀.toNat)
    else forward depth front back ks

/-- One step backward on all diagonals, or the split where it meets the search from the start. -/
def backward (depth : Nat) (front back : Frontier) : List Int → (Nat × Nat) ⊕ Frontier
  | [] => .inr back
  | k :: ks =>
    let delta : Int := (old.length : Int) - new.length
    let x₀ := back.advance depth k
    let y₀ := (x₀ : Int) - k
    let common := if x₀ < old.length && 0 ≤ y₀ && y₀ < new.length then
      commonEnd (old.take (old.length - x₀)) (new.take (new.length - y₀.toNat)) else 0
    let x := x₀ + common
    let y := y₀ + common
    let back := back.set k x
    if delta % 2 = 0 && (k - delta).natAbs ≤ depth
        && old.length ≤ x + front.reach (delta - k) then
      .inl (old.length - x, ((new.length : Int) - y).toNat)
    else backward depth front back ks

/-- Takes turns from both ends, with one more deletion or insertion each time. -/
def search (front back : Frontier) : Nat → Nat → Option (Nat × Nat)
  | 0, _ => none
  | rounds + 1, depth =>
    match forward old new depth front back (diagonals depth) with
    | .inl split => some split
    | .inr front =>
      match backward old new depth front back (diagonals depth) with
      | .inl split => some split
      | .inr back => search front back rounds (depth + 1)

/-- Where to split two lists so that both parts need few operations. -/
def middle? : Option (Nat × Nat) :=
  let rounds := (old.length + new.length + 1) / 2 + 1
  search old new (.start rounds) (.start rounds) rounds 0

end

/-- An operation that keeps elements, if there are any. -/
def keep (oldStart newStart length : Nat) : List Operation :=
  if length = 0 then [] else [.equal oldStart newStart length]

/-- The operations from `old`, which begins at `i`, to `new`, which begins at `j`. The fuel bounds
how often the lists are split. -/
def scriptFrom {α : Type} [DecidableEq α] :
    Nat → Nat → Nat → List α → List α → List Operation
  | fuel, i, j, old, new =>
    let ahead := commonStart old new
    let old := old.drop ahead
    let new := new.drop ahead
    let behind := commonEnd old new
    let old := old.take (old.length - behind)
    let new := new.take (new.length - behind)
    let i' := i + ahead
    let j' := j + ahead
    let change : List Operation :=
      if new.isEmpty then (if old.isEmpty then [] else [.delete i' old.length j'])
      else if old.isEmpty then [.insert i' j' new.length]
      else
        match fuel, middle? old new with
        | fuel + 1, some (x, y) =>
          scriptFrom fuel i' j' (old.take x) (new.take y) ++
            scriptFrom fuel (i' + x) (j' + y) (old.drop x) (new.drop y)
        | _, _ => [.delete i' old.length j', .insert i' j' new.length]
    keep i j ahead ++ change ++ keep (i' + old.length) (j' + new.length) behind

/-- The operations that turn `old` into `new`. -/
def script {α : Type} [DecidableEq α] (old new : List α) : List Operation :=
  scriptFrom (old.length + new.length) 0 0 old new

end MustacheBuild.Diff
