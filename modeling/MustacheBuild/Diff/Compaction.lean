import MustacheBuild.Diff.Operation

/-!
Moves deletions and insertions along the elements that are kept, so that they come together with
others of their kind. First the deletions are moved and then the insertions; each goes up as far as
it can and then down.
-/
namespace MustacheBuild.Diff

/-- A list of operations with one of them in view. -/
structure Focus where
  /-- The operations before, the nearest first. -/
  before : List Operation
  current : Operation
  after : List Operation

namespace Focus

/-- Makes an `equal` operation begin earlier, or puts one in front of others. -/
def growLeft (length : Nat) (new : Operation) : List Operation → List Operation
  | next :: rest =>
    if next.tag = .equal then
      .equal (next.oldStart - length) (next.newStart - length) (next.oldLength + length) :: rest
    else new :: next :: rest
  | [] => [new]

/-- Makes an `equal` operation end later, or puts one behind others, the nearest of which is
first. -/
def growRight (length : Nat) (new : Operation) : List Operation → List Operation
  | previous :: rest =>
    if previous.tag = .equal then
      .equal previous.oldStart previous.newStart (previous.oldLength + length) :: rest
    else new :: previous :: rest
  | [] => [new]

/-- An `equal` operation in front of others unless it is empty. -/
def unlessEmpty (o : Operation) (rest : List Operation) : List Operation :=
  if o.oldLength = 0 then rest else o :: rest

section
variable {α : Type} [DecidableEq α] (old new : List α)

/-- Moves the current operation up. The fuel bounds the number of moves. -/
def up : Nat → Focus → Focus
  | 0, f => f
  | fuel + 1, f =>
    match f.before with
    | [] => f
    | previous :: before =>
      let t := f.current
      if previous.tag = .equal then
        let common := commonEnd (previous.oldRange old) (t.newRange new)
        if 0 < common then
          let moved := .equal (previous.oldEnd - common) (t.newEnd - common) common
          up fuel
            { before := unlessEmpty (.equal previous.oldStart previous.newStart
                (previous.oldLength - common)) before
              current := { t with oldStart := t.oldStart - common, newStart := t.newStart - common }
              after := growLeft common moved f.after }
        else if previous.oldLength = 0 then up fuel { f with before }
        else f
      else if previous.tag = t.tag then up fuel { f with before, current := previous.absorb t }
      else up fuel { f with before, after := previous :: f.after }

/-- Moves the current operation down. The fuel bounds the number of moves. -/
def down : Nat → Focus → Focus
  | 0, f => f
  | fuel + 1, f =>
    match f.after with
    | [] => f
    | next :: after =>
      let t := f.current
      if next.tag = .equal then
        let common := commonStart (next.oldRange old) (t.newRange new)
        if 0 < common then
          let moved := .equal next.oldStart t.newStart common
          down fuel
            { before := growRight common moved f.before
              current := { t with oldStart := t.oldStart + common, newStart := t.newStart + common }
              after := unlessEmpty (.equal (next.oldStart + common) (next.newStart + common)
                (next.oldLength - common)) after }
        else if next.oldLength = 0 then down fuel { f with after }
        else f
      else if next.tag = t.tag then down fuel { f with current := t.absorb next, after }
      else down fuel { f with before := next :: f.before, after }

end
end Focus

/-- More moves than a list of operations admits. -/
def moves (operations : List Operation) : Nat :=
  operations.foldl (fun n o => n + (o.oldLength + o.newLength + 1)) 0

/-- Moves every operation of one kind, from behind those in `before`. -/
def compactTag {α : Type} [DecidableEq α] (old new : List α) (tag : Tag) (limit : Nat) :
    Nat → List Operation → List Operation → List Operation
  | 0, before, after => before.reverse ++ after
  | _ + 1, before, [] => before.reverse
  | fuel + 1, before, o :: after =>
    if o.tag = tag then
      let f := Focus.down old new limit (Focus.up old new limit ⟨before, o, after⟩)
      compactTag old new tag limit fuel (f.current :: f.before) f.after
    else compactTag old new tag limit fuel (o :: before) after

def compact {α : Type} [DecidableEq α] (old new : List α) (operations : List Operation) :
    List Operation :=
  let limit := moves operations
  let pass (tag : Tag) (operations : List Operation) :=
    compactTag old new tag limit (limit * limit) [] operations
  pass .insert (pass .delete operations)

end MustacheBuild.Diff
