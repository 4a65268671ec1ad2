import MustacheBuild.Store.FileSystem

/-!
A file system with faults that are planned in advance: from some access on, all reads or all writes
of a path fail. Of several faults of a path each counts its accesses, and the one that was planned
first wins. A write that fails writes nothing.
-/
namespace MustacheBuild

structure Fault where
  /-- The number of accesses that still go through. -/
  remaining : Nat
  message : String
  deriving DecidableEq, Repr

/-- An access to a path with the given faults: the error if it fails, and what is left of them. -/
def Fault.spend : List Fault → Option IoError × List Fault
  | [] => (none, [])
  | fault :: rest =>
    match fault.remaining with
    | 0 => (some ⟨.other, none, fault.message⟩, fault :: rest)
    | n + 1 =>
      let (error, left) := spend rest
      (error, { fault with remaining := n } :: left)

/-- The faults of each path, in the order in which they were planned. -/
abbrev FaultPlan := List Path.Component → List Fault

namespace FaultPlan

def none : FaultPlan := fun _ => []

/-- The plan with other faults for a path. -/
def set (plan : FaultPlan) (p : Path) (faults : List Fault) : FaultPlan :=
  fun key => if key = p.components then faults else plan key

def add (plan : FaultPlan) (p : Path) (fault : Fault) : FaultPlan :=
  plan.set p (plan p.components ++ [fault])

/-- An access to a path: the error if it fails, and the plan for later ones. -/
def access (plan : FaultPlan) (p : Path) : Option IoError × FaultPlan :=
  let (error, left) := Fault.spend (plan p.components)
  (error, plan.set p left)

end FaultPlan

/-- A file system `σ` with its faults. -/
structure Faulty (σ : Type) where
  inner : σ
  reads : FaultPlan
  writes : FaultPlan

namespace Faulty

def ofStore {σ : Type} (inner : σ) : Faulty σ := ⟨inner, .none, .none⟩

/-- Acts on the file system within, where no fault applies. -/
def lift {σ α : Type} (action : StateM σ α) : StateM (Faulty σ) α := fun s =>
  let (a, inner) := action s.inner
  (a, { s with inner })

instance {σ : Type} [FileSystem (StateM σ)] : FileSystem (StateM (Faulty σ)) where
  isFile p := lift (FileSystem.isFile p)
  read p := fun s =>
    match s.reads.access p with
    | (some e, reads) => (.error e, { s with reads })
    | (none, reads) => lift (FileSystem.read p) { s with reads }
  write p content := fun s =>
    match s.writes.access p with
    | (some e, writes) => (.error e, { s with writes })
    | (none, writes) => lift (FileSystem.write p content) { s with writes }

end Faulty
end MustacheBuild
