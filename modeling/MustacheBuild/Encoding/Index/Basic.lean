import MustacheBuild.Encoding.Decoder

/-!
Indexes of the East Asian sets: which cell of a set holds which character. Cells are counted row by
row from zero.
-/
namespace MustacheBuild.Encoding

/-- Cells that follow each other. -/
inductive Segment where
  | chars (s : String)
  /-- Characters that follow each other in Unicode as well. -/
  | run (first count : Nat)
  /-- Empty cells. -/
  | gap (count : Nat)

def Segment.cells : Segment → List (Option Char)
  | chars s => s.toList.map some
  | run first count => (List.range count).map fun i => charOf? (first + i)
  | gap count => List.replicate count none

structure Index where
  cells : Array (Option Char)

namespace Index

def ofSegments (segments : List Segment) : Index := ⟨(segments.flatMap Segment.cells).toArray⟩

/-- The character of a cell. -/
def char? (index : Index) (pointer : Nat) : Option Char := index.cells[pointer]?.join

/-- The first cell of a character. -/
def pointer? (index : Index) (c : Char) : Option Nat := index.cells.findIdx? (· == some c)

/-- The index with some of its cells empty. -/
def without (index : Index) (skips : Nat → Bool) : Index :=
  ⟨index.cells.mapIdx fun pointer c => if skips pointer then none else c⟩

theorem char?_of_pointer? {index : Index} {c : Char} {pointer : Nat}
    (h : index.pointer? c = some pointer) : index.char? pointer = some c := by
  obtain ⟨hlt, hc, -⟩ := Array.findIdx?_eq_some_iff_getElem.mp h
  simp [char?, Array.getElem?_eq_getElem hlt, eq_of_beq hc]

end Index
end MustacheBuild.Encoding
