import MustacheBuild.Diff.Compaction
import MustacheBuild.Diff.Hunk
import MustacheBuild.Diff.Script
import MustacheBuild.Path.Basic

/-!
Unified diffs of two texts.
-/
namespace MustacheBuild.Diff

/-- The lines of a text with their ends: a line feed, a carriage return, or both in this order. -/
def lines : Text → List Text
  | [] => []
  | '\r' :: '\n' :: rest => ['\r', '\n'] :: lines rest
  | c :: rest =>
    if c = '\n' || c = '\r' then [c] :: lines rest
    else match lines rest with
      | [] => [[c]]
      | line :: more => (c :: line) :: more

/-- The lines that are shown around a change. -/
def context : Nat := 3

/-- The place of a range in a header: the first line and the number of lines, which goes without
saying when it is one. -/
def range (start length : Nat) : String :=
  if length = 1 then toString (start + 1)
  else if length = 0 then s!"{start},0"
  else s!"{start + 1},{length}"

def noLineEnd : Text := "\n\\ No newline at end of file\n".toList

/-- A line with its sign. A last line that has no end is marked. -/
def signed (sign : Char) (line : Text) : Text :=
  let ended := match line.getLast? with
    | some c => c = '\n' || c = '\r'
    | none => false
  sign :: line ++ if ended then [] else noLineEnd

def showOperation (old new : List Text) (o : Operation) : Text :=
  match o.tag with
  | .equal => (o.oldRange old).flatMap (signed ' ')
  | .delete => (o.oldRange old).flatMap (signed '-')
  | .insert => (o.newRange new).flatMap (signed '+')
  | .replace => (o.oldRange old).flatMap (signed '-') ++ (o.newRange new).flatMap (signed '+')

/-- A hunk with its header, which tells the range from its first operation to its last. -/
def showHunk (old new : List Text) (hunk : List Operation) : Text :=
  match hunk.head?, hunk.getLast? with
  | some first, some last =>
    let oldRange := range first.oldStart (last.oldEnd - first.oldStart)
    let newRange := range first.newStart (last.newEnd - first.newStart)
    s!"@@ -{oldRange} +{newRange} @@\n".toList ++ hunk.flatMap (showOperation old new)
  | _, _ => []

/-- The difference of two texts as hunks. -/
def hunksOf (old new : List Text) : List (List Operation) :=
  hunks context (compact old new (script old new))

/-- The unified diff of the file at a path, which is empty where nothing differs. -/
def unified (path : Path) (old new : Text) : Text :=
  let oldLines := lines old
  let newLines := lines new
  match hunksOf oldLines newLines with
  | [] => []
  | found =>
    "--- a/".toList ++ path.withoutRoot ++ "\n+++ b/".toList ++ path.withoutRoot ++ ['\n'] ++
      found.flatMap (showHunk oldLines newLines)

end MustacheBuild.Diff
