import MustacheBuild.Text.Basic

/-!
Names as tags write them: the innermost value itself, or segments joined by dots.
-/
namespace MustacheBuild

/-- What a tag refers to. A dotted name has at least one segment, and any of them may be empty. -/
inductive Name where
  /-- The dot alone: the innermost value. -/
  | implicit
  | dotted (first : Text) (rest : List Text)
  deriving DecidableEq, Repr

namespace Name

def ofText (t : Text) : Name :=
  if t = ['.'] then implicit else dotted (Text.pieces '.' t).1 (Text.pieces '.' t).2

/-- The segments joined by dots again. -/
def toText : Name → Text
  | implicit => ['.']
  | dotted first rest => first ++ rest.flatMap ('.' :: ·)

@[simp] theorem toText_ofText (t : Text) : (ofText t).toText = t := by
  by_cases h : t = ['.']
  · simp [ofText, h, toText]
  · simp [ofText, h, toText, Text.pieces_join]

end Name
end MustacheBuild
