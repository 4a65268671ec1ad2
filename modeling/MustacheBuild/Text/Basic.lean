/-!
Text as a list of characters, with the few operations that templates and data files share:
white space, trimming, and cutting at the first occurrence of a mark.
-/
namespace MustacheBuild

/-- Text is handled as the list of its characters. -/
abbrev Text := List Char

namespace Text

/-- The characters with the Unicode property White_Space. -/
def isWhite (c : Char) : Bool :=
  let n := c.toNat
  (9 ≤ n && n ≤ 13) || n == 0x20 || n == 0x85 || n == 0xA0 || n == 0x1680 ||
    (0x2000 ≤ n && n ≤ 0x200A) || n == 0x2028 || n == 0x2029 || n == 0x202F || n == 0x205F ||
    n == 0x3000

/-- Spaces and tabs, the only characters that may stand beside a tag alone on its line. -/
def isBlank (c : Char) : Bool := c == ' ' || c == '\t'

def trimStart (t : Text) : Text := t.dropWhile isWhite

def trimEnd (t : Text) : Text := (t.reverse.dropWhile isWhite).reverse

/-- The text without the white space at its two ends. -/
def trim (t : Text) : Text := trimEnd (trimStart t)

/-- The number of bytes that the text takes in UTF-8. -/
def byteLength (t : Text) : Nat := t.foldl (fun n c => n + c.utf8Size) 0

/-- The text with all its lines but the first moved to the right. -/
def hang (width : Nat) (t : Text) : Text :=
  t.flatMap fun c => if c = '\n' then '\n' :: List.replicate width ' ' else [c]

/-- The number of line feeds. -/
def lineFeeds (t : Text) : Nat := t.count '\n'

/-- What stands before and after the first occurrence of `mark`. -/
def cut? (mark : Text) : Text → Option (Text × Text)
  | [] => if mark.isEmpty then some ([], []) else none
  | c :: cs =>
    if mark.isPrefixOf (c :: cs) then some ([], (c :: cs).drop mark.length)
    else (cut? mark cs).map fun cut => (c :: cut.1, cut.2)

theorem cut?_eq_some {mark t before after : Text} (h : cut? mark t = some (before, after)) :
    t = before ++ mark ++ after := by
  induction t generalizing before with
  | nil =>
    simp only [cut?] at h
    split at h <;> simp_all
  | cons c cs ih =>
    simp only [cut?] at h
    split at h
    · next hmark =>
      obtain ⟨rfl, rfl⟩ : [] = before ∧ _ = after := by simpa using h
      simpa using List.prefix_iff_eq_append.1 (List.isPrefixOf_iff_prefix.1 hmark) |>.symm
    · obtain ⟨⟨b, a⟩, hcut, heq⟩ := Option.map_eq_some_iff.1 h
      obtain ⟨rfl, rfl⟩ : c :: b = before ∧ a = after := by simpa using heq
      simp [ih hcut]

/-- The pieces between the separators of a text, of which there is always a first. -/
def pieces (separator : Char) : Text → Text × List Text
  | [] => ([], [])
  | c :: cs =>
    let tail := pieces separator cs
    if c = separator then ([], tail.1 :: tail.2) else (c :: tail.1, tail.2)

theorem pieces_join (separator : Char) (t : Text) :
    (pieces separator t).1 ++ (pieces separator t).2.flatMap (separator :: ·) = t := by
  induction t with
  | nil => rfl
  | cons c cs ih => by_cases h : c = separator <;> simp [pieces, h, ih]

/-- The part of `t` after its last line feed, preceded by the part up to that line feed. -/
def splitLastLine (t : Text) : Text × Text :=
  ((t.reverse.dropWhile (· != '\n')).reverse, (t.reverse.takeWhile (· != '\n')).reverse)

theorem splitLastLine_append (t : Text) : (splitLastLine t).1 ++ (splitLastLine t).2 = t := by
  rw [splitLastLine, ← List.reverse_append, List.takeWhile_append_dropWhile, List.reverse_reverse]

/-- The first line of `t` with its line feed, and what follows it. -/
def splitFirstLine : Text → Text × Text
  | [] => ([], [])
  | c :: cs => if c = '\n' then (['\n'], cs) else
      (c :: (splitFirstLine cs).1, (splitFirstLine cs).2)

theorem splitFirstLine_append (t : Text) :
    (splitFirstLine t).1 ++ (splitFirstLine t).2 = t := by
  induction t with
  | nil => rfl
  | cons c cs ih => by_cases h : c = '\n' <;> simp [splitFirstLine, h, ih]

end Text
end MustacheBuild
