import MustacheBuild.Text.Basic

/-!
File paths. A path keeps the text it was written with; two paths mean the same file when they have
the same components, and paths are ordered by their components.
-/
namespace MustacheBuild

structure Path where
  text : Text
  deriving DecidableEq, Repr

namespace Path

inductive Component where
  | root
  /-- A dot at the start of a path. Dots further on mean nothing. -/
  | current
  | parent
  | named (name : Text)
  deriving DecidableEq, Repr

def display (p : Path) : String := String.ofList p.text

def isAbsolute (p : Path) : Bool := p.text.head? = some '/'

/-- The component of a piece between slashes behind the first one, if it means anything. -/
def component? (piece : Text) : Option Component :=
  if piece = [] || piece = ['.'] then none
  else if piece = ['.', '.'] then some .parent
  else some (.named piece)

/-- The component of the first piece. It is empty before the slash that stands for the root. -/
def firstComponent? (piece : Text) (more : List Text) : Option Component :=
  if piece = [] then (if more.isEmpty then none else some .root)
  else if piece = ['.'] then some .current
  else component? piece

def components (p : Path) : List Component :=
  let (first, more) := Text.pieces '/' p.text
  (firstComponent? first more).toList ++ more.filterMap component?

/-- Each component with the part of the text that ends with it. -/
def stations (p : Path) : List (Component × Text) :=
  let (first, more) := Text.pieces '/' p.text
  let start := (firstComponent? first more).toList.map fun c =>
    (c, if c = .root then ['/'] else first)
  let walk := more.foldl (fun (done, before) piece =>
    let here := before ++ '/' :: piece
    (done ++ (component? piece).toList.map fun c => (c, here), here)) (start, first)
  walk.1

/-- The path without its last component; the root and the empty path have none. -/
def parent? (p : Path) : Option Path :=
  match p.stations.reverse with
  | [] => none
  | (.root, _) :: _ => none
  | [_] => some ⟨[]⟩
  | _ :: (_, before) :: _ => some ⟨before⟩

/-- What stands before the last piece that means anything, and that piece. -/
def splitLast? (p : Path) : Option (Text × Text) :=
  let (first, more) := Text.pieces '/' p.text
  match (first :: more).reverse.dropWhile fun piece => piece = [] || piece = ['.'] with
  | [] => none
  | last :: before => some (before.reverse.flatMap (· ++ ['/']), last)

/-- The directory part of the text, and the file name, where the path ends in one. -/
def splitName? (p : Path) : Option (Text × Text) :=
  p.splitLast?.filter fun parts => parts.2 ≠ ['.', '.']

/-- The file name, which is empty where the path does not end in one. -/
def fileName (p : Path) : Text := (p.splitName?.map (·.2)).getD []

/-- A file name split at its last dot. A dot in the first place begins no extension. -/
def splitAtLastDot? (name : Text) : Option (Text × Text) :=
  let back := name.reverse
  match back.dropWhile (· != '.') with
  | [] => none
  | _ :: stem =>
    if stem.isEmpty then none else some (stem.reverse, (back.takeWhile (· != '.')).reverse)

/-- The extension of the file name. -/
def extension? (p : Path) : Option Text := do
  let (_, name) ← p.splitName?
  let (_, extension) ← splitAtLastDot? name
  return extension

/-- The path up to the dot of its extension, if it has one. A name that would become a single dot
becomes two dots, unless more of the text follows it. -/
def withoutExtension? (p : Path) : Option Path := do
  let (directory, name) ← p.splitName?
  let (stem, _) ← splitAtLastDot? name
  let stem := if stem = ['.'] && p.text = directory ++ name then ['.', '.'] else stem
  return ⟨directory ++ stem⟩

/-- The path of an entry of the directory `p`. -/
def join (p : Path) (name : Text) : Path :=
  if p.text.isEmpty then ⟨name⟩
  else if p.text.getLast? = some '/' then ⟨p.text ++ name⟩
  else ⟨p.text ++ '/' :: name⟩

/-- Roots come first, then dots, then double dots, then names by their characters. -/
def Component.rank : Component → List Nat
  | root => [0]
  | current => [1]
  | parent => [2]
  | named name => 3 :: name.map Char.toNat

/-- What paths are ordered by. -/
def rank (p : Path) : List (List Nat) := p.components.map Component.rank

def le (p q : Path) : Bool :=
  !List.lex q.rank p.rank fun a b => List.lex a b fun m n => decide (m < n)

/-- An absolute path without its root and without what means nothing at its two ends; any other as
it is written. -/
def withoutRoot (p : Path) : Text :=
  if p.isAbsolute then
    let (first, more) := Text.pieces '/' p.text
    let meaningless (piece : Text) : Bool := piece = [] || piece = ['.']
    let kept := ((first :: more).dropWhile meaningless).reverse.dropWhile meaningless |>.reverse
    List.intercalate ['/'] kept
  else p.text

end Path
end MustacheBuild
