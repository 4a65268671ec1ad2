import MustacheBuild.Build.Error

/-!
Finding templates: a directory stands for all templates in it and below it.
-/
namespace MustacheBuild

namespace Discovery

/-- The extension of a template. -/
def templateExtension : Text := "mustache".toList

def isTemplate (p : Path) : Bool := p.extension? = some templateExtension

mutual

/-- The templates at a path, in the order of the entries. A directory is searched whatever its
name, and one that cannot be read ends the search. -/
def collect (p : Path) : Tree → Except BuildError (List Path)
  | .file => .ok (if isTemplate p then [p] else [])
  | .directory entries => collectAll p entries
  | .refused e => .error (.io p e)

/-- The templates among the entries of a directory. -/
def collectAll (directory : Path) : List (Text × Tree) → Except BuildError (List Path)
  | [] => .ok []
  | (name, tree) :: rest => do
    let found ← collect (directory.join name) tree
    return found ++ (← collectAll directory rest)

end

/-- The templates below a directory, in the order of their paths. -/
def templates (directory : Path) (entries : List (Text × Tree)) : Except BuildError (List Path) :=
  (collectAll directory entries).map (·.mergeSort Path.le)

/-- A path given by the user. -/
inductive Source where
  /-- A directory with the templates below it. -/
  | directory (path : Path) (templates : List Path)
  | template (path : Path)
  deriving DecidableEq, Repr

def Source.templates : Source → List Path
  | directory _ templates => templates
  | template p => [p]

section
variable {m : Type → Type} [Monad m] [DirectoryAccess m]

/-- The templates below the directory at a path. -/
def search (directory : Path) : m (Except BuildError (List Path)) := do
  match ← DirectoryAccess.list directory with
  | .ok entries => return templates directory entries
  | .error e => return .error (.io directory e)

/-- What a path given by the user stands for. What is no directory is taken for a template. -/
def sourceAt (p : Path) : m (Except BuildError Source) := do
  if ← DirectoryAccess.isDirectory p then return (← search p).map (.directory p)
  else return .ok (.template p)

/-- What each path stands for, up to the first that cannot be searched, and the reason. -/
def sources : List Path → m (List Source × Option BuildError)
  | [] => return ([], none)
  | p :: rest => do
    match ← sourceAt p with
    | .error e => return ([], some e)
    | .ok source =>
      let (more, fault) ← sources rest
      return (source :: more, fault)

/-- The templates that all paths stand for, in their order. -/
def expand (paths : List Path) : m (Except BuildError (List Path)) := do
  match ← sources paths with
  | (found, none) => return .ok (found.flatMap Source.templates)
  | (_, some e) => return .error e

end
end Discovery
end MustacheBuild
