import MustacheBuild.Store.FileSystem

/-!
A file system in memory. A clock advances with every write and stamps the file written, so that the
stamps tell which files were written since.
-/
namespace MustacheBuild

structure StampedFile where
  content : Bytes
  modified : Nat
  deriving DecidableEq, Repr

/-- Files by the components of their paths. -/
structure Memory where
  entry? : List Path.Component → Option StampedFile
  clock : Nat

namespace Memory

def empty : Memory := ⟨fun _ => none, 0⟩

def file? (s : Memory) (p : Path) : Option StampedFile := s.entry? p.components

/-- Gives a file new content, at the next tick of the clock. -/
def put (s : Memory) (p : Path) (content : Bytes) : Memory where
  entry? key := if key = p.components then some ⟨content, s.clock + 1⟩ else s.entry? key
  clock := s.clock + 1

def missing (p : Path) : IoError := ⟨.notFound, none, s!"no such file: {p.display}"⟩

def read (s : Memory) (p : Path) : Except IoError Bytes :=
  match s.file? p with
  | some f => .ok f.content
  | none => .error (missing p)

def modified (s : Memory) (p : Path) : Except IoError Nat :=
  match s.file? p with
  | some f => .ok f.modified
  | none => .error (missing p)

instance : FileSystem (StateM Memory) where
  isFile p := fun s => ((s.file? p).isSome, s)
  read p := fun s => (s.read p, s)
  write p content := fun s => (.ok (), s.put p content)

@[simp] theorem clock_put (s : Memory) (p : Path) (content : Bytes) :
    (s.put p content).clock = s.clock + 1 := rfl

theorem file?_put (s : Memory) (p q : Path) (content : Bytes) :
    (s.put p content).file? q =
      if q.components = p.components then some ⟨content, s.clock + 1⟩ else s.file? q := rfl

end Memory
end MustacheBuild
