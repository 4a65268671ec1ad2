import MustacheBuild.Store.FileSystem

/-!
A directory tree with the steps by which files on a disk are read and written. Absolute paths are
walked from the root of the tree, all others from the working directory. Names and paths have a
greatest length in bytes: a name that is too long is found out where it is looked up, a path that is
too long before its walk begins.

A file is written beside its place and then renamed, so that its old content is there until the new
one is complete.
-/
namespace MustacheBuild

inductive Entry where
  | file (content : Bytes) (modified : Nat)
  | directory (entries : List (Text × Entry))

/-- The entries of a directory. -/
abbrev Entries := List (Text × Entry)

/-- A place in the tree: names from the root on, the last one first. -/
abbrev Location := List Text

/-- The most bytes that a name may have. -/
def longestName : Nat := 255

/-- The most bytes that a path may have. -/
def longestPath : Nat := 4095

structure Disk where
  /-- The entries of the root. -/
  entries : Entries
  workingDirectory : Location
  /-- The modification time of all that has not been written since; what is written is newer. -/
  time : Nat

namespace Entry

def isFile : Entry → Bool
  | file _ _ => true
  | directory _ => false

def isDirectory (e : Entry) : Bool := !e.isFile

end Entry

namespace Entries

def get? (entries : Entries) (name : Text) : Option Entry :=
  (List.find? (fun e => e.1 == name) entries).map (·.2)

/-- Puts an entry in the place of one with the same name, or behind all others. -/
def set (entries : Entries) (name : Text) (entry : Entry) : Entries :=
  match entries with
  | [] => [(name, entry)]
  | e :: rest => if e.1 = name then (name, entry) :: rest else e :: set rest name entry

def remove (entries : Entries) (name : Text) : Entries := entries.filter fun e => e.1 != name

/-- Changes the entries of the directory that the names lead to, the first name first. -/
def modifyAt (change : Entries → Entries) : List Text → Entries → Entries
  | [], entries => change entries
  | name :: names, entries =>
    match entries.get? name with
    | some (.directory inner) => entries.set name (.directory (modifyAt change names inner))
    | _ => entries

end Entries

/-- The ways in which the steps are refused. -/
inductive DiskFault where
  | noEntry
  | notDirectory
  | isDirectory
  | exists
  | busy
  /-- A name or a whole path is longer than the limit. -/
  | tooLong
  /-- The path holds the character that ends a path within the operating system. -/
  | nul
  deriving DecidableEq, Repr

namespace DiskFault

def all : List DiskFault := [noEntry, notDirectory, isDirectory, .exists, busy, tooLong, nul]

/-- The number that the operating system gives to a fault. A path with a nul does not reach it. -/
def code? : DiskFault → Option Nat
  | noEntry => some 2
  | notDirectory => some 20
  | isDirectory => some 21
  | .exists => some 17
  | busy => some 16
  | tooLong => some 36
  | nul => none

/-- The fault with a number. -/
def ofCode? (code : Nat) : Option DiskFault := all.find? fun f => f.code? == some code

def kind : DiskFault → IoError.Kind
  | noEntry => .notFound
  | notDirectory => .notADirectory
  | isDirectory => .isADirectory
  | .exists => .alreadyExists
  | busy => .resourceBusy
  | tooLong => .invalidFilename
  | nul => .invalidInput

def describe : DiskFault → String
  | noEntry => "No such file or directory"
  | notDirectory => "Not a directory"
  | isDirectory => "Is a directory"
  | .exists => "File exists"
  | busy => "Device or resource busy"
  | tooLong => "File name too long"
  | nul => "file name contained an unexpected NUL byte"

def toIoError (f : DiskFault) : IoError := ⟨f.kind, f.code?, f.describe⟩

end DiskFault

mutual

/-- The same tree with one modification time everywhere. -/
def Entry.stamp (time : Nat) : Entry → Entry
  | .file content _ => .file content time
  | .directory entries => .directory (stampAll time entries)

def stampAll (time : Nat) : List (Text × Entry) → List (Text × Entry)
  | [] => []
  | (name, entry) :: rest => (name, entry.stamp time) :: stampAll time rest

end

namespace Disk

/-- Refuses a path whatever the tree holds. -/
def checkPath (p : Path) : Except DiskFault Unit :=
  if p.text.contains '\x00' then .error .nul
  else if p.text.byteLength > longestPath then .error .tooLong
  else if p.text.isEmpty then .error .noEntry
  else .ok ()

/-- Looks a name up among the entries of a directory. -/
def lookUp (entries : Entries) (name : Text) : Except DiskFault (Option Entry) :=
  if name.byteLength > longestName then .error .tooLong else .ok (entries.get? name)

mutual

/-- The names below an entry, where the path by which each directory is reached can be read. -/
def treeOf (p : Path) : Entry → Tree
  | .file _ _ => .file
  | .directory entries =>
    match checkPath p with
    | .ok () => .directory (treesOf p entries)
    | .error e => .refused e.toIoError

def treesOf (directory : Path) : List (Text × Entry) → List (Text × Tree)
  | [] => []
  | (name, entry) :: rest => (name, treeOf (directory.join name) entry) :: treesOf directory rest

end

/-- An empty working directory, somewhere below the root: the names that lead to it are empty, so
that no path can spell them. -/
def empty (time : Nat) : Disk := ⟨[([], .directory [([], .directory [])])], [[], []], time⟩

/-- Gives everything the same modification time. -/
def stamp (d : Disk) (time : Nat) : Disk :=
  { d with entries := stampAll time d.entries, time }

/-- The entry at a location. -/
def entryAt? (d : Disk) (l : Location) : Option Entry :=
  l.reverse.foldlM (fun entry name =>
    match entry with
    | .directory entries => Entries.get? entries name
    | .file _ _ => none) (.directory d.entries)

/-- The entries of the working directory. -/
def workingEntries (d : Disk) : Entries :=
  match d.entryAt? d.workingDirectory with
  | some (.directory entries) => entries
  | _ => []

/-- Takes one step of a path. Dots and empty pieces stay, two dots go up as far as the root, and all
of them need a directory to start from. -/
def walkPiece (d : Disk) (l : Location) (piece : Text) : Except DiskFault Location :=
  match d.entryAt? l with
  | some (.directory entries) => do
    if piece = [] || piece = ['.'] then return l
    if piece = ['.', '.'] then return l.drop 1
    match ← lookUp entries piece with
    | some _ => return piece :: l
    | none => throw .noEntry
  | _ => .error .notDirectory

/-- Where the walk along a path begins. -/
def start (d : Disk) (p : Path) : Location := if p.isAbsolute then [] else d.workingDirectory

def walk (d : Disk) (l : Location) (pieces : List Text) : Except DiskFault Location :=
  pieces.foldlM d.walkPiece l

def piecesOf (p : Path) : List Text :=
  let (first, more) := Text.pieces '/' p.text
  first :: more

/-- The location that a path leads to. -/
def locate (d : Disk) (p : Path) : Except DiskFault Location := do
  checkPath p
  d.walk (d.start p) (piecesOf p)

/-- The entry that a path leads to. -/
def entry (d : Disk) (p : Path) : Except DiskFault Entry := do
  let l ← d.locate p
  match d.entryAt? l with
  | some e => .ok e
  | none => .error .noEntry

/-- The last piece of a path, the pieces before it, and whether slashes follow it. -/
def splitTarget (p : Path) : List Text × Text × Bool :=
  let back := (piecesOf p).reverse
  match back.dropWhile (· = []) with
  | [] => ([], [], true)
  | last :: before => (before.reverse, last, back.head? = some [])

/-- Whether a piece is a name, and not one of the dots. -/
def isName (piece : Text) : Bool := piece ≠ [] && piece ≠ ['.'] && piece ≠ ['.', '.']

/-- The directory in which the last piece of a path is looked for, behind the pieces before it. -/
def directoryOf (d : Disk) (p : Path) (before : List Text) :
    Except DiskFault (Location × Entries) := do
  let l ← d.walk (d.start p) before
  match d.entryAt? l with
  | some (.directory entries) => .ok (l, entries)
  | _ => .error .notDirectory

/-- Changes the entries of a directory. -/
def modify (d : Disk) (l : Location) (change : Entries → Entries) : Disk :=
  { d with entries := Entries.modifyAt change l.reverse d.entries }

def isFile (d : Disk) (p : Path) : Bool :=
  match d.entry p with
  | .ok e => e.isFile
  | .error _ => false

def isDirectory (d : Disk) (p : Path) : Bool :=
  match d.entry p with
  | .ok e => e.isDirectory
  | .error _ => false

def readFile (d : Disk) (p : Path) : Except DiskFault Bytes := do
  match ← d.entry p with
  | .file content _ => .ok content
  | .directory _ => .error .isDirectory

/-- All that is below a directory. -/
def list (d : Disk) (p : Path) : Except DiskFault (List (Text × Tree)) := do
  match ← d.entry p with
  | .directory entries => .ok (treesOf p entries)
  | .file _ _ => .error .notDirectory

def modified (d : Disk) (p : Path) : Except DiskFault Nat := do
  match ← d.entry p with
  | .file _ time => .ok time
  | .directory _ => .ok d.time

/-- Creates a directory. -/
def createDirectory (d : Disk) (p : Path) : Except DiskFault Disk := do
  checkPath p
  let (before, last, _) := splitTarget p
  let (l, entries) ← d.directoryOf p before
  if !isName last then throw .exists
  match ← lookUp entries last with
  | some _ => throw .exists
  | none => return d.modify l (Entries.set · last (.directory []))

/-- Creates a file or replaces its content. -/
def createFile (d : Disk) (p : Path) (content : Bytes) : Except DiskFault Disk := do
  checkPath p
  let (before, last, slashed) := splitTarget p
  let (l, entries) ← d.directoryOf p before
  if slashed || !isName last then throw .isDirectory
  match ← lookUp entries last with
  | some (.directory _) => throw .isDirectory
  | _ => return d.modify l (Entries.set · last (.file content (d.time + 1)))

/-- Gives a file another path, in place of a file that is there. -/
def renameFile (d : Disk) (source target : Path) : Except DiskFault Disk := do
  checkPath source
  checkPath target
  let (sourceBefore, sourceName, _) := splitTarget source
  let (sourceAt, sourceEntries) ← d.directoryOf source sourceBefore
  let (before, last, slashed) := splitTarget target
  let (l, entries) ← d.directoryOf target before
  if !isName last then throw .busy
  match ← lookUp sourceEntries sourceName with
  | some (.file content time) =>
    let there ← lookUp entries last
    if slashed then throw .notDirectory
    match there with
    | some (.directory _) => throw .isDirectory
    | _ =>
      let removed := d.modify sourceAt (Entries.remove · sourceName)
      return removed.modify l (Entries.set · last (.file content time))
  | _ => throw .noEntry

/-- Removes a file, where there is one. -/
def removeFile (d : Disk) (p : Path) : Disk :=
  let (before, last, _) := splitTarget p
  match d.directoryOf p before with
  | .ok (l, entries) =>
    match Entries.get? entries last with
    | some (.file _ _) => d.modify l (Entries.remove · last)
    | _ => d
  | .error _ => d

/-- Creates a directory if it is not there. -/
def ensureDirectory (d : Disk) (p : Path) : Except DiskFault Disk :=
  match d.createDirectory p with
  | .ok d => .ok d
  | .error e => if d.isDirectory p then .ok d else .error e

/-- Creates a directory and those above it. It is tried first by itself; where the one above is
missing, that one is created and it is tried again. What was created stays, also when a later step
is refused. The fuel bounds how far up this goes. -/
def createUpwards (d : Disk) (p : Path) : Nat → Option DiskFault × Disk
  | 0 => (some .noEntry, d)
  | fuel + 1 =>
    if p.text.isEmpty then (none, d)
    else match d.ensureDirectory p with
      | .ok d => (none, d)
      | .error .noEntry =>
        match p.parent? with
        | none => (some .noEntry, d)
        | some above =>
          match createUpwards d above fuel with
          | (some e, d) => (some e, d)
          | (none, d) =>
            match d.ensureDirectory p with
            | .ok d => (none, d)
            | .error e => (some e, d)
      | .error e => (some e, d)

/-- Creates a directory and those above it. Each is named by a shorter text than the one below. -/
def createDirectories (d : Disk) (p : Path) : Option DiskFault × Disk :=
  d.createUpwards p (p.text.length + 1)

/-- Where the new content of a file is written first. -/
def temporary (p : Path) : Path := ⟨p.text ++ ".stache.tmp".toList⟩

/-- Writes a file beside its place and moves it there. What was written is removed if it cannot be
moved. -/
def replaceFile (d : Disk) (p : Path) (content : Bytes) : Option DiskFault × Disk :=
  match d.createFile (temporary p) content with
  | .error e => (some e, d)
  | .ok d =>
    match d.renameFile (temporary p) p with
    | .ok d => (none, d)
    | .error e => (some e, d.removeFile (temporary p))

/-- Creates the directories above a path. -/
def createAbove (d : Disk) (p : Path) : Option DiskFault × Disk :=
  match p.parent? with
  | none => (none, d)
  | some above => d.createDirectories above

/-- Writes a file, for which the directories above it are created. -/
def writeFile (d : Disk) (p : Path) (content : Bytes) : Option DiskFault × Disk :=
  let (fault, d) := d.createAbove p
  match fault with
  | some e => (some e, d)
  | none => d.replaceFile p content

instance : FileSystem (StateM Disk) where
  isFile p := fun d => (d.isFile p, d)
  read p := fun d => ((d.readFile p).mapError DiskFault.toIoError, d)
  write p content := fun d =>
    match d.writeFile p content with
    | (none, d) => (.ok (), d)
    | (some e, d) => (.error e.toIoError, d)

instance : DirectoryAccess (StateM Disk) where
  isDirectory p := fun d => (d.isDirectory p, d)
  list p := fun d => ((d.list p).mapError DiskFault.toIoError, d)

end Disk
end MustacheBuild
