import MustacheBuild.Encoding.Basic
import MustacheBuild.Path.Basic

/-!
What a build asks of a file system, and how a file system may refuse.
-/
namespace MustacheBuild

inductive IoError.Kind where
  | notFound
  | notADirectory
  | isADirectory
  | alreadyExists
  | resourceBusy
  | invalidFilename
  | invalidInput
  | other
  deriving DecidableEq, Repr

def IoError.Kind.name : IoError.Kind → String
  | notFound => "NotFound"
  | notADirectory => "NotADirectory"
  | isADirectory => "IsADirectory"
  | alreadyExists => "AlreadyExists"
  | resourceBusy => "ResourceBusy"
  | invalidFilename => "InvalidFilename"
  | invalidInput => "InvalidInput"
  | other => "Other"

structure IoError where
  kind : IoError.Kind
  /-- The number by which the operating system knows the error, if it comes from there. -/
  code? : Option Nat
  description : String
  deriving DecidableEq, Repr

def IoError.message (e : IoError) : String :=
  match e.code? with
  | some code => s!"{e.description} (os error {code})"
  | none => e.description

/-- Access to files within a monad. -/
class FileSystem (m : Type → Type) where
  /-- Whether the path names a regular file. -/
  isFile : Path → m Bool
  read : Path → m (Except IoError Bytes)
  /-- Replaces the whole content of a file, which need not exist. -/
  write : Path → Bytes → m (Except IoError Unit)

/-- What a directory holds, as far as a search by name is concerned. -/
inductive Tree where
  | file
  | directory (entries : List (Text × Tree))
  /-- A directory that cannot be read. -/
  | refused (error : IoError)

/-- Access to directories within a monad. -/
class DirectoryAccess (m : Type → Type) where
  isDirectory : Path → m Bool
  /-- All that is below a directory. -/
  list : Path → m (Except IoError (List (Text × Tree)))

end MustacheBuild
