import MustacheBuild.CommandLine.Report
import MustacheBuild.Store.Disk

/-!
The program: the command line over the files of the machine it runs on.
-/
namespace MustacheBuild.Main

/-- The number of an error and its description. -/
def numbered? : IO.Error → Option (UInt32 × String)
  | .otherError n details | .resourceBusy n details | .resourceVanished n details
  | .unsupportedOperation n details | .hardwareFault n details
  | .unsatisfiedConstraints n details | .illegalOperation n details
  | .protocolError n details | .timeExpired n details | .interrupted _ n details
  | .noFileOrDirectory _ n details | .invalidArgument _ n details
  | .permissionDenied _ n details | .resourceExhausted _ n details
  | .inappropriateType _ n details | .noSuchThing _ n details
  | .alreadyExists _ n details => some (n, details)
  | .unexpectedEof | .userError _ => none

/-- Errors as the build reports them. Some come with their number negated in the machine word. -/
def ioError (e : IO.Error) : IoError :=
  match numbered? e with
  | none => ⟨.other, none, toString e⟩
  | some (n, details) =>
    let code := if n.toNat < 0x80000000 then n.toNat else 0x100000000 - n.toNat
    match DiskFault.ofCode? code with
    | some f => f.toIoError
    | none => ⟨.other, some code, details⟩

/-- The result of an action, or the error it ends with. -/
def attempt {α : Type} (action : IO α) : IO (Except IoError α) := do
  match ← action.toBaseIO with
  | .ok a => return .ok a
  | .error e => return .error (ioError e)

/-- Writes beside the file and moves the result into its place. -/
def replaceFile (p : Path) (content : Bytes) : IO Unit := do
  if let some above := p.parent? then
    unless above.text.isEmpty do IO.FS.createDirAll above.display
  let temporary := p.display ++ ".stache.tmp"
  IO.FS.writeBinFile temporary ⟨content.toArray⟩
  try IO.FS.rename temporary p.display
  catch e =>
    try IO.FS.removeFile temporary catch _ => pure ()
    throw e

instance : FileSystem IO where
  isFile p := do
    match ← attempt (((← IO.currentDir) / p.display).metadata) with
    | .ok found => return found.type == .file
    | .error _ => return false
  read p := attempt do return (← IO.FS.readBinFile p.display).toList
  write p content := attempt (replaceFile p content)

/-- All that is below a directory. Links are not followed. -/
partial def listDirectory (p : String) : IO (List (Text × Tree)) := do
  let entries ← ((← IO.currentDir) / p).readDir
  entries.toList.mapM fun entry => do
    let below := p ++ "/" ++ entry.fileName
    if (← entry.path.symlinkMetadata).type == .dir then
      match ← attempt (listDirectory below) with
      | .ok inner => return (entry.fileName.toList, Tree.directory inner)
      | .error e => return (entry.fileName.toList, Tree.refused e)
    else return (entry.fileName.toList, Tree.file)

instance : DirectoryAccess IO where
  isDirectory p := do
    if p.text.isEmpty then return false
    else ((← IO.currentDir) / p.display).isDir
  list p := attempt (listDirectory p.display)

end MustacheBuild.Main

open MustacheBuild in
def main (arguments : List String) : IO UInt32 := do
  let report ← CommandLine.runArguments (arguments.map String.toList)
  (← IO.getStdout).putStr report.out
  (← IO.getStderr).putStr report.err
  return UInt32.ofNat report.exitCode
