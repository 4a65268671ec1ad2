import MustacheBuild.CommandLine.Arguments
import MustacheBuild.CommandLine.Detail

/-!
The commands, and what they print.
-/
namespace MustacheBuild.CommandLine

/-- What a command prints, and how it ends. -/
structure Report where
  out : String
  err : String
  exitCode : Nat
  deriving DecidableEq, Repr

def lines (texts : List String) : String := String.join (texts.map (· ++ "\n"))

def messages (log : List LogEntry) : List String :=
  (log.filter (·.severity = .message)).map (·.text)

/-- Warnings and errors, each with its severity. -/
def complaints (log : List LogEntry) : List String :=
  (log.filter (·.severity ≠ .message)).map LogEntry.display

namespace Report

def success (out : String) (err : List String) : Report := ⟨out, lines err, 0⟩

def failure (out : String) (err : List String) (reason : String) : Report :=
  ⟨out, lines (err ++ [s!"Error: {reason}"]), 1⟩

def usage : String := "Usage: stache [-v] <render|check|diff> <PATHS>...\n"

def usageError (e : UsageError) : Report := ⟨"", s!"error: {e.message}\n\n{usage}", 2⟩

/-- Where the templates cannot be found, the causes are listed one below the other. They have
numbers where there are several. -/
def notCollected (e : BuildError) : Report :=
  let causes := match e with
    | .io _ cause => s!"    0: {hanging 7 e.message}\n    1: {hanging 7 cause.message}"
    | e => s!"    {hanging 4 e.message}"
  failure "" [] s!"could not collect templates\n\nCaused by:\n{causes}"

def ofRender (b : Batch) : Report :=
  let out := lines (messages b.log)
  if b.succeeded then success out (complaints b.log)
  else failure out (complaints b.log) "rendering failed; see errors above"

def ofCheck (b : Batch) : Report :=
  let stale := b.changedOutputs
  let out := lines (stale.map fun p => s!"out of date: {p.display}")
  let err := complaints b.log
  if !b.succeeded then failure out err "check failed; see errors above"
  else if !stale.isEmpty then
    failure out err s!"{stale.length} output file(s) out of date; run `stache render`"
  else success s!"✓ {b.units.length} template(s) up to date\n" err

/-- A diff ends with a line feed also where its text does not. -/
def showDiff (d : FileDiff) : String :=
  String.ofList d.text ++ if d.text.getLast? = some '\n' then "" else "\n"

def ofDiff (c : Comparison) : Report :=
  let out := if c.diffs.isEmpty then "No differences.\n" else String.join (c.diffs.map showDiff)
  if c.succeeded then success out (complaints c.log)
  else failure out (complaints c.log) "diff incomplete; see errors above"

/-- The report with the details that led to it in front of its errors. -/
def withDetails (verbose : Bool) (details : List Detail) (r : Report) : Report :=
  if verbose then { r with err := String.join (details.map Detail.display) ++ r.err } else r

end Report

section
variable {m : Type → Type} [Monad m] [FileSystem m] [DirectoryAccess m]

/-- Does what is asked for with the templates, and gives the details. -/
def perform (task : Task) (templates : List Path) : m (Report × List Detail) :=
  match task with
  | .render mode => do
    if templates.isEmpty then return (.success "No templates found.\n" [], [])
    else
      let b ← buildAll mode templates
      return (.ofRender b, b.details)
  | .check => do
    let b ← buildAll .dryRun templates
    return (.ofCheck b, b.details)
  | .diff => do
    let c ← compareAll templates
    return (.ofDiff c, c.batch.details)

/-- Performs a task on the templates that the paths stand for. -/
def build (task : Task) (verbose : Bool) (paths : List Path) : m Report := do
  let (sources, fault) ← Discovery.sources paths
  let found := sources.flatMap Discovery.Source.details
  match fault with
  | some e => return (Report.notCollected e).withDetails verbose found
  | none =>
    let templates := sources.flatMap Discovery.Source.templates
    let (report, details) ← perform task templates
    let count : Detail := ⟨.command, s!"{templates.length} template(s) to process"⟩
    return report.withDetails verbose (found ++ count :: details)

def run : Request → m Report
  | .version => return .success "stache 0.1.11\n" []
  | .help => return .success Report.usage []
  | .build task verbose paths => build task verbose paths

/-- Runs the program with the given arguments. -/
def runArguments (arguments : List Text) : m Report :=
  match Request.ofArguments arguments with
  | .ok request => run request
  | .error e => return .usageError e

end
end MustacheBuild.CommandLine
