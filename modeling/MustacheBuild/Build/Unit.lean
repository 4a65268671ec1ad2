import MustacheBuild.Build.Log
import MustacheBuild.Build.Write
import MustacheBuild.Path.Companions

/-!
The build of one template: its data file and itself are read, the text is rendered, and the output
is written in the encoding of the template.
-/
namespace MustacheBuild

/-- How the encoding of a template was chosen. -/
structure EncodingChoice where
  dataFile : Text
  /-- What the data file names, or plain UTF-8. -/
  declared : Encoding
  /-- What the template is read in. A byte-order mark has the last word. -/
  resolved : Encoding
  deriving DecidableEq, Repr

/-- A template and its data as they were read. -/
structure SourceUnit where
  template : Text
  templateFile : Text
  dataText : Text
  dataFile : Text
  choice : EncodingChoice
  data : Data

def SourceUnit.encoding (u : SourceUnit) : Encoding := u.choice.resolved

/-- Why a template is passed over. -/
inductive Missing where
  | template
  /-- The data file of that name. -/
  | data (file : Text)
  deriving DecidableEq, Repr

structure Rendered where
  template : Path
  output : Path
  text : Text
  choice : EncodingChoice
  verdict : Verdict
  deriving DecidableEq, Repr

def Rendered.encoding (r : Rendered) : Encoding := r.choice.resolved

/-- What became of one template. -/
inductive Outcome where
  | rendered (result : Rendered)
  | skipped (template : Path) (missing : Missing)
  /-- The encoding is known where the template could be read. -/
  | failed (template : Path) (error : BuildError) (choice : Option EncodingChoice)
  deriving DecidableEq, Repr

/-- The encoding of a template: the one that the data file names, or plain UTF-8, unless the
template begins with the byte-order mark of another. -/
def chooseEncoding (dataFile : Text) (field : Option Text) (template : Bytes) :
    Except Encoding.UnsupportedLabel EncodingChoice := do
  let declared ← match DataFile.encodingName? field with
    | some name => Encoding.ofLabel name
    | none => pure .plainUtf8
  return { dataFile, declared, resolved := declared.detect template }

section
variable {m : Type → Type} [Monad m] [FileSystem m]

def orStop {ε α : Type} (wrong : ε → BuildError) (result : Except ε α) : BuildM m α :=
  ExceptT.mk (pure (result.mapError wrong))

/-- Reads a template and its data file, the data file first. -/
def loadUnit (paths : Companions) : BuildM m SourceUnit := do
  let dataFile := paths.data.fileName
  let dataText := Encoding.plainUtf8.decode (← readFile paths.data)
  let data ← orStop .data (DataFile.load dataText dataFile)
  let field ← orStop .data (DataFile.encodingField data dataFile)
  let bytes ← readFile paths.template
  let choice ← orStop .encoding (chooseEncoding dataFile field bytes)
  return { template := choice.resolved.decode bytes, templateFile := paths.template.fileName,
           dataText, dataFile, choice, data }

/-- Renders a unit and writes the output. -/
def writeRendered (mode : WriteMode) (paths : Companions) (unit : SourceUnit) :
    BuildM m Rendered := do
  let text ← orStop .template (renderWith unit.template unit.templateFile unit.data)
  let verdict ← writeText mode paths.output text unit.encoding
  return { template := paths.template, output := paths.output, text, choice := unit.choice,
           verdict }

/-- The file of a unit that is missing. -/
def missing? (paths : Companions) : BuildM m (Option Missing) := do
  if ← isFile paths.template then
    if ← isFile paths.data then return none
    else return some (.data paths.data.fileName)
  else return some .template

/-- Loads the unit of a template, unless one of its files is missing. -/
def loadTemplate (template : Path) : BuildM m (Missing ⊕ Companions × SourceUnit) := do
  match Companions.of? template with
  | none => throw (.noOutputName template)
  | some paths =>
    match ← missing? paths with
    | some missing => return .inl missing
    | none => return .inr (paths, ← loadUnit paths)

/-- Builds one template. An error becomes its outcome. -/
def buildOne (mode : WriteMode) (template : Path) : m Outcome := do
  match ← (loadTemplate template).run with
  | .error e => return .failed template e none
  | .ok (.inl missing) => return .skipped template missing
  | .ok (.inr (paths, unit)) =>
    match ← (writeRendered mode paths unit).run with
    | .ok result => return .rendered result
    | .error e => return .failed template e (some unit.choice)

end

namespace Outcome

/-- The line of the log about a unit. -/
def entry : Outcome → LogEntry
  | rendered r =>
    match r.verdict with
    | .written => ⟨.message,
        s!"The file '{r.output.display}' has been updated from template '{r.template.display}'."⟩
    | .wouldWrite => ⟨.message,
        s!"The file '{r.output.display}' would be updated from template '{r.template.display}'."⟩
    | .unchanged => ⟨.message,
        s!"The template target file '{r.output.display}' is already up-to-date."⟩
  | skipped p .template =>
    ⟨.warning, s!"The template file '{p.display}' doesn't exist. Ignoring it."⟩
  | skipped p (.data file) => ⟨.warning,
      s!"The data file '{String.ofList file}' is missing for template file '{p.display}'. " ++
        "Ignoring it."⟩
  | failed _ e _ => ⟨.error, e.diagnostic⟩

def isFailed : Outcome → Bool
  | failed _ _ _ => true
  | _ => false

/-- The output of a unit whose content differs from what the build found. -/
def changedOutput? : Outcome → Option Path
  | rendered r => if r.verdict = .unchanged then none else some r.output
  | _ => none

end Outcome
end MustacheBuild
