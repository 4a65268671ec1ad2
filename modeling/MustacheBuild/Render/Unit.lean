import MustacheBuild.DataFile
import MustacheBuild.Render.Basic
import MustacheBuild.Template.Parser

/-!
A template and its data file as one unit of work. The name of the template file is added to the
data, so that a template can refer to itself.
-/
namespace MustacheBuild

/-- The field that holds the name of the template file. -/
def templateFileKey : Text := "TemplateFile".toList

structure InvalidTemplate where
  file : Text
  error : ParseError
  deriving DecidableEq, Repr

def InvalidTemplate.message (e : InvalidTemplate) : String :=
  s!"The template '{String.ofList e.file}' is invalid: {e.error.message}"

inductive RenderError where
  | data (error : DataFileError)
  | template (error : InvalidTemplate)
  deriving DecidableEq, Repr

def RenderError.message : RenderError → String
  | data e => e.message
  | template e => e.message

/-- The data with the name of the template file. A root that is no object stays as it is. -/
def withTemplateFile (file : Text) (data : Data) : Data :=
  (data.insert? templateFileKey (.text file)).getD data

/-- Renders a template of the given name with data that has been loaded. -/
def renderWith (source file : Text) (data : Data) : Except InvalidTemplate Text :=
  match parse source with
  | .ok nodes => .ok (render nodes (withTemplateFile file data))
  | .error e => .error ⟨file, e⟩

/-- Renders a template with the content of a data file. The data file is judged first. -/
def renderUnit (source file content dataFile : Text) : Except RenderError Text :=
  match DataFile.load content dataFile with
  | .error e => .error (.data e)
  | .ok data => (renderWith source file data).mapError .template

end MustacheBuild
