import MustacheBuild.Json.Parser

/-!
Data files: JSON text whose root is an object, and the encoding that such a file may ask for.
-/
namespace MustacheBuild

/-- What makes the content of a data file invalid. -/
inductive DataFault where
  | json (fault : Json.Fault)
  /-- The field that names the encoding holds something other than text. -/
  | encodingKind (kind : Data.Kind)
  deriving DecidableEq, Repr

inductive DataFileError where
  | empty (file : Text)
  | invalid (file : Text) (fault : DataFault)
  | notAnObject (file : Text) (kind : Data.Kind)
  deriving DecidableEq, Repr

namespace DataFile

/-- The field that names the encoding of a template. -/
def encodingKey : Text := "$Encoding".toList

/-- A mark that some editors put in front of a text. -/
def byteOrderMark : Char := '\uFEFF'

/-- The data of any JSON text that is not empty. -/
def read (content : Text) (file : Text) : Except DataFileError Data :=
  let body : Text := match content with
    | c :: rest => if c = byteOrderMark then rest else content
    | [] => []
  if body.trim.isEmpty then .error (.empty file)
  else (Json.parse body).mapError fun fault => .invalid file (.json fault)

/-- The data of a file, whose root is an object. -/
def load (content : Text) (file : Text) : Except DataFileError Data := do
  let root ← read content file
  match root.kind with
  | .object => .ok root
  | kind => .error (.notAnObject file kind)

/-- The encoding that a data file names, as it is written. Null counts as absent. -/
def encodingField (root : Data) (file : Text) : Except DataFileError (Option Text) :=
  match root.get? encodingKey with
  | none => .ok none
  | some .null => .ok none
  | some (.text t) => .ok (some t)
  | some other => .error (.invalid file (.encodingKind other.kind))

/-- The name in an encoding field. A blank field names nothing. -/
def encodingName? (field : Option Text) : Option Text :=
  (field.map Text.trim).filter fun name => !name.isEmpty

end DataFile

def DataFault.describe : DataFault → String
  | json fault => fault.message
  | encodingKind kind =>
    s!"`{String.ofList DataFile.encodingKey}` must be a string, found {kind.describe}"

def DataFileError.message : DataFileError → String
  | empty file => s!"The data file '{String.ofList file}' is empty."
  | invalid file fault =>
    s!"The content of data file '{String.ofList file}' is invalid: {fault.describe}"
  | notAnObject file kind =>
    s!"The content of data file '{String.ofList file}' is not an object but {kind.describe}."

end MustacheBuild
