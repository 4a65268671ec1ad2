import MustacheBuild.Build.Error
import MustacheBuild.Text.Literal

/-!
Errors written out with all their parts, on one line, for the user who asks for details.
-/
namespace MustacheBuild

namespace Record

/-- A name and named parts in braces. -/
def fields (name : String) (parts : List (String × String)) : String :=
  name ++ " \x7b " ++ ", ".intercalate (parts.map fun part => part.1 ++ ": " ++ part.2) ++ " \x7d"

/-- A name and a part in brackets. -/
def wrap (name part : String) : String := s!"{name}({part})"

def text (t : Text) : String := String.ofList t.literal

def string (s : String) : String := text s.toList

end Record

open Record

def IoError.record (e : IoError) : String :=
  match e.code? with
  | some code => fields "Os"
      [("code", toString code), ("kind", e.kind.name), ("message", string e.description)]
  | none => fields "Custom" [("kind", e.kind.name), ("error", string e.description)]

/-- A fault of the content has no place where the text itself is in order. -/
def DataFault.record (fault : DataFault) : String :=
  let (reason, place) : String × Json.Place := match fault with
    | .json f => (f.reason.describe, f.place)
    | .encodingKind _ => (fault.describe, ⟨0, 0⟩)
  wrap "Error" s!"{string reason}, line: {place.line}, column: {place.column}"

def DataFileError.record : DataFileError → String
  | empty file => fields "EmptyDataFile" [("file", text file)]
  | invalid file fault => fields "InvalidDataFile" [("file", text file), ("source", fault.record)]
  | notAnObject file kind =>
    fields "NotAnObject" [("file", text file), ("kind", string kind.describe)]

def Encoding.UnsupportedLabel.record (e : UnsupportedLabel) : String :=
  fields "UnsupportedEncoding" [("name", text e.label)]

def ParseError.record (e : ParseError) : String :=
  let line := ("line", toString e.line)
  match e.cause with
  | .tag (.unclosed expected) => fields "UnclosedTag" [line, ("expected", text expected.closing)]
  | .tag .nameless => fields "EmptyTag" [line]
  | .tag (.unsupported feature) =>
    fields "Unsupported" [line, ("feature", string feature.describe)]
  | .unclosedSection name => fields "UnclosedSection" [("name", text name), line]
  | .unexpectedClose name => fields "UnexpectedClose" [("name", text name), line]
  | .mismatchedClose expected found =>
    fields "MismatchedClose" [("expected", text expected), ("found", text found), line]

def InvalidTemplate.record (e : InvalidTemplate) : String :=
  fields "Template" [("file", text e.file), ("source", e.error.record)]

def BuildError.record : BuildError → String
  | data e => wrap "User" e.record
  | encoding e => wrap "User" e.record
  | template e => wrap "Render" e.record
  | noOutputName p => fields "NoOutputName" [("path", text p.text)]
  | io p e => fields "Io" [("path", text p.text), ("source", e.record)]

end MustacheBuild
