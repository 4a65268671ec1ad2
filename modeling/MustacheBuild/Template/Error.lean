import MustacheBuild.Template.Tag

/-!
Why a template is refused, and the words for it.
-/
namespace MustacheBuild

inductive ParseError.Cause where
  | tag (fault : TagFault)
  | unclosedSection (name : Text)
  | unexpectedClose (name : Text)
  | mismatchedClose (expected found : Text)
  deriving DecidableEq, Repr

/-- What is wrong with a template, and the line on which the tag at fault begins. -/
structure ParseError where
  line : Nat
  cause : ParseError.Cause
  deriving DecidableEq, Repr

def Feature.describe : Feature → String
  | .partials => "partials"
  | .customDelimiters => "custom delimiters"

def TagFault.describe : TagFault → String
  | .unclosed expected => s!"tag is never closed (expected '{String.ofList expected.closing}')"
  | .nameless => "tag has no name"
  | .unsupported feature => s!"{feature.describe} are not supported"

namespace ParseError

def Cause.describe : Cause → String
  | .tag fault => fault.describe
  | .unclosedSection name => s!"section '{String.ofList name}' is never closed"
  | .unexpectedClose name => s!"closing tag '{String.ofList name}' has no matching section"
  | .mismatchedClose expected found =>
    s!"closing tag '{String.ofList found}' does not match open section '{String.ofList expected}'"

def message (e : ParseError) : String := s!"line {e.line}: {e.cause.describe}"

end ParseError
end MustacheBuild
