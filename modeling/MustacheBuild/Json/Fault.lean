import MustacheBuild.Text.Basic

/-!
What can be wrong with a JSON text, and where. Places are counted in bytes of UTF-8: a line begins
after each line feed, and a column is the number of bytes of the line up to the place.
-/
namespace MustacheBuild.Json

inductive Reason where
  | endInValue
  | endInList
  | endInObject
  | endInString
  | expectedValue
  | expectedWord
  | expectedColon
  | expectedListEnd
  | expectedObjectEnd
  | keyNotString
  | trailingComma
  | trailingCharacters
  | invalidNumber
  | numberOutOfRange
  | invalidEscape
  | incompleteSurrogatePair
  | loneSurrogate
  | controlCharacter
  | tooDeep
  deriving DecidableEq, Repr

def Reason.describe : Reason → String
  | endInValue => "EOF while parsing a value"
  | endInList => "EOF while parsing a list"
  | endInObject => "EOF while parsing an object"
  | endInString => "EOF while parsing a string"
  | expectedValue => "expected value"
  | expectedWord => "expected ident"
  | expectedColon => "expected `:`"
  | expectedListEnd => "expected `,` or `]`"
  | expectedObjectEnd => "expected `,` or `\x7d`"
  | keyNotString => "key must be a string"
  | trailingComma => "trailing comma"
  | trailingCharacters => "trailing characters"
  | invalidNumber => "invalid number"
  | numberOutOfRange => "number out of range"
  | invalidEscape => "invalid escape"
  | incompleteSurrogatePair => "unexpected end of hex escape"
  | loneSurrogate => "lone leading surrogate in hex escape"
  | controlCharacter => "control character (\\u0000-\\u001F) found while parsing a string"
  | tooDeep => "recursion limit exceeded"

/-- A place in a text. -/
structure Place where
  line : Nat
  column : Nat
  deriving DecidableEq, Repr

/-- The place that many bytes after the start. -/
def Place.advance (p : Place) : Nat → Text → Place
  | _, [] => p
  | bytes, c :: cs =>
    if c.utf8Size ≤ bytes then
      advance (if c = '\n' then ⟨p.line + 1, 0⟩ else ⟨p.line, p.column + c.utf8Size⟩)
        (bytes - c.utf8Size) cs
    else ⟨p.line, p.column + bytes⟩

structure Fault where
  reason : Reason
  place : Place
  deriving DecidableEq, Repr

def Fault.message (f : Fault) : String :=
  s!"{f.reason.describe} at line {f.place.line} column {f.place.column}"

end MustacheBuild.Json
