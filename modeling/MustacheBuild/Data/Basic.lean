import MustacheBuild.Data.Number
import MustacheBuild.Text.Lowercase

/-!
The tree of a data file. An object keeps its fields in the order in which they were first written.
-/
namespace MustacheBuild

inductive Data where
  | null
  | bool (value : Bool)
  | number (value : Number)
  | text (value : Text)
  | array (items : List Data)
  | object (fields : List (Text × Data))

/-- The kinds of values, as messages tell them apart. -/
inductive Data.Kind where
  | null
  | bool
  | number
  | text
  | array
  | object
  deriving DecidableEq, Repr

def Data.Kind.describe : Kind → String
  | null => "null"
  | bool => "a boolean"
  | number => "a number"
  | text => "a string"
  | array => "an array"
  | object => "an object"

/-- The fields of an object, in order. -/
abbrev Fields := List (Text × Data)

namespace Fields

/-- The value of the first field with exactly this key. -/
def exactly? (fields : Fields) (key : Text) : Option Data :=
  (fields.find? fun field => field.1 == key).map (·.2)

/-- The value of the first field whose key is this one up to case. -/
def ignoringCase? (fields : Fields) (key : Text) : Option Data :=
  (fields.find? fun field => Text.equalIgnoringCase field.1 key).map (·.2)

/-- The exact key wins over one that differs in case. -/
def get? (fields : Fields) (key : Text) : Option Data :=
  (fields.exactly? key).or (fields.ignoringCase? key)

/-- Gives `key` a value: in place where the key exists, else behind all others. -/
def insert (fields : Fields) (key : Text) (value : Data) : Fields :=
  match fields with
  | [] => [(key, value)]
  | field :: rest =>
    if field.1 = key then (key, value) :: rest else field :: insert rest key value

end Fields

namespace Data

def kind : Data → Kind
  | null => .null
  | bool _ => .bool
  | number _ => .number
  | text _ => .text
  | array _ => .array
  | object _ => .object

/-- The value of a field. Only an object has any. -/
def get? : Data → Text → Option Data
  | object fields, key => Fields.get? fields key
  | _, _ => none

/-- An object with the value of one field changed or added. -/
def insert? (d : Data) (key : Text) (value : Data) : Option Data :=
  match d with
  | object fields => some (object (Fields.insert fields key value))
  | _ => none

/-- Null, false, zero, empty text and the empty array count as false. -/
def isTrue : Data → Bool
  | null => false
  | bool b => b
  | number n => !n.isZero
  | text t => !t.isEmpty
  | array items => !items.isEmpty
  | object _ => true

/-- What an interpolation writes. Arrays and objects have no text of their own. -/
def toText : Data → Text
  | null => []
  | bool b => if b then "true".toList else "false".toList
  | number n => n.toText.toList
  | text t => t
  | array _ => []
  | object _ => []

end Data
end MustacheBuild
