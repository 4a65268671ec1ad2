import MustacheBuild.Data.Basic
import MustacheBuild.Json.Number
import MustacheBuild.Json.Quoted

/-!
JSON to data. Reading stops at the first fault, and lists and objects nest only so deep.
-/
namespace MustacheBuild.Json

def skipSpace (t : Text) : Text :=
  t.dropWhile fun c => c == ' ' || c == '\t' || c == '\n' || c == '\r'

/-- Reads the rest of a word whose first letter has been passed. -/
def word : Text → Text → Except Stop Text
  | [], rest => .ok rest
  | _ :: _, [] => .error (.on .endInValue [])
  | expected :: more, c :: rest =>
    if c = expected then word more rest else .error (.on .expectedWord (c :: rest))

/-- Reads the elements of a list from behind its bracket or a former element; `done` holds those
read so far, last first. Each turn takes a character, so the length of the text is fuel enough. -/
def elements (value : Reader Data) : Nat → List Data → Reader (List Data)
  | 0, _, _ => .error ⟨.endInList, 0⟩
  | fuel + 1, done, t => do
    let next (t : Text) : Except Stop (List Data × Text) := do
      let (item, rest) ← value t
      elements value fuel (item :: done) rest
    match skipSpace t with
    | [] => .error (.on .endInList [])
    | ']' :: rest => .ok (done.reverse, rest)
    | t =>
      if done.isEmpty then next t
      else match t with
        | ',' :: rest =>
          match skipSpace rest with
          | ']' :: rest => .error (.on .trailingComma (']' :: rest))
          | rest => next rest
        | t => .error (.on .expectedListEnd t)

/-- Reads the fields of an object from behind its brace or a former field; `done` holds those read
so far. A key that is repeated keeps its place and takes the last value. -/
def members (value : Reader Data) : Nat → Bool → Fields → Reader Fields
  | 0, _, _, _ => .error ⟨.endInObject, 0⟩
  | fuel + 1, first, done, t => do
    let next (t : Text) : Except Stop (Fields × Text) := do
      match t with
      | '"' :: t =>
        let (key, rest) ← Quoted.read t
        match skipSpace rest with
        | ':' :: rest =>
          let (item, rest) ← value rest
          members value fuel false (Fields.insert done key item) rest
        | [] => .error (.on .endInObject [])
        | rest => .error (.on .expectedColon rest)
      | t => .error (.on .keyNotString t)
    match skipSpace t with
    | [] => .error (.on .endInObject [])
    | '}' :: rest => .ok (done, rest)
    | t =>
      if first then next t
      else match t with
        | ',' :: rest =>
          match skipSpace rest with
          | [] => .error (.on .endInValue [])
          | '}' :: rest => .error (.on .trailingComma ('}' :: rest))
          | rest => next rest
        | t => .error (.on .expectedObjectEnd t)

/-- Reads a value in which lists and objects nest at most `levels` deep. -/
def value (levels : Nat) : Reader Data := fun t =>
  match skipSpace t with
  | [] => .error (.on .endInValue [])
  | 'n' :: rest => do return (.null, ← word "ull".toList rest)
  | 't' :: rest => do return (.bool true, ← word "rue".toList rest)
  | 'f' :: rest => do return (.bool false, ← word "alse".toList rest)
  | '"' :: rest => do
    let (t, rest) ← Quoted.read rest
    return (.text t, rest)
  | '[' :: rest =>
    match levels with
    | 0 => .error (.on .tooDeep ('[' :: rest))
    | levels + 1 => do
      let (items, rest) ← elements (value levels) (rest.length + 1) [] rest
      return (.array items, rest)
  | '{' :: rest =>
    match levels with
    | 0 => .error (.on .tooDeep ('{' :: rest))
    | levels + 1 => do
      let (fields, rest) ← members (value levels) (rest.length + 1) true [] rest
      return (.object fields, rest)
  | c :: rest =>
    if c = '-' || (Numeral.digit? c).isSome then do
      let (n, rest) ← Numeral.read (c :: rest)
      return (.number n, rest)
    else .error (.on .expectedValue (c :: rest))

/-- How deep lists and objects may nest. -/
def maxLevels : Nat := 127

/-- The value that is the whole of a text. -/
def document (t : Text) : Except Stop Data := do
  let (data, rest) ← value maxLevels t
  match skipSpace rest with
  | [] => return data
  | rest => .error (.on .trailingCharacters rest)

def parse (t : Text) : Except Fault Data :=
  (document t).mapError (·.locate t)

end MustacheBuild.Json
