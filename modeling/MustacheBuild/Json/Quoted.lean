import MustacheBuild.Json.Stop

/-!
Strings of JSON, from behind the opening quote to behind the closing one.
-/
namespace MustacheBuild.Json.Quoted

def hexDigit? (c : Char) : Option Nat :=
  if '0' ≤ c && c ≤ '9' then some (c.toNat - '0'.toNat)
  else if 'a' ≤ c && c ≤ 'f' then some (c.toNat - 'a'.toNat + 10)
  else if 'A' ≤ c && c ≤ 'F' then some (c.toNat - 'A'.toNat + 10)
  else none

/-- Reads the four digits of a code unit. -/
def codeUnit : Reader Nat
  | a :: b :: c :: d :: rest =>
    match hexDigit? a, hexDigit? b, hexDigit? c, hexDigit? d with
    | some a, some b, some c, some d => .ok (((a * 16 + b) * 16 + c) * 16 + d, rest)
    | _, _, _, _ => .error ⟨.invalidEscape, Text.byteLength (a :: b :: c :: d :: rest) - 4⟩
  | t =>
    if t.byteLength < 4 then .error ⟨.endInString, 0⟩
    else .error ⟨.invalidEscape, t.byteLength - 4⟩

def isHighSurrogate (n : Nat) : Bool := 0xD800 ≤ n && n < 0xDC00

def isLowSurrogate (n : Nat) : Bool := 0xDC00 ≤ n && n < 0xE000

/-- Reads the second escape of a surrogate pair. -/
def secondHalf (high : Nat) : Reader Char
  | '\\' :: 'u' :: t => do
    let (low, rest) ← codeUnit t
    if isLowSurrogate low then
      .ok (Char.ofNat (0x10000 + (high - 0xD800) * 0x400 + (low - 0xDC00)), rest)
    else .error (.before .loneSurrogate rest)
  | ['\\'] => .error ⟨.endInString, 0⟩
  | '\\' :: t => .error (.on .incompleteSurrogatePair t)
  | [] => .error ⟨.endInString, 0⟩
  | t => .error (.on .incompleteSurrogatePair t)

/-- Reads the character that the digits after a backslash and a `u` stand for. -/
def unicodeEscape (t : Text) : Except Stop (Char × Text) := do
  let (unit, rest) ← codeUnit t
  if isLowSurrogate unit then .error (.before .loneSurrogate rest)
  else if isHighSurrogate unit then secondHalf unit rest
  else .ok (Char.ofNat unit, rest)

/-- Reads the character that stands behind a backslash. -/
def escape : Reader Char
  | [] => .error ⟨.endInString, 0⟩
  | '"' :: rest => .ok ('"', rest)
  | '\\' :: rest => .ok ('\\', rest)
  | '/' :: rest => .ok ('/', rest)
  | 'b' :: rest => .ok ('\x08', rest)
  | 'f' :: rest => .ok ('\x0c', rest)
  | 'n' :: rest => .ok ('\n', rest)
  | 'r' :: rest => .ok ('\r', rest)
  | 't' :: rest => .ok ('\t', rest)
  | 'u' :: rest => unicodeEscape rest
  | t => .error (.on .invalidEscape t)

/-- Reads on with the characters so far in reverse. Each turn takes a character, so the length of
the text is fuel enough. -/
def contents : Nat → Text → Reader Text
  | 0, _, _ => .error ⟨.endInString, 0⟩
  | fuel + 1, done, t =>
    match t with
    | [] => .error ⟨.endInString, 0⟩
    | '"' :: rest => .ok (done.reverse, rest)
    | '\\' :: rest => do
      let (c, rest) ← escape rest
      contents fuel (c :: done) rest
    | c :: rest =>
      if c.toNat < 0x20 then .error (.on .controlCharacter (c :: rest))
      else contents fuel (c :: done) rest

/-- Reads a string whose opening quote has been passed. -/
def read : Reader Text := fun t => contents (t.length + 1) [] t

end MustacheBuild.Json.Quoted
