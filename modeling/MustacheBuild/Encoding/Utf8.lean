import MustacheBuild.Encoding.Decoder

/-!
UTF-8. A sequence that goes wrong is replaced up to the byte that no longer fits, and that byte is
read anew.
-/
namespace MustacheBuild.Encoding.Utf8

def encodeChar (c : Char) : Bytes :=
  let n := c.toNat
  if n < 0x80 then [byte n]
  else if n < 0x800 then [byte (0xC0 + n / 64), byte (0x80 + n % 64)]
  else if n < 0x10000 then
    [byte (0xE0 + n / 4096), byte (0x80 + n / 64 % 64), byte (0x80 + n % 64)]
  else
    [byte (0xF0 + n / 262144), byte (0x80 + n / 4096 % 64), byte (0x80 + n / 64 % 64),
      byte (0x80 + n % 64)]

def encode (t : Text) : Bytes := t.flatMap encodeChar

inductive State where
  | start
  /-- Within a character: the bits so far, the bytes still owed less one, and the bounds of the
  next byte. -/
  | within (bits owed low high : Nat)

/-- The state behind the first byte of a character of more than one byte. The bounds of the second
byte keep out surrogates, numbers beyond the last character, and forms that are longer than
needed. -/
def lead? (b : Nat) : Option State :=
  if 0xC2 ≤ b && b ≤ 0xDF then some (.within (b - 0xC0) 0 0x80 0xBF)
  else if b == 0xE0 then some (.within 0 1 0xA0 0xBF)
  else if b == 0xED then some (.within 0xD 1 0x80 0x9F)
  else if 0xE1 ≤ b && b ≤ 0xEF then some (.within (b - 0xE0) 1 0x80 0xBF)
  else if b == 0xF0 then some (.within 0 2 0x90 0xBF)
  else if b == 0xF4 then some (.within 4 2 0x80 0x8F)
  else if 0xF1 ≤ b && b ≤ 0xF3 then some (.within (b - 0xF0) 2 0x80 0xBF)
  else none

/-- Reads the first byte of a character. -/
def first (b : Nat) : Text × State :=
  if b < 0x80 then ([Char.ofNat b], .start)
  else match lead? b with
    | some s => ([], s)
    | none => ([replacement], .start)

def step : State → UInt8 → Text × State
  | .start, b => first b.toNat
  | .within bits owed low high, b =>
    if low ≤ b.toNat && b.toNat ≤ high then
      let bits := bits * 64 + (b.toNat - 0x80)
      match owed with
      | 0 => ([(charOf? bits).getD replacement], .start)
      | owed + 1 => ([], .within bits owed 0x80 0xBF)
    else
      let (written, s) := first b.toNat
      (replacement :: written, s)

def finish : State → Text
  | .start => []
  | .within .. => [replacement]

def decoder : Decoder := { State, start := .start, step, finish }

end MustacheBuild.Encoding.Utf8
