import MustacheBuild.Encoding.Utf16

/-!
UTF-32 in both byte orders. Numbers that are no characters and a last group of less than four bytes
are replaced.
-/
namespace MustacheBuild.Encoding.Utf32

def encodeChar (order : ByteOrder) (c : Char) : Bytes :=
  let n := c.toNat
  let little := [byte (n % 256), byte (n / 256 % 256), byte (n / 65536 % 256), byte (n / 16777216)]
  match order with
  | .little => little
  | .big => little.reverse

def encode (order : ByteOrder) (t : Text) : Bytes := t.flatMap (encodeChar order)

/-- The number of a group of bytes, the least byte first. -/
def number (little : Bytes) : Nat := little.foldr (fun b n => b.toNat + 256 * n) 0

def charOfGroup (order : ByteOrder) (group : Bytes) : Char :=
  let little := match order with
    | .little => group
    | .big => group.reverse
  (charOf? (number little)).getD replacement

/-- The bytes of the group so far are the state. -/
def step (order : ByteOrder) (group : Bytes) (b : UInt8) : Text × Bytes :=
  if group.length = 3 then ([charOfGroup order (group ++ [b])], []) else ([], group ++ [b])

def finish (group : Bytes) : Text := if group.isEmpty then [] else [replacement]

def decoder (order : ByteOrder) : Decoder :=
  { State := Bytes, start := [], step := step order, finish }

end MustacheBuild.Encoding.Utf32
