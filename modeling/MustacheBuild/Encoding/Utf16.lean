import MustacheBuild.Encoding.Decoder

/-!
UTF-16 in both byte orders. A byte without a partner and a surrogate without its other half are
replaced.
-/
namespace MustacheBuild.Encoding

inductive ByteOrder where
  | little
  | big
  deriving DecidableEq, Repr

namespace Utf16

/-- The two bytes of a code unit. -/
def unitBytes (order : ByteOrder) (unit : Nat) : Bytes :=
  match order with
  | .little => [byte (unit % 256), byte (unit / 256)]
  | .big => [byte (unit / 256), byte (unit % 256)]

/-- The code unit of two bytes in the order in which they stand. -/
def unitOf (order : ByteOrder) (first second : UInt8) : Nat :=
  match order with
  | .little => first.toNat + 256 * second.toNat
  | .big => 256 * first.toNat + second.toNat

/-- The code units of a character: itself, or a pair of surrogates. -/
def units (c : Char) : List Nat :=
  let n := c.toNat
  if n < 0x10000 then [n]
  else [0xD800 + (n - 0x10000) / 0x400, 0xDC00 + (n - 0x10000) % 0x400]

def encodeChar (order : ByteOrder) (c : Char) : Bytes := (units c).flatMap (unitBytes order)

def encode (order : ByteOrder) (t : Text) : Bytes := t.flatMap (encodeChar order)

def isHigh (unit : Nat) : Bool := 0xD800 ≤ unit && unit < 0xDC00

def isLow (unit : Nat) : Bool := 0xDC00 ≤ unit && unit < 0xE000

structure State where
  /-- A high surrogate that waits for a low one. -/
  high : Option Nat
  /-- A byte that waits for the other of its unit. -/
  pending : Option UInt8

/-- Reads a unit that no high surrogate precedes. -/
def fresh (unit : Nat) : Text × Option Nat :=
  if isHigh unit then ([], some unit) else ([(charOf? unit).getD replacement], none)

/-- Reads a unit: what is written, and the high surrogate that waits. -/
def readUnit (high : Option Nat) (unit : Nat) : Text × Option Nat :=
  match high with
  | none => fresh unit
  | some h =>
    if isLow unit then
      ([(charOf? (0x10000 + (h - 0xD800) * 0x400 + (unit - 0xDC00))).getD replacement], none)
    else
      let (written, high) := fresh unit
      (replacement :: written, high)

def step (order : ByteOrder) (s : State) (b : UInt8) : Text × State :=
  match s.pending with
  | none => ([], { s with pending := some b })
  | some a =>
    let (written, high) := readUnit s.high (unitOf order a b)
    (written, { high, pending := none })

def finish (s : State) : Text :=
  (if s.high.isSome then [replacement] else []) ++
    (if s.pending.isSome then [replacement] else [])

def decoder (order : ByteOrder) : Decoder :=
  { State, start := ⟨none, none⟩, step := step order, finish }

end Utf16
end MustacheBuild.Encoding
