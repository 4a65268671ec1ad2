import MustacheBuild.Encoding.Index.Jis0212
import MustacheBuild.Encoding.TwoByte

/-!
EUC-JP: pairs of the first Japanese set, half-width katakana behind a shift byte, and behind another
shift byte pairs of the supplementary set. The supplementary set is read but never written.
-/
namespace MustacheBuild.Encoding.EucJp

inductive State where
  | start
  | lead (b : Nat)
  /-- Behind the lead byte of a pair of the supplementary set. -/
  | supplementary (b : Nat)

def isPairByte (b : Nat) : Bool := 0xA1 ≤ b && b ≤ 0xFE

def first (b : Nat) : Text × State :=
  if b < 0x80 then ([Char.ofNat b], .start)
  else if b == 0x8E || b == 0x8F || isPairByte b then ([], .lead b)
  else ([replacement], .start)

/-- A pair that means nothing; an ASCII byte is read again by itself. -/
def malformed (b : Nat) : Text × State :=
  (replacement :: (if b < 0x80 then [Char.ofNat b] else []), .start)

/-- Reads the second byte of a pair. -/
def pair (index : Index) (lead b : Nat) : Text × State :=
  if isPairByte b then
    match index.char? ((lead - 0xA1) * 94 + (b - 0xA1)) with
    | some c => ([c], .start)
    | none => malformed b
  else malformed b

def step : State → UInt8 → Text × State
  | .start, b => first b.toNat
  | .lead lead, b =>
    let b := b.toNat
    if lead == 0x8E && 0xA1 ≤ b && b ≤ 0xDF then ([Char.ofNat (0xFF61 + (b - 0xA1))], .start)
    else if lead == 0x8F && isPairByte b then ([], .supplementary b)
    else if isPairByte lead then pair .jis0208 lead b
    else malformed b
  | .supplementary lead, b => pair .jis0212 lead b.toNat

def finish : State → Text
  | .start => []
  | _ => [replacement]

def decoder : Decoder := { State, start := .start, step, finish }

/-- The bytes of a character that is not ASCII. -/
def encodeChar? (c : Char) : Option Bytes :=
  if c.toNat = 0xA5 then some [0x5C]
  else if c.toNat = 0x203E then some [0x7E]
  else match halfWidthKana c with
    | some i => some [0x8E, byte (0xA1 + i)]
    | none => (Index.jis0208.pointer? (widenMinus c)).map fun pointer =>
      [byte (pointer / 94 + 0xA1), byte (pointer % 94 + 0xA1)]

end MustacheBuild.Encoding.EucJp
