import MustacheBuild.Text.Basic

/-!
Bytes, and decoders as machines that take one byte at a time. Malformed input never stops a decoder:
it writes the replacement character and goes on.
-/
namespace MustacheBuild

abbrev Bytes := List UInt8

namespace Encoding

/-- Stands for what cannot be decoded. -/
def replacement : Char := '\uFFFD'

/-- The character with a code point, where there is one. -/
def charOf? (n : Nat) : Option Char :=
  if h : n.isValidChar then some (Char.ofNatAux n h) else none

theorem charOf?_toNat (c : Char) : charOf? c.toNat = some c := by
  have h : c.toNat.isValidChar := c.valid
  rw [charOf?, dif_pos h]
  rfl

theorem toNat_of_charOf? {n : Nat} {c : Char} (h : charOf? n = some c) : c.toNat = n := by
  unfold charOf? at h
  by_cases hn : n.isValidChar
  · rw [dif_pos hn] at h
    cases h
    rfl
  · rw [dif_neg hn] at h
    contradiction

def byte (n : Nat) : UInt8 := UInt8.ofNat n

/-- A machine that reads bytes and writes characters. -/
structure Decoder where
  State : Type
  /-- Between characters. -/
  start : State
  step : State → UInt8 → Text × State
  /-- What is written at the end of the input. -/
  finish : State → Text

namespace Decoder

def runFrom (d : Decoder) : d.State → Bytes → Text
  | s, [] => d.finish s
  | s, b :: rest =>
    let (written, s) := d.step s b
    written ++ runFrom d s rest

def decode (d : Decoder) (bytes : Bytes) : Text := d.runFrom d.start bytes

@[simp] theorem runFrom_nil (d : Decoder) (s : d.State) : d.runFrom s [] = d.finish s := rfl

theorem runFrom_cons (d : Decoder) (s : d.State) (b : UInt8) (rest : Bytes) :
    d.runFrom s (b :: rest) = (d.step s b).1 ++ d.runFrom (d.step s b).2 rest := rfl

end Decoder
end Encoding
end MustacheBuild
