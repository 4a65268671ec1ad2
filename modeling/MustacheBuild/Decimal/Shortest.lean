/-!
The shortest decimal that reads back as a given double: the fewest digits on which some decimal
rounds to the double, and of those decimals the nearest.

A double is taken apart into a mantissa and a power of two, and all that follows is exact
arithmetic on natural numbers.
-/
namespace MustacheBuild.Decimal

/-- A positive finite double, `mantissa * 2 ^ exponent`, with the interval of numbers that round to
it. -/
structure Binary where
  mantissa : Nat
  exponent : Int
  /-- The next smaller double is half as far away as the next larger one. -/
  atPowerOfTwo : Bool

/-- The double with the given bits, without its sign; for finite doubles other than zero. -/
def Binary.ofBits (bits : UInt64) : Binary :=
  let fraction : Nat := bits.toNat % 0x10000000000000
  let biased : Nat := bits.toNat / 0x10000000000000 % 0x800
  if biased = 0 then ⟨fraction, -1074, false⟩
  else ⟨0x10000000000000 + fraction, (biased : Int) - 1075, fraction == 0 && 1 < biased⟩

/-- The digits `digits` read as a whole number, times `10 ^ exponent`. -/
structure Digits where
  digits : Nat
  exponent : Int
  deriving DecidableEq, Repr

/-- A fraction of natural numbers. -/
structure Ratio where
  num : Nat
  den : Nat

namespace Ratio

def scale (base : Nat) (n : Nat) (e : Int) : Ratio :=
  if 0 ≤ e then ⟨n * base.pow e.toNat, 1⟩ else ⟨n, base.pow (-e).toNat⟩

def le (a b : Ratio) : Bool := a.num * b.den ≤ b.num * a.den

def lt (a b : Ratio) : Bool := a.num * b.den < b.num * a.den

/-- The whole part of `a / b`. -/
def floorDiv (a b : Ratio) : Nat := a.num * b.den / (a.den * b.num)

end Ratio

namespace Binary

/-- Four times the value, and of the two ends of the interval that rounds to it. -/
def value (b : Binary) : Ratio := .scale 2 (4 * b.mantissa) b.exponent
def lower (b : Binary) : Ratio :=
  .scale 2 (4 * b.mantissa - if b.atPowerOfTwo then 1 else 2) b.exponent
def upper (b : Binary) : Ratio := .scale 2 (4 * b.mantissa + 2) b.exponent

/-- Whether a number, given as four times itself, rounds to the double. The ends do when the
mantissa is even. -/
def contains (b : Binary) (r : Ratio) : Bool :=
  if b.mantissa % 2 = 0 then b.lower.le r && r.le b.upper else b.lower.lt r && r.lt b.upper

/-- The number of digits before the decimal point, found by counting down from `fuel`; zero or
less where the number is below one. -/
def magnitude (b : Binary) : Nat → Int → Int
  | 0, d => d
  | fuel + 1, d => if (Ratio.scale 10 4 (d - 1)).le b.value then d else magnitude b fuel (d - 1)

/-- The decimal with its last digit at `10 ^ e` that is nearest to the double among those that
round to it; of two equally near ones the larger. -/
def nearestOn? (b : Binary) (e : Int) : Option Digits :=
  let below := b.value.floorDiv (.scale 10 4 e)
  let point (n : Nat) : Ratio := .scale 10 (4 * n) e
  let fits (n : Nat) : Bool := 0 < n && b.contains (point n)
  let middle : Ratio := .scale 10 (4 * below + 2) e
  match fits below, fits (below + 1) with
  | true, true => some ⟨if b.value.lt middle then below else below + 1, e⟩
  | true, false => some ⟨below, e⟩
  | false, true => some ⟨below + 1, e⟩
  | false, false => none

/-- Tries ever finer grids. -/
def shortestFrom (b : Binary) : Nat → Int → Digits
  | 0, e => ⟨b.value.floorDiv (.scale 10 4 e), e⟩
  | fuel + 1, e => (b.nearestOn? e).getD (shortestFrom b fuel (e - 1))

/-- The first grid holds only the power of ten above the double; from there seventeen digits always
suffice. -/
def shortest (b : Binary) : Digits :=
  shortestFrom b 18 (b.magnitude 640 309)

end Binary

/-- The digits of `d` with a decimal point where it belongs, and never an exponent. -/
def Digits.positional (d : Digits) : String :=
  let written := Nat.repr d.digits
  if 0 ≤ d.exponent then written ++ String.ofList (List.replicate d.exponent.toNat '0')
  else
    let places := (-d.exponent).toNat
    let padded := List.replicate (places + 1 - written.length) '0' ++ written.toList
    let whole := padded.take (padded.length - places)
    let fraction := padded.drop (padded.length - places)
    String.ofList (whole ++ '.' :: fraction)

/-- The shortest text of a finite double other than zero. -/
def ofFloat (f : Float) : String :=
  let sign := if f < 0 then "-" else ""
  sign ++ (Binary.ofBits f.toBits).shortest.positional

end MustacheBuild.Decimal
