import MustacheBuild.Decimal.Shortest

/-!
The numbers of a data file, and the text that stands for them in an output.
-/
namespace MustacheBuild

/-- A number that was written without fraction and exponent and fits a machine word is kept as an
integer, any other as a double. -/
inductive Number where
  | int (value : Int)
  | float (value : Float)

namespace Number

def isZero : Number → Bool
  | int i => i == 0
  | float f => f == 0

/-- Doubles without a fraction are written as integers below this bound. -/
def integerBound : Float := 1e15

/-- Integers are written in full, other doubles with the fewest digits that read back. -/
def toText : Number → String
  | int i => toString i
  | float f =>
    if f.floor == f && f.abs < integerBound then
      let digits := toString f.abs.toUInt64
      if f < 0 then "-" ++ digits else digits
    else Decimal.ofFloat f

end Number
end MustacheBuild
