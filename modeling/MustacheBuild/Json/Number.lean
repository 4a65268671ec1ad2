import MustacheBuild.Data.Number
import MustacheBuild.Json.Stop

/-!
Numbers of JSON. The digits are gathered in a machine word; those that do not fit only move the
decimal point. A double is the word times or over a power of ten, rounded once for the word and once
for the product, so it need not be the double nearest to the number as written.
-/
namespace MustacheBuild.Json.Numeral

def digit? (c : Char) : Option Nat :=
  if '0' ≤ c && c ≤ '9' then some (c.toNat - '0'.toNat) else none

def startsWithDigit : Text → Bool
  | c :: _ => (digit? c).isSome
  | [] => false

/-- The greatest machine word. -/
def maxWord : Nat := 0xFFFFFFFFFFFFFFFF

/-- The greatest exponent that is still counted. -/
def maxExponent : Nat := 0x7FFFFFFF

/-- Powers of ten up to this one are doubles; a larger one takes several steps. -/
def maxPower : Nat := 308

/-- Appends digits to `value` while the result is at most `limit`: the value, the number of digits
taken, and the rest. -/
def takeDigits (limit : Nat) (value : Nat) (taken : Nat) : Text → Nat × Nat × Text
  | [] => (value, taken, [])
  | c :: cs =>
    match digit? c with
    | some d => if value * 10 + d ≤ limit then takeDigits limit (value * 10 + d) (taken + 1) cs
      else (value, taken, c :: cs)
    | none => (value, taken, c :: cs)

/-- The number of digits passed over, and the rest. -/
def skipDigits (t : Text) : Nat × Text :=
  let (digits, rest) := t.span fun c => (digit? c).isSome
  (digits.length, rest)

/-- `f * 10 ^ exponent`, or nothing where that is too large. Three steps take any word to zero. -/
def scale (f : Float) (exponent : Int) : Nat → Option Float
  | 0 => some 0
  | fuel + 1 =>
    if exponent.natAbs ≤ maxPower then
      let power := Float.ofScientific 1 false exponent.natAbs
      if 0 ≤ exponent then
        let product := f * power
        if product.isInf then none else some product
      else some (f / power)
    else if f == 0 then some f
    else if 0 ≤ exponent then none
    else scale (f / Float.ofScientific 1 false maxPower) (exponent + maxPower) fuel

/-- The double of a word and an exponent, with its sign. -/
def double (negative : Bool) (word : Nat) (exponent : Int) (rest : Text) :
    Except Stop (Number × Text) :=
  match scale (UInt64.ofNat word).toFloat exponent 4 with
  | some f => .ok (.float (if negative then -f else f), rest)
  | none => .error (.before .numberOutOfRange rest)

/-- Passes over a sign, and tells whether it was a minus. -/
def sign : Text → Bool × Text
  | '+' :: rest => (false, rest)
  | '-' :: rest => (true, rest)
  | rest => (false, rest)

/-- Reads what follows the letter of an exponent. -/
def exponent (negative : Bool) (word : Nat) (point : Int) (t : Text) :
    Except Stop (Number × Text) :=
  let (down, t) := sign t
  if t.isEmpty then .error (.on .endInValue t)
  else if !startsWithDigit t then .error (.on .invalidNumber t)
  else
    let (e, _, rest) := takeDigits maxExponent 0 0 t
    if startsWithDigit rest then
      if word != 0 && !down then .error (.before .numberOutOfRange (rest.drop 1))
      else double negative 0 0 (skipDigits rest).2
    else double negative word (if down then point - e else point + e) rest

/-- Reads an exponent if one follows. -/
def optionalExponent (negative : Bool) (word : Nat) (point : Int) :
    Text → Except Stop (Number × Text)
  | 'e' :: rest => exponent negative word point rest
  | 'E' :: rest => exponent negative word point rest
  | rest => double negative word point rest

/-- Reads what follows the decimal point. -/
def fraction (negative : Bool) (word : Nat) (point : Int) (t : Text) :
    Except Stop (Number × Text) :=
  if t.isEmpty then .error (.on .endInValue t)
  else if !startsWithDigit t then .error (.on .invalidNumber t)
  else
    let (word, taken, rest) := takeDigits maxWord word 0 t
    optionalExponent negative word (point - taken) (skipDigits rest).2

/-- A number without fraction and exponent. Zero has a sign only as a double. -/
def whole (negative : Bool) (word : Nat) (rest : Text) : Except Stop (Number × Text) :=
  if !negative then .ok (.int word, rest)
  else if word != 0 && word ≤ 0x8000000000000000 then .ok (.int (-word), rest)
  else double true word 0 rest

/-- Reads a number from its first digit on. -/
def unsigned (negative : Bool) (t : Text) : Except Stop (Number × Text) :=
  let (word, _, afterWord) := takeDigits maxWord 0 0 t
  let (beyond, rest) := skipDigits afterWord
  match rest with
  | '.' :: after => fraction negative word beyond after
  | 'e' :: after => exponent negative word beyond after
  | 'E' :: after => exponent negative word beyond after
  | rest => if beyond = 0 then whole negative word rest else double negative word beyond rest

/-- Reads a number from its first digit on, which may be a zero only if no digit follows. -/
def noLeadingZero (negative : Bool) : Text → Except Stop (Number × Text)
  | '0' :: rest =>
    if startsWithDigit rest then .error (.on .invalidNumber rest)
    else unsigned negative ('0' :: rest)
  | t => unsigned negative t

/-- Reads a number. -/
def read : Reader Number
  | '-' :: t =>
    if t.isEmpty then .error (.on .endInValue t)
    else if startsWithDigit t then noLeadingZero true t
    else .error (.on .invalidNumber t)
  | t => noLeadingZero false t

end MustacheBuild.Json.Numeral
