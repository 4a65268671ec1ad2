import MustacheBuild.Encoding.FourByte
import MustacheBuild.Encoding.Index.Gb18030
import MustacheBuild.Encoding.TwoByte

/-!
GB 18030, whose decoder GBK shares: pairs, and groups of four bytes that reach the rest of Unicode.
-/
namespace MustacheBuild.Encoding.Gb18030

inductive State where
  | start
  | one (first : Nat)
  | two (first second : Nat)
  | three (first second third : Nat)

def isDigit (b : Nat) : Bool := 0x30 ≤ b && b ≤ 0x39

def fourBytePointer (first second third fourth : Nat) : Nat :=
  (first - 0x81) * 12600 + (second - 0x30) * 1260 + (third - 0x81) * 10 + (fourth - 0x30)

def pairChar? (lead trail : Nat) : Option Char :=
  if (0x40 ≤ trail && trail ≤ 0x7E) || (0x80 ≤ trail && trail ≤ 0xFE) then
    Index.gb18030.char? ((lead - 0x81) * 190 + (trail - if trail < 0x7F then 0x40 else 0x41))
  else none

def fromStart (b : Nat) : Text × State :=
  if b < 0x80 then ([Char.ofNat b], .start)
  else if b == 0x80 then (['€'], .start)
  else if usualLead b then ([], .one b)
  else ([replacement], .start)

def fromOne (first b : Nat) : Text × State :=
  if isDigit b then ([], .two first b)
  else match pairChar? first b with
    | some c => ([c], .start)
    | none => (replacement :: (if b < 0x80 then [Char.ofNat b] else []), .start)

/-- Where a group of four breaks off, its digit is read again by itself. -/
def step : State → UInt8 → Text × State
  | .start, b => fromStart b.toNat
  | .one first, b => fromOne first b.toNat
  | .two first second, b =>
    if usualLead b.toNat then ([], .three first second b.toNat)
    else
      let (written, s) := fromStart b.toNat
      (replacement :: Char.ofNat second :: written, s)
  | .three first second third, b =>
    if isDigit b.toNat then
      ([(FourByte.char? (fourBytePointer first second third b.toNat)).getD replacement], .start)
    else
      let (written, s) := fromOne third b.toNat
      (replacement :: Char.ofNat second :: written, s)

def finish : State → Text
  | .start => []
  | _ => [replacement]

def decoder : Decoder := { State, start := .start, step, finish }

def fourBytes (pointer : Nat) : Bytes :=
  [byte (pointer / 12600 + 0x81), byte (pointer / 1260 % 10 + 0x30),
    byte (pointer / 10 % 126 + 0x81), byte (pointer % 10 + 0x30)]

/-- Private characters that stood in the pairs before these had characters of their own. They are
written as before, but no longer read. -/
def formerPairs : List (Char × Bytes) :=
  [('\uE78D', [0xA6, 0xD9]), ('\uE78E', [0xA6, 0xDA]), ('\uE78F', [0xA6, 0xDB]),
   ('\uE790', [0xA6, 0xDC]), ('\uE791', [0xA6, 0xDD]), ('\uE792', [0xA6, 0xDE]),
   ('\uE793', [0xA6, 0xDF]), ('\uE794', [0xA6, 0xEC]), ('\uE795', [0xA6, 0xED]),
   ('\uE796', [0xA6, 0xF3]), ('\uE81E', [0xFE, 0x59]), ('\uE826', [0xFE, 0x61]),
   ('\uE82B', [0xFE, 0x66]), ('\uE82C', [0xFE, 0x67]), ('\uE832', [0xFE, 0x6D]),
   ('\uE843', [0xFE, 0x7E]), ('\uE854', [0xFE, 0x90]), ('\uE864', [0xFE, 0xA0])]

def pair? (c : Char) : Option Bytes :=
  (formerPairs.lookup c).or <| (Index.gb18030.pointer? c).map fun pointer =>
    let trail := pointer % 190
    [byte (pointer / 190 + 0x81), byte (trail + if trail < 0x3F then 0x40 else 0x41)]

/-- The bytes of a character that is not ASCII, in GB 18030. -/
def encodeChar? (c : Char) : Option Bytes :=
  (pair? c).or ((FourByte.pointer? c).map fourBytes)

/-- The same in GBK, which has a byte for the euro sign and no groups of four. -/
def encodeCharGbk? (c : Char) : Option Bytes :=
  if c = '€' then some [0x80] else pair? c

end MustacheBuild.Encoding.Gb18030
