import MustacheBuild.Encoding.Index.Big5
import MustacheBuild.Encoding.Index.Jis0208
import MustacheBuild.Encoding.Index.UnifiedHangul

/-!
Character sets in which a lead byte and a trail byte make a character. A pair that means nothing is
replaced, and an ASCII byte that does not fit as a trail is read again by itself.
-/
namespace MustacheBuild.Encoding

structure TwoByte where
  /-- The character of a byte that stands by itself. -/
  single? : Nat → Option Char
  isLead : Nat → Bool
  pair? : (lead trail : Nat) → Option Text
  /-- The bytes of a character that is not ASCII. -/
  encodeChar? : Char → Option Bytes

namespace TwoByte

/-- Reads a byte between characters; a lead byte becomes the state. -/
def first (s : TwoByte) (b : Nat) : Text × Option Nat :=
  match s.single? b with
  | some c => ([c], none)
  | none => if s.isLead b then ([], some b) else ([replacement], none)

def step (s : TwoByte) (lead : Option Nat) (b : UInt8) : Text × Option Nat :=
  match lead with
  | none => s.first b.toNat
  | some lead =>
    match s.pair? lead b.toNat with
    | some t => (t, none)
    | none =>
      if b.toNat < 0x80 then (replacement :: (s.first b.toNat).1, (s.first b.toNat).2)
      else ([replacement], none)

def decoder (s : TwoByte) : Decoder :=
  { State := Option Nat, start := none, step := s.step,
    finish := fun lead => if lead.isSome then [replacement] else [] }

end TwoByte

/-- ASCII bytes stand for themselves. -/
def asciiOnly (b : Nat) : Option Char := if b < 0x80 then some (Char.ofNat b) else none

def usualLead (b : Nat) : Bool := 0x81 ≤ b && b ≤ 0xFE

/-- The distance between half-width katakana and their single bytes. -/
def halfWidthKana (c : Char) : Option Nat :=
  if 0xFF61 ≤ c.toNat && c.toNat ≤ 0xFF9F then some (c.toNat - 0xFF61) else none

/-- The Japanese sets write the minus sign in its full-width form. -/
def widenMinus (c : Char) : Char := if c = '\u2212' then '\uFF0D' else c

namespace TwoByte

/-- The character of a cell. -/
def indexed (index : Index) (pointer : Nat) : Option Text := (index.char? pointer).map ([·])

/-- Shift_JIS writes the ideographs of rows 89 to 92 as they stand behind row 94. -/
def shiftJisWritten : Index := Index.jis0208.without fun p => 88 * 94 ≤ p && p < 92 * 94

def shiftJis : TwoByte where
  single? b :=
    if b ≤ 0x80 then some (Char.ofNat b)
    else if 0xA1 ≤ b && b ≤ 0xDF then some (Char.ofNat (0xFF61 + (b - 0xA1)))
    else none
  isLead b := (0x81 ≤ b && b ≤ 0x9F) || (0xE0 ≤ b && b ≤ 0xFC)
  pair? lead trail :=
    let offset := if trail < 0x7F then 0x40 else 0x41
    let leadOffset := if lead < 0xA0 then 0x81 else 0xC1
    let pointer := (lead - leadOffset) * 188 + (trail - offset)
    if (0x40 ≤ trail && trail ≤ 0x7E) || (0x80 ≤ trail && trail ≤ 0xFC) then
      if 8836 ≤ pointer && pointer ≤ 10715 then some [Char.ofNat (0xE000 + (pointer - 8836))]
      else indexed .jis0208 pointer
    else none
  encodeChar? c :=
    if c.toNat = 0x80 then some [0x80]
    else if c.toNat = 0xA5 then some [0x5C]
    else if c.toNat = 0x203E then some [0x7E]
    else match halfWidthKana c with
      | some i => some [byte (0xA1 + i)]
      | none => (shiftJisWritten.pointer? (widenMinus c)).map fun pointer =>
        let lead := pointer / 188
        let trail := pointer % 188
        [byte (lead + if lead < 0x1F then 0x81 else 0xC1),
          byte (trail + if trail < 0x3F then 0x40 else 0x41)]

def eucKr : TwoByte where
  single? := asciiOnly
  isLead := usualLead
  pair? lead trail :=
    if 0x41 ≤ trail && trail ≤ 0xFE then
      indexed .unifiedHangul ((lead - 0x81) * 190 + (trail - 0x41))
    else none
  encodeChar? c := (Index.unifiedHangul.pointer? c).map fun pointer =>
    [byte (pointer / 190 + 0x81), byte (pointer % 190 + 0x41)]

/-- Big5 does not write the supplement of its first 32 rows. Six cells of row 34 have characters
that it writes as they stand further on. -/
def big5Written : Index :=
  Index.big5.without fun p =>
    p < 32 * 157 || [66, 67, 68, 69, 106, 108].any fun cell => p == 33 * 157 + cell

/-- Four pairs of Big5 stand for a letter with a combining mark. -/
def big5 : TwoByte where
  single? := asciiOnly
  isLead := usualLead
  pair? lead trail :=
    let pointer := (lead - 0x81) * 157 + (trail - if trail < 0x7F then 0x40 else 0x62)
    if (0x40 ≤ trail && trail ≤ 0x7E) || (0xA1 ≤ trail && trail ≤ 0xFE) then
      match pointer with
      | 1133 => some ['\u00CA', '\u0304']
      | 1135 => some ['\u00CA', '\u030C']
      | 1164 => some ['\u00EA', '\u0304']
      | 1166 => some ['\u00EA', '\u030C']
      | _ => indexed .big5 pointer
    else none
  encodeChar? c := (big5Written.pointer? c).map fun pointer =>
    let trail := pointer % 157
    [byte (pointer / 157 + 0x81), byte (trail + if trail < 0x3F then 0x40 else 0x62)]

end TwoByte
end MustacheBuild.Encoding
