import MustacheBuild.Encoding.EucJp
import MustacheBuild.Encoding.Gb18030
import MustacheBuild.Encoding.Iso2022Jp
import MustacheBuild.Encoding.SingleByte

/-!
The character sets other than Unicode. What a set cannot write, it writes as a numeric reference.
-/
namespace MustacheBuild.Encoding

inductive Charset where
  | singleByte (s : SingleByte)
  | big5
  | eucJp
  | eucKr
  | gb18030
  | gbk
  | iso2022Jp
  | shiftJis
  deriving DecidableEq, Repr

namespace Charset

def name : Charset → String
  | singleByte s => s.name
  | big5 => "Big5"
  | eucJp => "EUC-JP"
  | eucKr => "EUC-KR"
  | gb18030 => "gb18030"
  | gbk => "GBK"
  | iso2022Jp => "ISO-2022-JP"
  | shiftJis => "Shift_JIS"

/-- A character as an ampersand, a number sign, its code point and a semicolon. -/
def reference (c : Char) : Bytes :=
  ("&#".toList ++ (toString c.toNat).toList ++ [';']).map fun d => byte d.toNat

def decode : Charset → Bytes → Text
  | singleByte s => s.decode
  | big5 => TwoByte.big5.decoder.decode
  | eucJp => EucJp.decoder.decode
  | eucKr => TwoByte.eucKr.decoder.decode
  | gb18030 => Gb18030.decoder.decode
  | gbk => Gb18030.decoder.decode
  | iso2022Jp => Iso2022Jp.decoder.decode
  | shiftJis => TwoByte.shiftJis.decoder.decode

/-- ASCII as it stands, any other character as `encodeChar?` says. -/
def encodeWith (encodeChar? : Char → Option Bytes) (t : Text) : Bytes :=
  t.flatMap fun c =>
    if c.toNat < 0x80 then [byte c.toNat] else (encodeChar? c).getD (reference c)

def encode : Charset → Text → Bytes
  | singleByte s => encodeWith fun c => (s.encodeChar? c).map ([·])
  | big5 => encodeWith TwoByte.big5.encodeChar?
  | eucJp => encodeWith EucJp.encodeChar?
  | eucKr => encodeWith TwoByte.eucKr.encodeChar?
  | gb18030 => encodeWith Gb18030.encodeChar?
  | gbk => encodeWith Gb18030.encodeCharGbk?
  | iso2022Jp => Iso2022Jp.encodeFrom reference .ascii
  | shiftJis => encodeWith TwoByte.shiftJis.encodeChar?

end Charset
end MustacheBuild.Encoding
