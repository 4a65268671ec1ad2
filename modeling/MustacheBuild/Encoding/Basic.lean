import MustacheBuild.Encoding.Charset
import MustacheBuild.Encoding.Utf32
import MustacheBuild.Encoding.Utf8

/-!
Encodings of whole files. A file that begins with a byte-order mark is read in the form that the
mark announces, whatever else it was expected to hold.
-/
namespace MustacheBuild

/-- The forms of Unicode text. -/
inductive UnicodeForm where
  | utf8
  | utf16 (order : Encoding.ByteOrder)
  | utf32 (order : Encoding.ByteOrder)
  deriving DecidableEq, Repr

/-- How a file is decoded and written. Only Unicode text may have a byte-order mark. -/
inductive Encoding where
  | unicode (form : UnicodeForm) (mark : Bool)
  | legacy (charset : Encoding.Charset)
  deriving DecidableEq, Repr

namespace UnicodeForm

def name : UnicodeForm → String
  | utf8 => "utf-8"
  | utf16 .little => "utf-16le"
  | utf16 .big => "utf-16be"
  | utf32 .little => "utf-32le"
  | utf32 .big => "utf-32be"

/-- The byte-order mark of a form. -/
def mark : UnicodeForm → Bytes
  | utf8 => [0xEF, 0xBB, 0xBF]
  | utf16 .little => [0xFF, 0xFE]
  | utf16 .big => [0xFE, 0xFF]
  | utf32 .little => [0xFF, 0xFE, 0x00, 0x00]
  | utf32 .big => [0x00, 0x00, 0xFE, 0xFF]

/-- All forms, a form before another whose mark begins its own. -/
def all : List UnicodeForm := [utf32 .little, utf32 .big, utf8, utf16 .little, utf16 .big]

/-- The form that is announced by the first bytes of a file. -/
def announced? (bytes : Bytes) : Option UnicodeForm := all.find? fun f => f.mark.isPrefixOf bytes

def decode : UnicodeForm → Bytes → Text
  | utf8 => Encoding.Utf8.decoder.decode
  | utf16 order => (Encoding.Utf16.decoder order).decode
  | utf32 order => (Encoding.Utf32.decoder order).decode

def encode : UnicodeForm → Text → Bytes
  | utf8 => Encoding.Utf8.encode
  | utf16 order => Encoding.Utf16.encode order
  | utf32 order => Encoding.Utf32.encode order

end UnicodeForm

namespace Encoding

/-- What is assumed where nothing is said: UTF-8 without a byte-order mark. -/
def plainUtf8 : Encoding := unicode .utf8 false

def name : Encoding → String
  | unicode form _ => form.name
  | legacy charset => charset.name

/-- The name, with a word on the byte-order mark. -/
def display : Encoding → String
  | unicode form true => form.name ++ " (with BOM)"
  | e => e.name

/-- What is written in front of a text. -/
def preamble : Encoding → Bytes
  | unicode form true => form.mark
  | _ => []

/-- The encoding that a byte-order mark announces. -/
def sniff (bytes : Bytes) : Option Encoding :=
  (UnicodeForm.announced? bytes).map fun form => unicode form true

/-- The encoding in which a file is read that should be in encoding `e`. -/
def detect (e : Encoding) (bytes : Bytes) : Encoding := (sniff bytes).getD e

/-- The bytes behind a byte-order mark, if there is one. -/
def stripMark (bytes : Bytes) : Bytes :=
  match UnicodeForm.announced? bytes with
  | some form => bytes.drop form.mark.length
  | none => bytes

/-- Decodes bytes in which a byte-order mark means nothing. -/
def decodeBody : Encoding → Bytes → Text
  | unicode form _ => form.decode
  | legacy charset => charset.decode

/-- Decodes a file. -/
def decode (e : Encoding) (bytes : Bytes) : Text :=
  (e.detect bytes).decodeBody (stripMark bytes)

/-- Encodes a text without a byte-order mark. -/
def encodeBody : Encoding → Text → Bytes
  | unicode form _ => form.encode
  | legacy charset => charset.encode

/-- Encodes a text as a file. -/
def encode (e : Encoding) (t : Text) : Bytes := e.preamble ++ e.encodeBody t

end Encoding
end MustacheBuild
