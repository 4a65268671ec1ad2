import MustacheBuild.Encoding.Decoder

/-!
Character sets of one byte. The lower half of each is ASCII; the upper half is a table of 128
characters, in which the replacement character stands for a byte without a meaning.
-/
namespace MustacheBuild.Encoding

inductive SingleByte where
  | iso8859_2
  | iso8859_3
  | iso8859_4
  | iso8859_5
  | iso8859_6
  | iso8859_7
  | iso8859_8
  | iso8859_8I
  | iso8859_10
  | iso8859_13
  | iso8859_14
  | iso8859_15
  | iso8859_16
  | windows874
  | windows1250
  | windows1251
  | windows1252
  | windows1253
  | windows1254
  | windows1255
  | windows1256
  | windows1257
  | windows1258
  | macintosh
  | macCyrillic
  | userDefined
  | koi8R
  | koi8U
  | ibm866
  deriving DecidableEq, Repr

namespace SingleByte

def name : SingleByte → String
  | iso8859_2 => "ISO-8859-2"
  | iso8859_3 => "ISO-8859-3"
  | iso8859_4 => "ISO-8859-4"
  | iso8859_5 => "ISO-8859-5"
  | iso8859_6 => "ISO-8859-6"
  | iso8859_7 => "ISO-8859-7"
  | iso8859_8 => "ISO-8859-8"
  | iso8859_8I => "ISO-8859-8-I"
  | iso8859_10 => "ISO-8859-10"
  | iso8859_13 => "ISO-8859-13"
  | iso8859_14 => "ISO-8859-14"
  | iso8859_15 => "ISO-8859-15"
  | iso8859_16 => "ISO-8859-16"
  | windows874 => "windows-874"
  | windows1250 => "windows-1250"
  | windows1251 => "windows-1251"
  | windows1252 => "windows-1252"
  | windows1253 => "windows-1253"
  | windows1254 => "windows-1254"
  | windows1255 => "windows-1255"
  | windows1256 => "windows-1256"
  | windows1257 => "windows-1257"
  | windows1258 => "windows-1258"
  | macintosh => "macintosh"
  | macCyrillic => "x-mac-cyrillic"
  | userDefined => "x-user-defined"
  | koi8R => "KOI8-R"
  | koi8U => "KOI8-U"
  | ibm866 => "IBM866"

/-- The characters from `first` on, in the order of their code points. -/
def consecutive (first count : Nat) : Text := (List.range count).map fun i => Char.ofNat (first + i)

/-- The 32 control characters that many sets place at the start of the upper half. -/
def controls : Text := consecutive 0x80 32

/-- The characters of the bytes from 0x80 on. -/
def upperHalf : SingleByte → Text
  | iso8859_2 =>
    controls ++
      ("\u00A0Ą\u02D8Ł¤ĽŚ§\u00A8ŠŞŤŹ\u00ADŽŻ°ą\u02DBł\u00B4ľś\u02C7\u00B8šşťź\u02DDžżŔÁÂĂÄĹĆÇČÉ" ++
        "ĘËĚÍÎĎĐŃŇÓÔŐÖ×ŘŮÚŰÜÝŢßŕáâăäĺćçčéęëěíîďđńňóôőö÷řůúűüýţ\u02D9" : String).toList
  | iso8859_3 =>
    controls ++
      ("\u00A0Ħ\u02D8£¤\uFFFDĤ§\u00A8İŞĞĴ\u00AD\uFFFDŻ°ħ²³\u00B4µĥ·\u00B8ışğĵ½\uFFFDżÀÁÂ\uFFFDÄ" ++
        "ĊĈÇÈÉÊËÌÍÎÏ\uFFFDÑÒÓÔĠÖ×ĜÙÚÛÜŬŜßàá" ++
        "â\uFFFDäċĉçèéêëìíîï\uFFFDñòóôġö÷ĝùúûüŭŝ\u02D9" : String).toList
  | iso8859_4 =>
    controls ++
      ("\u00A0ĄĸŖ¤ĨĻ§\u00A8ŠĒĢŦ\u00ADŽ\u00AF°ą\u02DBŗ\u00B4ĩļ\u02C7\u00B8šēģŧŊžŋĀÁÂÃÄÅÆĮČÉĘËĖÍÎ" ++
        "ĪĐŅŌĶÔÕÖ×ØŲÚÛÜŨŪßāáâãäåæįčéęëėíîīđņōķôõö÷øųúûüũū\u02D9" : String).toList
  | iso8859_5 =>
    controls ++
      ("\u00A0ЁЂЃЄЅІЇЈЉЊЋЌ\u00ADЎЏАБВГДЕЖЗИЙКЛМНОПРСТУФХЦЧШЩЪЫЬЭЮЯабвгдежзийклмнопрстуфхцчшщъыь" ++
        "эюя№ёђѓєѕіїјљњћќ§ўџ" : String).toList
  | iso8859_6 =>
    controls ++
      ("\u00A0\uFFFD\uFFFD\uFFFD¤\uFFFD\uFFFD\uFFFD\uFFFD\uFFFD\uFFFD\uFFFD،\u00AD\uFFFD\uFFFD" ++
        "\uFFFD\uFFFD\uFFFD\uFFFD\uFFFD\uFFFD\uFFFD\uFFFD\uFFFD\uFFFD\uFFFD\u061B\uFFFD\uFFFD" ++
        "\uFFFD\u061F\uFFFD\u0621\u0622\u0623\u0624\u0625\u0626\u0627\u0628\u0629\u062A\u062B" ++
        "\u062C\u062D\u062E\u062F\u0630\u0631\u0632\u0633\u0634\u0635\u0636\u0637\u0638\u0639" ++
        "\u063A\uFFFD\uFFFD\uFFFD\uFFFD\uFFFD\u0640\u0641\u0642\u0643\u0644\u0645\u0646\u0647" ++
        "\u0648\u0649\u064A\u064B\u064C\u064D\u064E\u064F\u0650\u0651\u0652\uFFFD\uFFFD\uFFFD" ++
        "\uFFFD\uFFFD\uFFFD\uFFFD\uFFFD\uFFFD\uFFFD\uFFFD\uFFFD\uFFFD" : String).toList
  | iso8859_7 =>
    controls ++
      ("\u00A0‘’£€₯¦§\u00A8©\u037A«¬\u00AD\uFFFD―°±²³\u0384\u0385Ά·ΈΉΊ»Ό½ΎΏΐΑΒΓΔΕΖΗΘΙΚΛΜΝΞΟΠΡ" ++
        "\uFFFDΣΤΥΦΧΨΩΪΫάέήίΰαβγδεζηθικλμνξοπρςστυφχψωϊϋόύώ\uFFFD" : String).toList
  | iso8859_8 | iso8859_8I =>
    controls ++
      ("\u00A0\uFFFD¢£¤¥¦§\u00A8©×«¬\u00AD®\u00AF°±²³\u00B4µ¶·\u00B8¹÷»¼½¾\uFFFD\uFFFD\uFFFD" ++
        "\uFFFD\uFFFD\uFFFD\uFFFD\uFFFD\uFFFD\uFFFD\uFFFD\uFFFD\uFFFD\uFFFD\uFFFD\uFFFD\uFFFD" ++
        "\uFFFD\uFFFD\uFFFD\uFFFD\uFFFD\uFFFD\uFFFD\uFFFD\uFFFD\uFFFD\uFFFD\uFFFD\uFFFD\uFFFD" ++
        "\uFFFD‗\u05D0\u05D1\u05D2\u05D3\u05D4\u05D5\u05D6\u05D7\u05D8\u05D9\u05DA\u05DB\u05DC" ++
        "\u05DD\u05DE\u05DF\u05E0\u05E1\u05E2\u05E3\u05E4\u05E5\u05E6\u05E7\u05E8\u05E9\u05EA" ++
        "\uFFFD\uFFFD\u200E\u200F\uFFFD" : String).toList
  | iso8859_10 =>
    controls ++
      ("\u00A0ĄĒĢĪĨĶ§ĻĐŠŦŽ\u00ADŪŊ°ąēģīĩķ·ļđšŧž―ūŋĀÁÂÃÄÅÆĮČÉĘËĖÍÎÏÐŅŌÓÔÕÖŨØŲÚÛÜÝÞßāáâãäåæįčéęëė" ++
        "íîïðņōóôõöũøųúûüýþĸ" : String).toList
  | iso8859_13 =>
    controls ++
      ("\u00A0”¢£¤„¦§Ø©Ŗ«¬\u00AD®Æ°±²³“µ¶·ø¹ŗ»¼½¾æĄĮĀĆÄÅĘĒČÉŹĖĢĶĪĻŠŃŅÓŌÕÖ×ŲŁŚŪÜŻŽßąįāćäåęēčéźėģ" ++
        "ķīļšńņóōõö÷ųłśūüżž’" : String).toList
  | iso8859_14 =>
    controls ++
      ("\u00A0Ḃḃ£ĊċḊ§Ẁ©ẂḋỲ\u00AD®ŸḞḟĠġṀṁ¶ṖẁṗẃṠỳẄẅṡÀÁÂÃÄÅÆÇÈÉÊËÌÍÎÏŴÑÒÓÔÕÖṪØÙÚÛÜÝŶßàáâãäåæçèéêëì" ++
        "íîïŵñòóôõöṫøùúûüýŷÿ" : String).toList
  | iso8859_15 =>
    controls ++
      ("\u00A0¡¢£€¥Š§š©ª«¬\u00AD®\u00AF°±²³Žµ¶·ž¹º»ŒœŸ¿ÀÁÂÃÄÅÆÇÈÉÊËÌÍÎÏÐÑÒÓÔÕÖ×ØÙÚÛÜÝÞßàáâãäåæç" ++
        "èéêëìíîïðñòóôõö÷øùúûüýþÿ" : String).toList
  | iso8859_16 =>
    controls ++
      ("\u00A0ĄąŁ€„Š§š©Ș«Ź\u00ADźŻ°±ČłŽ”¶·žčș»ŒœŸżÀÁÂĂÄĆÆÇÈÉÊËÌÍÎÏĐŃÒÓÔŐÖŚŰÙÚÛÜĘȚßàáâăäćæçèéêëì" ++
        "íîïđńòóôőöśűùúûüęțÿ" : String).toList
  | windows874 =>
    ("€\u0081\u0082\u0083\u0084…\u0086\u0087\u0088\u0089\u008A\u008B\u008C\u008D\u008E\u008F" ++
      "\u0090‘’“”•–—\u0098\u0099\u009A\u009B\u009C\u009D\u009E\u009F\u00A0กขฃคฅฆงจฉชซฌญฎฏฐฑฒณดตถ" ++
      "ทธนบปผฝพฟภมยรฤลฦวศษสหฬอฮฯะ\u0E31าำ\u0E34\u0E35\u0E36\u0E37\u0E38\u0E39\u0E3A\uFFFD\uFFFD" ++
      "\uFFFD\uFFFD฿เแโใไๅ\u0E46\u0E47\u0E48\u0E49\u0E4A\u0E4B\u0E4C\u0E4D\u0E4E๏๐๑๒๓๔๕๖๗๘๙๚๛" ++
      "\uFFFD\uFFFD\uFFFD\uFFFD" : String).toList
  | windows1250 =>
    ("€\u0081‚\u0083„…†‡\u0088‰Š‹ŚŤŽŹ\u0090‘’“”•–—\u0098™š›śťžź\u00A0\u02C7\u02D8Ł¤Ą¦§\u00A8©Ş«¬" ++
      "\u00AD®Ż°±\u02DBł\u00B4µ¶·\u00B8ąş»Ľ\u02DDľżŔÁÂĂÄĹĆÇČÉĘËĚÍÎĎĐŃŇÓÔŐÖ×ŘŮÚŰÜÝŢßŕáâăäĺćçčéęëě" ++
      "íîďđńňóôőö÷řůúűüýţ\u02D9" : String).toList
  | windows1251 =>
    ("ЂЃ‚ѓ„…†‡€‰Љ‹ЊЌЋЏђ‘’“”•–—\u0098™љ›њќћџ\u00A0ЎўЈ¤Ґ¦§Ё©Є«¬\u00AD®Ї°±Ііґµ¶·ё№є»јЅѕїАБВГДЕЖЗИЙК" ++
      "ЛМНОПРСТУФХЦЧШЩЪЫЬЭЮЯабвгдежзийклмнопрстуфхцчшщъыьэюя" : String).toList
  | windows1252 =>
    ("€\u0081‚ƒ„…†‡\u02C6‰Š‹Œ\u008DŽ\u008F\u0090‘’“”•–—\u02DC™š›œ\u009DžŸ\u00A0¡¢£¤¥¦§\u00A8©ª«¬" ++
      "\u00AD®\u00AF°±²³\u00B4µ¶·\u00B8¹º»¼½¾¿ÀÁÂÃÄÅÆÇÈÉÊËÌÍÎÏÐÑÒÓÔÕÖ×ØÙÚÛÜÝÞßàáâãäåæçèéêëìíîïðñ" ++
      "òóôõö÷øùúûüýþÿ" : String).toList
  | windows1253 =>
    ("€\u0081‚ƒ„…†‡\u0088‰\u008A‹\u008C\u008D\u008E\u008F\u0090‘’“”•–—\u0098™\u009A›\u009C\u009D" ++
      "\u009E\u009F\u00A0\u0385Ά£¤¥¦§\u00A8©\uFFFD«¬\u00AD®―°±²³\u0384µ¶·ΈΉΊ»Ό½ΎΏΐΑΒΓΔΕΖΗΘΙΚΛΜΝΞ" ++
      "ΟΠΡ\uFFFDΣΤΥΦΧΨΩΪΫάέήίΰαβγδεζηθικλμνξοπρςστυφχψωϊϋόύώ\uFFFD" : String).toList
  | windows1254 =>
    ("€\u0081‚ƒ„…†‡\u02C6‰Š‹Œ\u008D\u008E\u008F\u0090‘’“”•–—\u02DC™š›œ\u009D\u009EŸ\u00A0¡¢£¤¥¦§" ++
      "\u00A8©ª«¬\u00AD®\u00AF°±²³\u00B4µ¶·\u00B8¹º»¼½¾¿ÀÁÂÃÄÅÆÇÈÉÊËÌÍÎÏĞÑÒÓÔÕÖ×ØÙÚÛÜİŞßàáâãäåæç" ++
      "èéêëìíîïğñòóôõö÷øùúûüışÿ" : String).toList
  | windows1255 =>
    ("€\u0081‚ƒ„…†‡\u02C6‰\u008A‹\u008C\u008D\u008E\u008F\u0090‘’“”•–—\u02DC™\u009A›\u009C\u009D" ++
      "\u009E\u009F\u00A0¡¢£₪¥¦§\u00A8©×«¬\u00AD®\u00AF°±²³\u00B4µ¶·\u00B8¹÷»¼½¾¿\u05B0\u05B1" ++
      "\u05B2\u05B3\u05B4\u05B5\u05B6\u05B7\u05B8\u05B9\u05BA\u05BB\u05BC\u05BD\u05BE\u05BF" ++
      "\u05C0\u05C1\u05C2\u05C3\u05F0\u05F1\u05F2\u05F3\u05F4\uFFFD\uFFFD\uFFFD\uFFFD\uFFFD" ++
      "\uFFFD\uFFFD\u05D0\u05D1\u05D2\u05D3\u05D4\u05D5\u05D6\u05D7\u05D8\u05D9\u05DA\u05DB" ++
      "\u05DC\u05DD\u05DE\u05DF\u05E0\u05E1\u05E2\u05E3\u05E4\u05E5\u05E6\u05E7\u05E8\u05E9" ++
      "\u05EA\uFFFD\uFFFD\u200E\u200F\uFFFD" : String).toList
  | windows1256 =>
    ("€\u067E‚ƒ„…†‡\u02C6‰\u0679‹Œ\u0686\u0698\u0688\u06AF‘’“”•–—\u06A9™\u0691›œ\u200C\u200D" ++
      "\u06BA\u00A0،¢£¤¥¦§\u00A8©\u06BE«¬\u00AD®\u00AF°±²³\u00B4µ¶·\u00B8¹\u061B»¼½¾\u061F\u06C1" ++
      "\u0621\u0622\u0623\u0624\u0625\u0626\u0627\u0628\u0629\u062A\u062B\u062C\u062D\u062E" ++
      "\u062F\u0630\u0631\u0632\u0633\u0634\u0635\u0636×\u0637\u0638\u0639\u063A\u0640\u0641" ++
      "\u0642\u0643à\u0644â\u0645\u0646\u0647\u0648çèéêë\u0649\u064Aîï\u064B\u064C\u064D\u064Eô" ++
      "\u064F\u0650÷\u0651ù\u0652ûü\u200E\u200F\u06D2" : String).toList
  | windows1257 =>
    ("€\u0081‚\u0083„…†‡\u0088‰\u008A‹\u008C\u00A8\u02C7\u00B8\u0090‘’“”•–—\u0098™\u009A›\u009C" ++
      "\u00AF\u02DB\u009F\u00A0\uFFFD¢£¤\uFFFD¦§Ø©Ŗ«¬\u00AD®Æ°±²³\u00B4µ¶·ø¹ŗ»¼½¾æĄĮĀĆÄÅĘĒČÉŹĖĢĶ" ++
      "ĪĻŠŃŅÓŌÕÖ×ŲŁŚŪÜŻŽßąįāćäåęēčéźėģķīļšńņóōõö÷ųłśūüżž\u02D9" : String).toList
  | windows1258 =>
    ("€\u0081‚ƒ„…†‡\u02C6‰\u008A‹Œ\u008D\u008E\u008F\u0090‘’“”•–—\u02DC™\u009A›œ\u009D\u009EŸ" ++
      "\u00A0¡¢£¤¥¦§\u00A8©ª«¬\u00AD®\u00AF°±²³\u00B4µ¶·\u00B8¹º»¼½¾¿ÀÁÂĂÄÅÆÇÈÉÊË\u0300ÍÎÏĐÑ" ++
      "\u0309ÓÔƠÖ×ØÙÚÛÜƯ\u0303ßàáâăäåæçèéêë\u0301íîïđñ\u0323óôơö÷øùúûüư₫ÿ" : String).toList
  | macintosh =>
    ("ÄÅÇÉÑÖÜáàâäãåçéèêëíìîïñóòôöõúùûü†°¢£§•¶ß®©™\u00B4\u00A8≠ÆØ∞±≤≥¥µ∂∑∏π∫ªºΩæø¿¡¬√ƒ≈∆«»…\u00A0" ++
      "ÀÃÕŒœ–—“”‘’÷◊ÿŸ⁄€‹›ﬁﬂ‡·‚„‰ÂÊÁËÈÍÎÏÌÓÔ\uF8FFÒÚÛÙı\u02C6\u02DC\u00AF\u02D8\u02D9\u02DA" ++
      "\u00B8\u02DD\u02DB\u02C7" : String).toList
  | macCyrillic =>
    ("АБВГДЕЖЗИЙКЛМНОПРСТУФХЦЧШЩЪЫЬЭЮЯ†°Ґ£§•¶І®©™Ђђ≠Ѓѓ∞±≤≥іµґЈЄєЇїЉљЊњјЅ¬√ƒ≈∆«»…\u00A0ЋћЌќѕ–—“”‘" ++
      "’÷„ЎўЏџ№Ёёяабвгдежзийклмнопрстуфхцчшщъыьэю€" : String).toList
  | userDefined => consecutive 0xF780 128
  | koi8R =>
    ("─│┌┐└┘├┤┬┴┼▀▄█▌▐░▒▓⌠■∙√≈≤≥\u00A0⌡°²·÷═║╒ё╓╔╕╖╗╘╙╚╛╜╝╞╟╠╡Ё╢╣╤╥╦╧╨╩╪╫╬©юабцдефгхийклмнопярст" ++
      "ужвьызшэщчъЮАБЦДЕФГХИЙКЛМНОПЯРСТУЖВЬЫЗШЭЩЧЪ" : String).toList
  | koi8U =>
    ("─│┌┐└┘├┤┬┴┼▀▄█▌▐░▒▓⌠■∙√≈≤≥\u00A0⌡°²·÷═║╒ёє╔ії╗╘╙╚╛ґў╞╟╠╡ЁЄ╣ІЇ╦╧╨╩╪ҐЎ©юабцдефгхийклмнопярст" ++
      "ужвьызшэщчъЮАБЦДЕФГХИЙКЛМНОПЯРСТУЖВЬЫЗШЭЩЧЪ" : String).toList
  | ibm866 =>
    ("АБВГДЕЖЗИЙКЛМНОПРСТУФХЦЧШЩЪЫЬЭЮЯабвгдежзийклмноп░▒▓│┤╡╢╖╕╣║╗╝╜╛┐└┴┬├─┼╞╟╚╔╩╦╠═╬╧╨╤╥╙╘╒╓╫╪┘" ++
      "┌█▄▌▐▀рстуфхцчшщъыьэюяЁёЄєЇїЎў°∙·√№¤■\u00A0" : String).toList

/-- The character of a byte. -/
def decodeByte (s : SingleByte) (b : UInt8) : Char :=
  if b.toNat < 0x80 then Char.ofNat b.toNat
  else (s.upperHalf[b.toNat - 0x80]?).getD replacement

/-- The byte of a character. -/
def encodeChar? (s : SingleByte) (c : Char) : Option UInt8 :=
  if c.toNat < 0x80 then some (byte c.toNat)
  else if c = replacement then none
  else (s.upperHalf.idxOf? c).map fun i => byte (0x80 + i)

def decode (s : SingleByte) (bytes : Bytes) : Text := bytes.map s.decodeByte

end SingleByte
end MustacheBuild.Encoding
