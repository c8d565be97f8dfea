import Pasteboard.Text.Charset.CodePage
import Pasteboard.Text.Charset.EucJp
import Pasteboard.Text.Charset.Gb18030
import Pasteboard.Text.Charset.Iso2022Jp
import Pasteboard.Text.Charset.TwoByte
import Pasteboard.Text.Letter
import Pasteboard.Text.Utf16
/-!
Decoding text in one of the encodings that forms arrive in.

A byte order mark decides on the encoding and is dropped; without one the label decides. A label
that names no encoding stands for UTF-8. What is not well formed becomes U+FFFD.
-/

namespace Pasteboard.Text

open Charset

/-- The encodings. -/
inductive Encoding
  | utf8
  | utf16 (bigEndian : Bool)
  | codePage (page : CodePage)
  /-- ASCII, and a private character for every other byte. -/
  | userDefined
  | shiftJis
  | eucJp
  | iso2022Jp
  | eucKr
  | big5
  | gb18030
  /-- An encoding that is known to be unsafe to read. -/
  | unreadable
  deriving DecidableEq, Repr

namespace Encoding

/-- The labels of the encodings other than UTF-8. The older sets of Chinese characters are parts of
GB 18030, and ISO-8859-1 and ISO-8859-9 of the code pages that took their places. -/
def labels : List (Encoding × List String) := [
  (.codePage .ibm866, ["866", "cp866", "csibm866", "ibm866"]),
  (.codePage .latin2, ["csisolatin2", "iso-8859-2", "iso-ir-101", "iso8859-2", "iso88592",
    "iso_8859-2", "iso_8859-2:1987", "l2", "latin2"]),
  (.codePage .latin3, ["csisolatin3", "iso-8859-3", "iso-ir-109", "iso8859-3", "iso88593",
    "iso_8859-3", "iso_8859-3:1988", "l3", "latin3"]),
  (.codePage .latin4, ["csisolatin4", "iso-8859-4", "iso-ir-110", "iso8859-4", "iso88594",
    "iso_8859-4", "iso_8859-4:1988", "l4", "latin4"]),
  (.codePage .isoCyrillic, ["csisolatincyrillic", "cyrillic", "iso-8859-5", "iso-ir-144",
    "iso8859-5", "iso88595", "iso_8859-5", "iso_8859-5:1988"]),
  (.codePage .isoArabic, ["arabic", "asmo-708", "csiso88596e", "csiso88596i", "csisolatinarabic",
    "ecma-114", "iso-8859-6", "iso-8859-6-e", "iso-8859-6-i", "iso-ir-127", "iso8859-6",
    "iso88596", "iso_8859-6", "iso_8859-6:1987"]),
  (.codePage .isoGreek, ["csisolatingreek", "ecma-118", "elot_928", "greek", "greek8",
    "iso-8859-7", "iso-ir-126", "iso8859-7", "iso88597", "iso_8859-7", "iso_8859-7:1987",
    "sun_eu_greek"]),
  (.codePage .isoHebrew, ["csiso88598e", "csisolatinhebrew", "hebrew", "iso-8859-8",
    "iso-8859-8-e", "iso-ir-138", "iso8859-8", "iso88598", "iso_8859-8", "iso_8859-8:1988",
    "visual", "csiso88598i", "iso-8859-8-i", "logical"]),
  (.codePage .latin6, ["csisolatin6", "iso-8859-10", "iso-ir-157", "iso8859-10", "iso885910",
    "l6", "latin6"]),
  (.codePage .latin7, ["iso-8859-13", "iso8859-13", "iso885913"]),
  (.codePage .latin8, ["iso-8859-14", "iso8859-14", "iso885914"]),
  (.codePage .latin9, ["csisolatin9", "iso-8859-15", "iso8859-15", "iso885915", "iso_8859-15",
    "l9"]),
  (.codePage .latin10, ["iso-8859-16"]),
  (.codePage .koi8r, ["cskoi8r", "koi", "koi8", "koi8-r", "koi8_r"]),
  (.codePage .koi8u, ["koi8-ru", "koi8-u"]),
  (.codePage .macRoman, ["csmacintosh", "mac", "macintosh", "x-mac-roman"]),
  (.codePage .windows874, ["dos-874", "iso-8859-11", "iso8859-11", "iso885911", "tis-620",
    "windows-874"]),
  (.codePage .windows1250, ["cp1250", "windows-1250", "x-cp1250"]),
  (.codePage .windows1251, ["cp1251", "windows-1251", "x-cp1251"]),
  (.codePage .windows1252, ["ansi_x3.4-1968", "ascii", "cp1252", "cp819", "csisolatin1", "ibm819",
    "iso-8859-1", "iso-ir-100", "iso8859-1", "iso88591", "iso_8859-1", "iso_8859-1:1987", "l1",
    "latin1", "us-ascii", "windows-1252", "x-cp1252"]),
  (.codePage .windows1253, ["cp1253", "windows-1253", "x-cp1253"]),
  (.codePage .windows1254, ["cp1254", "csisolatin5", "iso-8859-9", "iso-ir-148", "iso8859-9",
    "iso88599", "iso_8859-9", "iso_8859-9:1989", "l5", "latin5", "windows-1254", "x-cp1254"]),
  (.codePage .windows1255, ["cp1255", "windows-1255", "x-cp1255"]),
  (.codePage .windows1256, ["cp1256", "windows-1256", "x-cp1256"]),
  (.codePage .windows1257, ["cp1257", "windows-1257", "x-cp1257"]),
  (.codePage .windows1258, ["cp1258", "windows-1258", "x-cp1258"]),
  (.codePage .macCyrillic, ["x-mac-cyrillic", "x-mac-ukrainian"]),
  (.gb18030, ["chinese", "csgb2312", "csiso58gb231280", "gb2312", "gb_2312", "gb_2312-80", "gbk",
    "iso-ir-58", "x-gbk", "gb18030"]),
  (.big5, ["big5", "big5-hkscs", "cn-big5", "csbig5", "x-x-big5"]),
  (.eucJp, ["cseucpkdfmtjapanese", "euc-jp", "x-euc-jp"]),
  (.iso2022Jp, ["csiso2022jp", "iso-2022-jp"]),
  (.shiftJis, ["csshiftjis", "ms932", "ms_kanji", "shift-jis", "shift_jis", "sjis", "windows-31j",
    "x-sjis"]),
  (.eucKr, ["cseuckr", "csksc56011987", "euc-kr", "iso-ir-149", "korean", "ks_c_5601-1987",
    "ks_c_5601-1989", "ksc5601", "ksc_5601", "windows-949"]),
  (.unreadable, ["csiso2022kr", "hz-gb-2312", "iso-2022-cn", "iso-2022-cn-ext", "iso-2022-kr",
    "replacement"]),
  (.utf16 true, ["unicodefffe", "utf-16be"]),
  (.utf16 false, ["csunicode", "iso-10646-ucs-2", "ucs-2", "unicode", "unicodefeff", "utf-16le",
    "utf-16"]),
  (.userDefined, ["x-user-defined"])]

/-- Whether a character is dropped from the ends of a label. -/
def isMargin (c : Char) : Bool :=
  c = ' ' || c = '\t' || c = '\n' || c = '\x0c' || c = '\r'

/-- The encoding that a label names, in any letter case. -/
def ofLabel (label : String) : Encoding :=
  let name := ((label.toList.dropWhile isMargin).reverse.dropWhile isMargin).reverse
  let name := lower (String.ofList name)
  ((labels.find? (·.2.contains name)).map (·.1)).getD .utf8

/-- The encoding that a byte order mark names, and the bytes after it. -/
def ofMark? : List UInt8 → Option (Encoding × List UInt8)
  | 0xEF :: 0xBB :: 0xBF :: rest => some (.utf8, rest)
  | 0xFF :: 0xFE :: rest => some (.utf16 false, rest)
  | 0xFE :: 0xFF :: rest => some (.utf16 true, rest)
  | _ => none

/-- Decodes a byte of ASCII or of private use. -/
def userDefinedChar (b : UInt8) : Char :=
  Char.ofNat (if b.toNat < 0x80 then b.toNat else 0xF780 + (b.toNat - 0x80))

/-- Decodes bytes in an encoding. -/
def decode (bytes : List UInt8) : Encoding → String
  | .utf8 => Utf8.text ⟨bytes.toArray⟩
  | .utf16 bigEndian => String.ofList (Utf16.decode bigEndian bytes)
  | .codePage page => String.ofList (page.decode bytes)
  | .userDefined => String.ofList (bytes.map userDefinedChar)
  | .shiftJis => String.ofList (Charset.shiftJis.decode bytes)
  | .eucJp => String.ofList (EucJp.decode bytes)
  | .iso2022Jp => String.ofList (Iso2022Jp.decode bytes)
  | .eucKr => String.ofList (Charset.eucKr.decode bytes)
  | .big5 => String.ofList (Charset.big5.decode bytes)
  | .gb18030 => String.ofList (Gb18030.decode bytes)
  | .unreadable => if bytes.isEmpty then "" else String.ofList [Utf8.replacement]

/-- The text of bytes in an encoding, unless a byte order mark names another. -/
def text (e : Encoding) (bytes : List UInt8) : String :=
  let (e, bytes) := (ofMark? bytes).getD (e, bytes)
  e.decode bytes

end Encoding

end Pasteboard.Text
