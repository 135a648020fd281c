import TextWalk.Encoding.CodePage
import TextWalk.Encoding.Utf8
import TextWalk.Encoding.Utf16
import TextWalk.Text.Case
import TextWalk.Text.Space

namespace TextWalk

inductive Encoding where
  /-- UTF-8 taken as it is: each bad byte is replaced. -/
  | asIs
  /-- UTF-8 declared: each broken sequence is replaced as a whole. -/
  | utf8
  | utf16 (order : ByteOrder)
  /-- Refused encodings: any content reads as one replacement character. -/
  | replacement
  /-- ASCII, and a private-use character for every other byte. -/
  | userDefined
  | codePage (page : CodePage)
deriving DecidableEq, Repr

namespace Encoding

def userDefinedChar (b : UInt8) : Char :=
  if b.toNat < 0x80 then Char.ofNat b.toNat else Char.ofNat (0xF700 + b.toNat)

def decode : Encoding → Bytes → List Char
  | asIs, bs => Utf8.decode bs
  | utf8, bs => Utf8.decodeMaximal bs
  | utf16 order, bs => Utf16.decode order bs
  | replacement, _ => [Code.replacement]
  | userDefined, bs => bs.map userDefinedChar
  | codePage page, bs => page.decode bs

def labels : List (Encoding × List String) :=
  [(.utf8, ["unicode-1-1-utf-8", "unicode11utf8", "unicode20utf8", "utf-8", "utf8",
     "x-unicode20utf8"]),
   (.codePage .ibm866, ["866", "cp866", "csibm866", "ibm866"]),
   (.codePage .latin2, ["csisolatin2", "iso-8859-2", "iso-ir-101", "iso8859-2", "iso88592",
     "iso_8859-2", "iso_8859-2:1987", "l2", "latin2"]),
   (.codePage .isoCyrillic, ["csisolatincyrillic", "cyrillic", "iso-8859-5", "iso-ir-144",
     "iso8859-5", "iso88595", "iso_8859-5", "iso_8859-5:1988"]),
   (.codePage .isoGreek, ["csisolatingreek", "ecma-118", "elot_928", "greek", "greek8",
     "iso-8859-7", "iso-ir-126", "iso8859-7", "iso88597", "iso_8859-7", "iso_8859-7:1987",
     "sun_eu_greek"]),
   (.codePage .latin9, ["csisolatin9", "iso-8859-15", "iso8859-15", "iso885915", "iso_8859-15",
     "l9"]),
   (.codePage .koi8r, ["cskoi8r", "koi", "koi8", "koi8-r", "koi8_r"]),
   (.codePage .macintosh, ["csmacintosh", "mac", "macintosh", "x-mac-roman"]),
   (.codePage .windows874, ["dos-874", "iso-8859-11", "iso8859-11", "iso885911", "tis-620",
     "windows-874"]),
   (.codePage .windows1250, ["cp1250", "windows-1250", "x-cp1250"]),
   (.codePage .windows1251, ["cp1251", "windows-1251", "x-cp1251"]),
   (.codePage .windows1252, ["ansi_x3.4-1968", "ascii", "cp1252", "cp819", "csisolatin1",
     "ibm819", "iso-8859-1", "iso-ir-100", "iso8859-1", "iso88591", "iso_8859-1",
     "iso_8859-1:1987", "l1", "latin1", "us-ascii", "windows-1252", "x-cp1252"]),
   (.codePage .windows1253, ["cp1253", "windows-1253", "x-cp1253"]),
   (.codePage .windows1254, ["cp1254", "csisolatin5", "iso-8859-9", "iso-ir-148", "iso8859-9",
     "iso88599", "iso_8859-9", "iso_8859-9:1989", "l5", "latin5", "windows-1254", "x-cp1254"]),
   (.userDefined, ["x-user-defined"]),
   (.utf16 .little, ["csunicode", "iso-10646-ucs-2", "ucs-2", "unicode", "unicodefeff",
     "utf-16", "utf-16le"]),
   (.utf16 .big, ["unicodefffe", "utf-16be"]),
   (.replacement, ["csiso2022kr", "hz-gb-2312", "iso-2022-cn", "iso-2022-cn-ext", "iso-2022-kr",
     "replacement"])]

def ofName? (name : List Char) : Option Encoding :=
  (labels.find? fun entry => entry.2.any (·.toList == name)).map (·.1)

def ofLabel? (label : Bytes) : Option Encoding :=
  -- Neither letter case nor white space around a label matters.
  ofName? (Text.lower (Text.trim (Utf8.decode label)))

end Encoding

end TextWalk
