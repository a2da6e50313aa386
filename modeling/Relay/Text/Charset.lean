import Relay.Text.Codepage
import Relay.Text.Utf8

/-!
# Character sets of received texts

The text that bytes mean depends on the character set that comes with them (`Charset`). A byte order
mark in front of them wins over it and is no part of the text. Faulty stretches become U+FFFD.

The sets of several bytes for a character go by large tables, which are not here: `Charset.decode?`
has no text for them, and whoever asks has to bring it.
-/

namespace Relay.Text

/-- A character set. -/
inductive Charset where
  | utf8
  | utf16 (bigEndian : Bool)
  | oneByte (page : Codepage)
  /-- One of those that are not to be used any more: nothing in them is read. -/
  | retired
  /-- One of those with several bytes for a character. -/
  | multibyte
  deriving DecidableEq, Repr

namespace Charset

/-! ## 1. Names -/

/-- The names of all character sets. Latin 1 and ASCII are read as Windows-1252, Latin 5 as
Windows-1254. -/
def named : List (List String × Charset) :=
  [(["unicode-1-1-utf-8", "unicode11utf8", "unicode20utf8", "utf-8", "utf8", "x-unicode20utf8"],
     .utf8),
   (["csunicode", "iso-10646-ucs-2", "ucs-2", "unicode", "unicodefeff", "utf-16", "utf-16le"],
     .utf16 false),
   (["unicodefffe", "utf-16be"], .utf16 true),
   (["csisolatin2", "iso-8859-2", "iso-ir-101", "iso8859-2", "iso88592", "iso_8859-2",
     "iso_8859-2:1987", "l2", "latin2"], .oneByte .iso8859Part2),
   (["csisolatin3", "iso-8859-3", "iso-ir-109", "iso8859-3", "iso88593", "iso_8859-3",
     "iso_8859-3:1988", "l3", "latin3"], .oneByte .iso8859Part3),
   (["csisolatin4", "iso-8859-4", "iso-ir-110", "iso8859-4", "iso88594", "iso_8859-4",
     "iso_8859-4:1988", "l4", "latin4"], .oneByte .iso8859Part4),
   (["csisolatincyrillic", "cyrillic", "iso-8859-5", "iso-ir-144", "iso8859-5", "iso88595",
     "iso_8859-5", "iso_8859-5:1988"], .oneByte .iso8859Part5),
   (["arabic", "asmo-708", "csiso88596e", "csiso88596i", "csisolatinarabic", "ecma-114",
     "iso-8859-6", "iso-8859-6-e", "iso-8859-6-i", "iso-ir-127", "iso8859-6", "iso88596",
     "iso_8859-6", "iso_8859-6:1987"], .oneByte .iso8859Part6),
   (["csisolatingreek", "ecma-118", "elot_928", "greek", "greek8", "iso-8859-7", "iso-ir-126",
     "iso8859-7", "iso88597", "iso_8859-7", "iso_8859-7:1987", "sun_eu_greek"],
     .oneByte .iso8859Part7),
   (["csiso88598e", "csiso88598i", "csisolatinhebrew", "hebrew", "iso-8859-8", "iso-8859-8-e",
     "iso-8859-8-i", "iso-ir-138", "iso8859-8", "iso88598", "iso_8859-8", "iso_8859-8:1988",
     "logical", "visual"], .oneByte .iso8859Part8),
   (["csisolatin6", "iso-8859-10", "iso-ir-157", "iso8859-10", "iso885910", "l6", "latin6"],
     .oneByte .iso8859Part10),
   (["iso-8859-13", "iso8859-13", "iso885913"], .oneByte .iso8859Part13),
   (["iso-8859-14", "iso8859-14", "iso885914"], .oneByte .iso8859Part14),
   (["csisolatin9", "iso-8859-15", "iso8859-15", "iso885915", "iso_8859-15", "l9"],
     .oneByte .iso8859Part15),
   (["iso-8859-16"], .oneByte .iso8859Part16),
   (["dos-874", "iso-8859-11", "iso8859-11", "iso885911", "tis-620", "windows-874"],
     .oneByte .windows874),
   (["cp1250", "windows-1250", "x-cp1250"], .oneByte .windows1250),
   (["cp1251", "windows-1251", "x-cp1251"], .oneByte .windows1251),
   (["ansi_x3.4-1968", "ascii", "cp1252", "cp819", "csisolatin1", "ibm819", "iso-8859-1",
     "iso-ir-100", "iso8859-1", "iso88591", "iso_8859-1", "iso_8859-1:1987", "l1", "latin1",
     "us-ascii", "windows-1252", "x-cp1252"], .oneByte .windows1252),
   (["cp1253", "windows-1253", "x-cp1253"], .oneByte .windows1253),
   (["cp1254", "csisolatin5", "iso-8859-9", "iso-ir-148", "iso8859-9", "iso88599", "iso_8859-9",
     "iso_8859-9:1989", "l5", "latin5", "windows-1254", "x-cp1254"], .oneByte .windows1254),
   (["cp1255", "windows-1255", "x-cp1255"], .oneByte .windows1255),
   (["cp1256", "windows-1256", "x-cp1256"], .oneByte .windows1256),
   (["cp1257", "windows-1257", "x-cp1257"], .oneByte .windows1257),
   (["cp1258", "windows-1258", "x-cp1258"], .oneByte .windows1258),
   (["866", "cp866", "csibm866", "ibm866"], .oneByte .ibm866),
   (["cskoi8r", "koi", "koi8", "koi8-r", "koi8_r"], .oneByte .koi8R),
   (["koi8-ru", "koi8-u"], .oneByte .koi8U),
   (["csmacintosh", "mac", "macintosh", "x-mac-roman"], .oneByte .macintosh),
   (["x-mac-cyrillic", "x-mac-ukrainian"], .oneByte .macCyrillic),
   (["x-user-defined"], .oneByte .userDefined),
   (["csiso2022kr", "hz-gb-2312", "iso-2022-cn", "iso-2022-cn-ext", "iso-2022-kr", "replacement"],
     .retired),
   (["chinese", "csgb2312", "csiso58gb231280", "gb2312", "gb_2312", "gb_2312-80", "gbk",
     "iso-ir-58", "x-gbk"], .multibyte),
   (["gb18030"], .multibyte),
   (["big5", "big5-hkscs", "cn-big5", "csbig5", "x-x-big5"], .multibyte),
   (["cseucpkdfmtjapanese", "euc-jp", "x-euc-jp"], .multibyte),
   (["csiso2022jp", "iso-2022-jp"], .multibyte),
   (["csshiftjis", "ms932", "ms_kanji", "shift-jis", "shift_jis", "sjis", "windows-31j", "x-sjis"],
     .multibyte),
   (["cseuckr", "csksc56011987", "euc-kr", "iso-ir-149", "korean", "ks_c_5601-1987",
     "ks_c_5601-1989", "ksc5601", "ksc_5601", "windows-949"], .multibyte)]

/-- The character set with a name, in any case and with spaces around it. Unknown names stand for
UTF-8. -/
def ofName (name : List Char) : Charset :=
  let isSpace := fun c : Char => c == ' '
  let bare := ((name.dropWhile isSpace).reverse.dropWhile isSpace).reverse
  let lower := String.ofList (bare.map Char.toLower)
  ((named.find? (fun entry => entry.1.contains lower)).map Prod.snd).getD .utf8

/-! ## 2. Reading -/

/-- The units of two bytes. A single byte at the end is no unit. -/
def units16 (bigEndian : Bool) : List UInt8 → List (Option Nat)
  | [] => []
  | [_] => [none]
  | a :: b :: rest =>
    some (if bigEndian then a.toNat * 256 + b.toNat else b.toNat * 256 + a.toNat) ::
      units16 bigEndian rest

/-- The characters of units: a pair of surrogates is one character, and what is not paired is
faulty. -/
def ofUnits16 : List (Option Nat) → List Char
  | [] => []
  | some high :: some low :: rest =>
    if 0xD800 ≤ high ∧ high < 0xDC00 then
      if 0xDC00 ≤ low ∧ low < 0xE000 then
        Char.ofNat (0x10000 + (high - 0xD800) * 0x400 + (low - 0xDC00)) :: ofUnits16 rest
      else '\uFFFD' :: ofUnits16 (some low :: rest)
    else if 0xDC00 ≤ high ∧ high < 0xE000 then '\uFFFD' :: ofUnits16 (some low :: rest)
    else Char.ofNat high :: ofUnits16 (some low :: rest)
  | some unit :: none :: _ =>
    if 0xD800 ≤ unit ∧ unit < 0xDC00 then ['\uFFFD']
    else if 0xDC00 ≤ unit ∧ unit < 0xE000 then ['\uFFFD', '\uFFFD']
    else [Char.ofNat unit, '\uFFFD']
  | [some unit] =>
    if 0xD800 ≤ unit ∧ unit < 0xE000 then ['\uFFFD'] else [Char.ofNat unit]
  | none :: _ => ['\uFFFD']

/-- The text that bytes mean in a character set, unless the set is one of several bytes. -/
def decode? : Charset → List UInt8 → Option (List Char)
  | .utf8, bytes => some (Utf8.decodeLossy bytes)
  | .utf16 bigEndian, bytes => some (ofUnits16 (units16 bigEndian bytes))
  | .oneByte page, bytes => some (bytes.map page.charOf)
  | .retired, bytes => some (if bytes.isEmpty then [] else ['\uFFFD'])
  | .multibyte, _ => none

/-- The text that bytes mean, where a byte order mark wins over the character set. -/
def decodeMarked? (charset : Charset) : List UInt8 → Option (List Char)
  | 0xEF :: 0xBB :: 0xBF :: rest => decode? .utf8 rest
  | 0xFF :: 0xFE :: rest => decode? (.utf16 false) rest
  | 0xFE :: 0xFF :: rest => decode? (.utf16 true) rest
  | bytes => decode? charset bytes

end Charset

end Relay.Text
