/-!
# Character sets of one byte for a character

In these sets (`Codepage`) the bytes below 0x80 are ASCII. A set is given by its upper half, and a
byte there that has no character stands for U+FFFD.
-/

namespace Relay.Text

/-- A character set of one byte for a character. -/
structure Codepage where
  /-- The characters of the bytes from 0x80 on. -/
  upper : List Char
  complete : upper.length = 128
  deriving DecidableEq, Repr

namespace Codepage

/-- The character of a byte. -/
def charOf (page : Codepage) (b : UInt8) : Char :=
  if b.toNat < 0x80 then Char.ofNat b.toNat
  else
    have hupper : b.toNat - 0x80 < page.upper.length := by
      rw [page.complete]
      have hbyte := b.toNat_lt
      omega
    page.upper[b.toNat - 0x80]

/-- Characters one behind the other. -/
def span (first length : Nat) : List Char :=
  (List.range length).map (fun n => Char.ofNat (first + n))

/-- Bytes without a character. -/
def gap (length : Nat) : List Char :=
  List.replicate length '\uFFFD'

/-! ## 1. ISO 8859 -/

/-- ISO 8859-2. -/
def iso8859Part2 : Codepage where
  upper :=
    span 0x80 33 ++ ['Ą', '˘', 'Ł', '¤', 'Ľ', 'Ś', '§', '¨', 'Š', 'Ş', 'Ť', 'Ź', '\xAD', 'Ž', 'Ż',
      '°', 'ą', '˛', 'ł', '´', 'ľ', 'ś', 'ˇ', '¸', 'š', 'ş', 'ť', 'ź', '˝', 'ž', 'ż', 'Ŕ', 'Á', 'Â',
      'Ă', 'Ä', 'Ĺ', 'Ć', 'Ç', 'Č', 'É', 'Ę', 'Ë', 'Ě', 'Í', 'Î', 'Ď', 'Đ', 'Ń', 'Ň', 'Ó', 'Ô', 'Ő',
      'Ö', '×', 'Ř', 'Ů', 'Ú', 'Ű', 'Ü', 'Ý', 'Ţ', 'ß', 'ŕ', 'á', 'â', 'ă', 'ä', 'ĺ', 'ć', 'ç', 'č',
      'é', 'ę', 'ë', 'ě', 'í', 'î', 'ď', 'đ', 'ń', 'ň', 'ó', 'ô', 'ő', 'ö', '÷', 'ř', 'ů', 'ú', 'ű',
      'ü', 'ý', 'ţ', '˙']
  complete := rfl

/-- ISO 8859-3. -/
def iso8859Part3 : Codepage where
  upper :=
    span 0x80 33 ++ ['Ħ', '˘', '£', '¤', '\uFFFD', 'Ĥ', '§', '¨', 'İ', 'Ş', 'Ğ', 'Ĵ', '\xAD',
      '\uFFFD', 'Ż', '°', 'ħ', '²', '³', '´', 'µ', 'ĥ', '·', '¸', 'ı', 'ş', 'ğ', 'ĵ', '½', '\uFFFD',
      'ż', 'À', 'Á', 'Â', '\uFFFD', 'Ä', 'Ċ', 'Ĉ', 'Ç', 'È', 'É', 'Ê', 'Ë', 'Ì', 'Í', 'Î', 'Ï',
      '\uFFFD', 'Ñ', 'Ò', 'Ó', 'Ô', 'Ġ', 'Ö', '×', 'Ĝ', 'Ù', 'Ú', 'Û', 'Ü', 'Ŭ', 'Ŝ', 'ß', 'à', 'á',
      'â', '\uFFFD', 'ä', 'ċ', 'ĉ', 'ç', 'è', 'é', 'ê', 'ë', 'ì', 'í', 'î', 'ï', '\uFFFD', 'ñ', 'ò',
      'ó', 'ô', 'ġ', 'ö', '÷', 'ĝ', 'ù', 'ú', 'û', 'ü', 'ŭ', 'ŝ', '˙']
  complete := rfl

/-- ISO 8859-4. -/
def iso8859Part4 : Codepage where
  upper :=
    span 0x80 33 ++ ['Ą', 'ĸ', 'Ŗ', '¤', 'Ĩ', 'Ļ', '§', '¨', 'Š', 'Ē', 'Ģ', 'Ŧ', '\xAD', 'Ž', '¯',
      '°', 'ą', '˛', 'ŗ', '´', 'ĩ', 'ļ', 'ˇ', '¸', 'š', 'ē', 'ģ', 'ŧ', 'Ŋ', 'ž', 'ŋ', 'Ā', 'Á', 'Â',
      'Ã', 'Ä', 'Å', 'Æ', 'Į', 'Č', 'É', 'Ę', 'Ë', 'Ė', 'Í', 'Î', 'Ī', 'Đ', 'Ņ', 'Ō', 'Ķ', 'Ô', 'Õ',
      'Ö', '×', 'Ø', 'Ų', 'Ú', 'Û', 'Ü', 'Ũ', 'Ū', 'ß', 'ā', 'á', 'â', 'ã', 'ä', 'å', 'æ', 'į', 'č',
      'é', 'ę', 'ë', 'ė', 'í', 'î', 'ī', 'đ', 'ņ', 'ō', 'ķ', 'ô', 'õ', 'ö', '÷', 'ø', 'ų', 'ú', 'û',
      'ü', 'ũ', 'ū', '˙']
  complete := rfl

/-- ISO 8859-5. -/
def iso8859Part5 : Codepage where
  upper :=
    span 0x80 33 ++ span 0x401 12 ++ ['\xAD'] ++ span 0x40E 66 ++ ['№'] ++ span 0x451 12 ++ ['§',
      'ў', 'џ']
  complete := rfl

/-- ISO 8859-6. -/
def iso8859Part6 : Codepage where
  upper :=
    span 0x80 33 ++ gap 3 ++ ['¤'] ++ gap 7 ++ ['،', '\xAD'] ++ gap 13 ++ ['\u061B'] ++ gap 3 ++
      ['\u061F', '\uFFFD'] ++ span 0x621 26 ++ gap 5 ++ span 0x640 19 ++ gap 13
  complete := rfl

/-- ISO 8859-7. -/
def iso8859Part7 : Codepage where
  upper :=
    span 0x80 33 ++ ['‘', '’', '£', '€', '₯', '¦', '§', '¨', '©', 'ͺ', '«', '¬', '\xAD', '\uFFFD',
      '―', '°', '±', '²', '³', '΄', '΅', 'Ά', '·', 'Έ', 'Ή', 'Ί', '»', 'Ό', '½'] ++ span 0x38E 20 ++
      ['\uFFFD'] ++ span 0x3A3 44 ++ ['\uFFFD']
  complete := rfl

/-- ISO 8859-8. -/
def iso8859Part8 : Codepage where
  upper :=
    span 0x80 33 ++ ['\uFFFD', '¢', '£', '¤', '¥', '¦', '§', '¨', '©', '×'] ++ span 0xAB 15 ++ ['÷',
      '»', '¼', '½', '¾'] ++ gap 32 ++ ['‗'] ++ span 0x5D0 27 ++ gap 2 ++ ['\u200E', '\u200F',
      '\uFFFD']
  complete := rfl

/-- ISO 8859-10. -/
def iso8859Part10 : Codepage where
  upper :=
    span 0x80 33 ++ ['Ą', 'Ē', 'Ģ', 'Ī', 'Ĩ', 'Ķ', '§', 'Ļ', 'Đ', 'Š', 'Ŧ', 'Ž', '\xAD', 'Ū', 'Ŋ',
      '°', 'ą', 'ē', 'ģ', 'ī', 'ĩ', 'ķ', '·', 'ļ', 'đ', 'š', 'ŧ', 'ž', '―', 'ū', 'ŋ', 'Ā', 'Á', 'Â',
      'Ã', 'Ä', 'Å', 'Æ', 'Į', 'Č', 'É', 'Ę', 'Ë', 'Ė', 'Í', 'Î', 'Ï', 'Ð', 'Ņ', 'Ō', 'Ó', 'Ô', 'Õ',
      'Ö', 'Ũ', 'Ø', 'Ų', 'Ú', 'Û', 'Ü', 'Ý', 'Þ', 'ß', 'ā', 'á', 'â', 'ã', 'ä', 'å', 'æ', 'į', 'č',
      'é', 'ę', 'ë', 'ė', 'í', 'î', 'ï', 'ð', 'ņ', 'ō', 'ó', 'ô', 'õ', 'ö', 'ũ', 'ø', 'ų', 'ú', 'û',
      'ü', 'ý', 'þ', 'ĸ']
  complete := rfl

/-- ISO 8859-13. -/
def iso8859Part13 : Codepage where
  upper :=
    span 0x80 33 ++ ['”', '¢', '£', '¤', '„', '¦', '§', 'Ø', '©', 'Ŗ', '«', '¬', '\xAD', '®', 'Æ',
      '°', '±', '²', '³', '“', 'µ', '¶', '·', 'ø', '¹', 'ŗ', '»', '¼', '½', '¾', 'æ', 'Ą', 'Į', 'Ā',
      'Ć', 'Ä', 'Å', 'Ę', 'Ē', 'Č', 'É', 'Ź', 'Ė', 'Ģ', 'Ķ', 'Ī', 'Ļ', 'Š', 'Ń', 'Ņ', 'Ó', 'Ō', 'Õ',
      'Ö', '×', 'Ų', 'Ł', 'Ś', 'Ū', 'Ü', 'Ż', 'Ž', 'ß', 'ą', 'į', 'ā', 'ć', 'ä', 'å', 'ę', 'ē', 'č',
      'é', 'ź', 'ė', 'ģ', 'ķ', 'ī', 'ļ', 'š', 'ń', 'ņ', 'ó', 'ō', 'õ', 'ö', '÷', 'ų', 'ł', 'ś', 'ū',
      'ü', 'ż', 'ž', '’']
  complete := rfl

/-- ISO 8859-14. -/
def iso8859Part14 : Codepage where
  upper :=
    span 0x80 33 ++ ['Ḃ', 'ḃ', '£', 'Ċ', 'ċ', 'Ḋ', '§', 'Ẁ', '©', 'Ẃ', 'ḋ', 'Ỳ', '\xAD', '®', 'Ÿ',
      'Ḟ', 'ḟ', 'Ġ', 'ġ', 'Ṁ', 'ṁ', '¶', 'Ṗ', 'ẁ', 'ṗ', 'ẃ', 'Ṡ', 'ỳ', 'Ẅ', 'ẅ', 'ṡ'] ++
      span 0xC0 16 ++ ['Ŵ', 'Ñ', 'Ò', 'Ó', 'Ô', 'Õ', 'Ö', 'Ṫ', 'Ø', 'Ù', 'Ú', 'Û', 'Ü', 'Ý', 'Ŷ'] ++
      span 0xDF 17 ++ ['ŵ', 'ñ', 'ò', 'ó', 'ô', 'õ', 'ö', 'ṫ', 'ø', 'ù', 'ú', 'û', 'ü', 'ý', 'ŷ',
      'ÿ']
  complete := rfl

/-- ISO 8859-15. -/
def iso8859Part15 : Codepage where
  upper :=
    span 0x80 36 ++ ['€', '¥', 'Š', '§', 'š'] ++ span 0xA9 11 ++ ['Ž', 'µ', '¶', '·', 'ž', '¹', 'º',
      '»', 'Œ', 'œ', 'Ÿ'] ++ span 0xBF 65
  complete := rfl

/-- ISO 8859-16. -/
def iso8859Part16 : Codepage where
  upper :=
    span 0x80 33 ++ ['Ą', 'ą', 'Ł', '€', '„', 'Š', '§', 'š', '©', 'Ș', '«', 'Ź', '\xAD', 'ź', 'Ż',
      '°', '±', 'Č', 'ł', 'Ž', '”', '¶', '·', 'ž', 'č', 'ș', '»', 'Œ', 'œ', 'Ÿ', 'ż', 'À', 'Á', 'Â',
      'Ă', 'Ä', 'Ć'] ++ span 0xC6 10 ++ ['Đ', 'Ń', 'Ò', 'Ó', 'Ô', 'Ő', 'Ö', 'Ś', 'Ű', 'Ù', 'Ú', 'Û',
      'Ü', 'Ę', 'Ț', 'ß', 'à', 'á', 'â', 'ă', 'ä', 'ć'] ++ span 0xE6 10 ++ ['đ', 'ń', 'ò', 'ó', 'ô',
      'ő', 'ö', 'ś', 'ű', 'ù', 'ú', 'û', 'ü', 'ę', 'ț', 'ÿ']
  complete := rfl

/-! ## 2. Windows -/

/-- Windows-874. -/
def windows874 : Codepage where
  upper :=
    ['€', '\x81', '\x82', '\x83', '\x84', '…'] ++ span 0x86 11 ++ ['‘', '’', '“', '”', '•', '–',
      '—', '\x98', '\x99', '\x9A', '\x9B', '\x9C', '\x9D', '\x9E', '\x9F', '\xA0'] ++
      span 0xE01 58 ++ gap 4 ++ span 0xE3F 29 ++ gap 4
  complete := rfl

/-- Windows-1250. -/
def windows1250 : Codepage where
  upper :=
    ['€', '\x81', '‚', '\x83', '„', '…', '†', '‡', '\x88', '‰', 'Š', '‹', 'Ś', 'Ť', 'Ž', 'Ź',
      '\x90', '‘', '’', '“', '”', '•', '–', '—', '\x98', '™', 'š', '›', 'ś', 'ť', 'ž', 'ź', '\xA0',
      'ˇ', '˘', 'Ł', '¤', 'Ą', '¦', '§', '¨', '©', 'Ş', '«', '¬', '\xAD', '®', 'Ż', '°', '±', '˛',
      'ł', '´', 'µ', '¶', '·', '¸', 'ą', 'ş', '»', 'Ľ', '˝', 'ľ', 'ż', 'Ŕ', 'Á', 'Â', 'Ă', 'Ä', 'Ĺ',
      'Ć', 'Ç', 'Č', 'É', 'Ę', 'Ë', 'Ě', 'Í', 'Î', 'Ď', 'Đ', 'Ń', 'Ň', 'Ó', 'Ô', 'Ő', 'Ö', '×', 'Ř',
      'Ů', 'Ú', 'Ű', 'Ü', 'Ý', 'Ţ', 'ß', 'ŕ', 'á', 'â', 'ă', 'ä', 'ĺ', 'ć', 'ç', 'č', 'é', 'ę', 'ë',
      'ě', 'í', 'î', 'ď', 'đ', 'ń', 'ň', 'ó', 'ô', 'ő', 'ö', '÷', 'ř', 'ů', 'ú', 'ű', 'ü', 'ý', 'ţ',
      '˙']
  complete := rfl

/-- Windows-1251. -/
def windows1251 : Codepage where
  upper :=
    ['Ђ', 'Ѓ', '‚', 'ѓ', '„', '…', '†', '‡', '€', '‰', 'Љ', '‹', 'Њ', 'Ќ', 'Ћ', 'Џ', 'ђ', '‘', '’',
      '“', '”', '•', '–', '—', '\x98', '™', 'љ', '›', 'њ', 'ќ', 'ћ', 'џ', '\xA0', 'Ў', 'ў', 'Ј',
      '¤', 'Ґ', '¦', '§', 'Ё', '©', 'Є', '«', '¬', '\xAD', '®', 'Ї', '°', '±', 'І', 'і', 'ґ', 'µ',
      '¶', '·', 'ё', '№', 'є', '»', 'ј', 'Ѕ', 'ѕ', 'ї'] ++ span 0x410 64
  complete := rfl

/-- Windows-1252. -/
def windows1252 : Codepage where
  upper :=
    ['€', '\x81', '‚', 'ƒ', '„', '…', '†', '‡', 'ˆ', '‰', 'Š', '‹', 'Œ', '\x8D', 'Ž', '\x8F',
      '\x90', '‘', '’', '“', '”', '•', '–', '—', '˜', '™', 'š', '›', 'œ', '\x9D', 'ž', 'Ÿ'] ++
      span 0xA0 96
  complete := rfl

/-- Windows-1253. -/
def windows1253 : Codepage where
  upper :=
    ['€', '\x81', '‚', 'ƒ', '„', '…', '†', '‡', '\x88', '‰', '\x8A', '‹', '\x8C', '\x8D', '\x8E',
      '\x8F', '\x90', '‘', '’', '“', '”', '•', '–', '—', '\x98', '™', '\x9A', '›', '\x9C', '\x9D',
      '\x9E', '\x9F', '\xA0', '΅', 'Ά', '£', '¤', '¥', '¦', '§', '¨', '©', '\uFFFD', '«', '¬',
      '\xAD', '®', '―', '°', '±', '²', '³', '΄', 'µ', '¶', '·', 'Έ', 'Ή', 'Ί', '»', 'Ό', '½'] ++
      span 0x38E 20 ++ ['\uFFFD'] ++ span 0x3A3 44 ++ ['\uFFFD']
  complete := rfl

/-- Windows-1254. -/
def windows1254 : Codepage where
  upper :=
    ['€', '\x81', '‚', 'ƒ', '„', '…', '†', '‡', 'ˆ', '‰', 'Š', '‹', 'Œ', '\x8D', '\x8E', '\x8F',
      '\x90', '‘', '’', '“', '”', '•', '–', '—', '˜', '™', 'š', '›', 'œ', '\x9D', '\x9E', 'Ÿ'] ++
      span 0xA0 48 ++ ['Ğ'] ++ span 0xD1 12 ++ ['İ', 'Ş'] ++ span 0xDF 17 ++ ['ğ'] ++
      span 0xF1 12 ++ ['ı', 'ş', 'ÿ']
  complete := rfl

/-- Windows-1255. -/
def windows1255 : Codepage where
  upper :=
    ['€', '\x81', '‚', 'ƒ', '„', '…', '†', '‡', 'ˆ', '‰', '\x8A', '‹', '\x8C', '\x8D', '\x8E',
      '\x8F', '\x90', '‘', '’', '“', '”', '•', '–', '—', '˜', '™', '\x9A', '›', '\x9C', '\x9D',
      '\x9E', '\x9F', '\xA0', '¡', '¢', '£', '₪', '¥', '¦', '§', '¨', '©', '×'] ++ span 0xAB 15 ++
      ['÷', '»', '¼', '½', '¾', '¿'] ++ span 0x5B0 20 ++ ['\u05F0', '\u05F1', '\u05F2', '\u05F3',
      '\u05F4'] ++ gap 7 ++ span 0x5D0 27 ++ gap 2 ++ ['\u200E', '\u200F', '\uFFFD']
  complete := rfl

/-- Windows-1256. -/
def windows1256 : Codepage where
  upper :=
    ['€', '\u067E', '‚', 'ƒ', '„', '…', '†', '‡', 'ˆ', '‰', '\u0679', '‹', 'Œ', '\u0686', '\u0698',
      '\u0688', '\u06AF', '‘', '’', '“', '”', '•', '–', '—', '\u06A9', '™', '\u0691', '›', 'œ',
      '\u200C', '\u200D', '\u06BA', '\xA0', '،', '¢', '£', '¤', '¥', '¦', '§', '¨', '©',
      '\u06BE'] ++ span 0xAB 15 ++ ['\u061B', '»', '¼', '½', '¾', '\u061F', '\u06C1'] ++
      span 0x621 22 ++ ['×', '\u0637', '\u0638', '\u0639', '\u063A', '\u0640', '\u0641', '\u0642',
      '\u0643', 'à', '\u0644', 'â', '\u0645', '\u0646', '\u0647', '\u0648', 'ç', 'è', 'é', 'ê', 'ë',
      '\u0649', '\u064A', 'î', 'ï', '\u064B', '\u064C', '\u064D', '\u064E', 'ô', '\u064F', '\u0650',
      '÷', '\u0651', 'ù', '\u0652', 'û', 'ü', '\u200E', '\u200F', '\u06D2']
  complete := rfl

/-- Windows-1257. -/
def windows1257 : Codepage where
  upper :=
    ['€', '\x81', '‚', '\x83', '„', '…', '†', '‡', '\x88', '‰', '\x8A', '‹', '\x8C', '¨', 'ˇ', '¸',
      '\x90', '‘', '’', '“', '”', '•', '–', '—', '\x98', '™', '\x9A', '›', '\x9C', '¯', '˛', '\x9F',
      '\xA0', '\uFFFD', '¢', '£', '¤', '\uFFFD', '¦', '§', 'Ø', '©', 'Ŗ', '«', '¬', '\xAD', '®',
      'Æ', '°', '±', '²', '³', '´', 'µ', '¶', '·', 'ø', '¹', 'ŗ', '»', '¼', '½', '¾', 'æ', 'Ą', 'Į',
      'Ā', 'Ć', 'Ä', 'Å', 'Ę', 'Ē', 'Č', 'É', 'Ź', 'Ė', 'Ģ', 'Ķ', 'Ī', 'Ļ', 'Š', 'Ń', 'Ņ', 'Ó', 'Ō',
      'Õ', 'Ö', '×', 'Ų', 'Ł', 'Ś', 'Ū', 'Ü', 'Ż', 'Ž', 'ß', 'ą', 'į', 'ā', 'ć', 'ä', 'å', 'ę', 'ē',
      'č', 'é', 'ź', 'ė', 'ģ', 'ķ', 'ī', 'ļ', 'š', 'ń', 'ņ', 'ó', 'ō', 'õ', 'ö', '÷', 'ų', 'ł', 'ś',
      'ū', 'ü', 'ż', 'ž', '˙']
  complete := rfl

/-- Windows-1258. -/
def windows1258 : Codepage where
  upper :=
    ['€', '\x81', '‚', 'ƒ', '„', '…', '†', '‡', 'ˆ', '‰', '\x8A', '‹', 'Œ', '\x8D', '\x8E', '\x8F',
      '\x90', '‘', '’', '“', '”', '•', '–', '—', '˜', '™', '\x9A', '›', 'œ', '\x9D', '\x9E', 'Ÿ'] ++
      span 0xA0 35 ++ ['Ă', 'Ä', 'Å', 'Æ', 'Ç', 'È', 'É', 'Ê', 'Ë', '\u0300', 'Í', 'Î', 'Ï', 'Đ',
      'Ñ', '\u0309', 'Ó', 'Ô', 'Ơ', 'Ö', '×', 'Ø', 'Ù', 'Ú', 'Û', 'Ü', 'Ư', '\u0303', 'ß', 'à', 'á',
      'â', 'ă', 'ä', 'å', 'æ', 'ç', 'è', 'é', 'ê', 'ë', '\u0301', 'í', 'î', 'ï', 'đ', 'ñ', '\u0323',
      'ó', 'ô', 'ơ', 'ö', '÷', 'ø', 'ù', 'ú', 'û', 'ü', 'ư', '₫', 'ÿ']
  complete := rfl

/-! ## 3. Others -/

/-- IBM 866. -/
def ibm866 : Codepage where
  upper :=
    span 0x410 48 ++ ['░', '▒', '▓', '│', '┤', '╡', '╢', '╖', '╕', '╣', '║', '╗', '╝', '╜', '╛',
      '┐', '└', '┴', '┬', '├', '─', '┼', '╞', '╟', '╚', '╔', '╩', '╦', '╠', '═', '╬', '╧', '╨', '╤',
      '╥', '╙', '╘', '╒', '╓', '╫', '╪', '┘', '┌', '█', '▄', '▌', '▐', '▀'] ++ span 0x440 16 ++
      ['Ё', 'ё', 'Є', 'є', 'Ї', 'ї', 'Ў', 'ў', '°', '∙', '·', '√', '№', '¤', '■', '\xA0']
  complete := rfl

/-- KOI8-R. -/
def koi8R : Codepage where
  upper :=
    ['─', '│', '┌', '┐', '└', '┘', '├', '┤', '┬', '┴', '┼', '▀', '▄', '█', '▌', '▐', '░', '▒', '▓',
      '⌠', '■', '∙', '√', '≈', '≤', '≥', '\xA0', '⌡', '°', '²', '·', '÷', '═', '║', '╒', 'ё'] ++
      span 0x2553 15 ++ ['Ё'] ++ span 0x2562 11 ++ ['©', 'ю', 'а', 'б', 'ц', 'д', 'е', 'ф', 'г',
      'х', 'и', 'й', 'к', 'л', 'м', 'н', 'о', 'п', 'я', 'р', 'с', 'т', 'у', 'ж', 'в', 'ь', 'ы', 'з',
      'ш', 'э', 'щ', 'ч', 'ъ', 'Ю', 'А', 'Б', 'Ц', 'Д', 'Е', 'Ф', 'Г', 'Х', 'И', 'Й', 'К', 'Л', 'М',
      'Н', 'О', 'П', 'Я', 'Р', 'С', 'Т', 'У', 'Ж', 'В', 'Ь', 'Ы', 'З', 'Ш', 'Э', 'Щ', 'Ч', 'Ъ']
  complete := rfl

/-- KOI8-U. -/
def koi8U : Codepage where
  upper :=
    ['─', '│', '┌', '┐', '└', '┘', '├', '┤', '┬', '┴', '┼', '▀', '▄', '█', '▌', '▐', '░', '▒', '▓',
      '⌠', '■', '∙', '√', '≈', '≤', '≥', '\xA0', '⌡', '°', '²', '·', '÷', '═', '║', '╒', 'ё', 'є',
      '╔', 'і', 'ї', '╗', '╘', '╙', '╚', '╛', 'ґ', 'ў', '╞', '╟', '╠', '╡', 'Ё', 'Є', '╣', 'І', 'Ї',
      '╦', '╧', '╨', '╩', '╪', 'Ґ', 'Ў', '©', 'ю', 'а', 'б', 'ц', 'д', 'е', 'ф', 'г', 'х', 'и', 'й',
      'к', 'л', 'м', 'н', 'о', 'п', 'я', 'р', 'с', 'т', 'у', 'ж', 'в', 'ь', 'ы', 'з', 'ш', 'э', 'щ',
      'ч', 'ъ', 'Ю', 'А', 'Б', 'Ц', 'Д', 'Е', 'Ф', 'Г', 'Х', 'И', 'Й', 'К', 'Л', 'М', 'Н', 'О', 'П',
      'Я', 'Р', 'С', 'Т', 'У', 'Ж', 'В', 'Ь', 'Ы', 'З', 'Ш', 'Э', 'Щ', 'Ч', 'Ъ']
  complete := rfl

/-- Macintosh. -/
def macintosh : Codepage where
  upper :=
    ['Ä', 'Å', 'Ç', 'É', 'Ñ', 'Ö', 'Ü', 'á', 'à', 'â', 'ä', 'ã', 'å', 'ç', 'é', 'è', 'ê', 'ë', 'í',
      'ì', 'î', 'ï', 'ñ', 'ó', 'ò', 'ô', 'ö', 'õ', 'ú', 'ù', 'û', 'ü', '†', '°', '¢', '£', '§', '•',
      '¶', 'ß', '®', '©', '™', '´', '¨', '≠', 'Æ', 'Ø', '∞', '±', '≤', '≥', '¥', 'µ', '∂', '∑', '∏',
      'π', '∫', 'ª', 'º', 'Ω', 'æ', 'ø', '¿', '¡', '¬', '√', 'ƒ', '≈', '∆', '«', '»', '…', '\xA0',
      'À', 'Ã', 'Õ', 'Œ', 'œ', '–', '—', '“', '”', '‘', '’', '÷', '◊', 'ÿ', 'Ÿ', '⁄', '€', '‹', '›',
      'ﬁ', 'ﬂ', '‡', '·', '‚', '„', '‰', 'Â', 'Ê', 'Á', 'Ë', 'È', 'Í', 'Î', 'Ï', 'Ì', 'Ó', 'Ô',
      '\uF8FF', 'Ò', 'Ú', 'Û', 'Ù', 'ı', 'ˆ', '˜', '¯', '˘', '˙', '˚', '¸', '˝', '˛', 'ˇ']
  complete := rfl

/-- Macintosh, Cyrillic. -/
def macCyrillic : Codepage where
  upper :=
    span 0x410 32 ++ ['†', '°', 'Ґ', '£', '§', '•', '¶', 'І', '®', '©', '™', 'Ђ', 'ђ', '≠', 'Ѓ',
      'ѓ', '∞', '±', '≤', '≥', 'і', 'µ', 'ґ', 'Ј', 'Є', 'є', 'Ї', 'ї', 'Љ', 'љ', 'Њ', 'њ', 'ј', 'Ѕ',
      '¬', '√', 'ƒ', '≈', '∆', '«', '»', '…', '\xA0', 'Ћ', 'ћ', 'Ќ', 'ќ', 'ѕ', '–', '—', '“', '”',
      '‘', '’', '÷', '„', 'Ў', 'ў', 'Џ', 'џ', '№', 'Ё', 'ё', 'я'] ++ span 0x430 31 ++ ['€']
  complete := rfl

/-- The characters of the upper half are left to the reader, who has private ones for them. -/
def userDefined : Codepage where
  upper := span 0xF780 128
  complete := rfl

end Codepage

end Relay.Text
