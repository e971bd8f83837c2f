import BigO.Text.Charset.Basic
import BigO.Text.Charset.Utf7
import BigO.Text.Charset.Escaped
import BigO.Text.Charset.Iso8859
import BigO.Text.Charset.Windows
import BigO.Text.Charset.Dos
import BigO.Text.Charset.Mac
import BigO.Text.Charset.Ebcdic
import BigO.Text.Charset.Koi8
import BigO.Text.Charset.Iso2022

/-! The names of charsets. A name is looked up in one spelling, and a point may stand for the hyphen
in the names that a charset has beside its first one. -/

namespace BigO.Text.Charset

/-- A charset with its names. -/
structure Entry where
  name : String
  others : List String
  charset : Charset

/-- Charsets of all languages, and ASCII. -/
def general : List Entry := [
  ⟨"ascii", ["646", "ansi-x3-4-1968", "ansi-x3.4-1968", "ansi-x3.4-1986", "cp367", "csascii",
    "ibm367", "iso-646.irv-1991", "iso-ir-6", "iso646-us", "us", "us-ascii"],
    .ofUnit asciiUnit⟩,
  ⟨"latin-1", ["8859", "cp819", "csisolatin1", "ibm819", "iso-8859-1", "iso-8859-1-1987",
    "iso-ir-100", "iso8859", "iso8859-1", "l1", "latin", "latin1"],
    .ofUnit latin1Unit⟩,
  ⟨"utf-8", ["cp65001", "u8", "utf", "utf8", "utf8-ucs2", "utf8-ucs4"], .utf8⟩,
  ⟨"utf-8-sig", [], .units signedUtf8Units⟩,
  ⟨"utf-16", ["u16", "utf16"], .marked 2 (utf16Unit false) [0xFE, 0xFF]⟩,
  ⟨"utf-16-le", ["unicodelittleunmarked", "utf-16le"], .ofUnit (utf16Unit false .littleEndian)⟩,
  ⟨"utf-16-be", ["unicodebigunmarked", "utf-16be"], .ofUnit (utf16Unit false .bigEndian)⟩,
  ⟨"utf-32", ["u32", "utf32"], .marked 4 (utf32Unit false) [0x00, 0x00, 0xFE, 0xFF]⟩,
  ⟨"utf-32-le", ["utf-32le"], .ofUnit (utf32Unit false .littleEndian)⟩,
  ⟨"utf-32-be", ["utf-32be"], .ofUnit (utf32Unit false .bigEndian)⟩,
  ⟨"utf-7", ["u7", "unicode-1-1-utf-7", "utf7"], .units utf7Units⟩,
  ⟨"unicode-escape", [], .units escapedUnits⟩,
  ⟨"raw-unicode-escape", [], .units rawEscapedUnits⟩,
  ⟨"charmap", [], .ofUnit latin1Unit⟩,
  ⟨"punycode", [], .punycode⟩,
  ⟨"idna", [], .domainName⟩]

/-- Charsets of single bytes. -/
def ofTables : List Entry := [
  ⟨"iso8859-2", ["csisolatin2", "iso-8859-2", "iso-8859-2-1987", "iso-ir-101", "l2", "latin2"],
    .ofTable .iso8859Part2⟩,
  ⟨"iso8859-3", ["csisolatin3", "iso-8859-3", "iso-8859-3-1988", "iso-ir-109", "l3", "latin3"],
    .ofTable .iso8859Part3⟩,
  ⟨"iso8859-4", ["csisolatin4", "iso-8859-4", "iso-8859-4-1988", "iso-ir-110", "l4", "latin4"],
    .ofTable .iso8859Part4⟩,
  ⟨"iso8859-5", ["csisolatincyrillic", "cyrillic", "iso-8859-5", "iso-8859-5-1988",
    "iso-ir-144"],
    .ofTable .iso8859Part5⟩,
  ⟨"iso8859-6", ["arabic", "asmo-708", "csisolatinarabic", "ecma-114", "iso-8859-6",
    "iso-8859-6-1987", "iso-ir-127"],
    .ofTable .iso8859Part6⟩,
  ⟨"iso8859-7", ["csisolatingreek", "ecma-118", "elot-928", "greek", "greek8", "iso-8859-7",
    "iso-8859-7-1987", "iso-ir-126"],
    .ofTable .iso8859Part7⟩,
  ⟨"iso8859-8", ["csisolatinhebrew", "hebrew", "iso-8859-8", "iso-8859-8-1988", "iso-ir-138"],
    .ofTable .iso8859Part8⟩,
  ⟨"iso8859-9", ["csisolatin5", "iso-8859-9", "iso-8859-9-1989", "iso-ir-148", "l5", "latin5"],
    .ofTable .iso8859Part9⟩,
  ⟨"iso8859-10", ["csisolatin6", "iso-8859-10", "iso-8859-10-1992", "iso-ir-157", "l6",
    "latin6"],
    .ofTable .iso8859Part10⟩,
  ⟨"iso8859-11", ["iso-8859-11", "iso-8859-11-2001", "thai"], .ofTable .iso8859Part11⟩,
  ⟨"iso8859-13", ["iso-8859-13", "l7", "latin7"], .ofTable .iso8859Part13⟩,
  ⟨"iso8859-14", ["iso-8859-14", "iso-8859-14-1998", "iso-celtic", "iso-ir-199", "l8", "latin8"],
    .ofTable .iso8859Part14⟩,
  ⟨"iso8859-15", ["iso-8859-15", "l9", "latin9"], .ofTable .iso8859Part15⟩,
  ⟨"iso8859-16", ["iso-8859-16", "iso-8859-16-2001", "iso-ir-226", "l10", "latin10"],
    .ofTable .iso8859Part16⟩,
  ⟨"tis-620", ["iso-ir-166", "tis-620-0", "tis-620-2529-0", "tis-620-2529-1", "tis620"],
    .ofTable .tis620⟩,
  ⟨"cp874", [], .ofTable .windows874⟩,
  ⟨"cp1250", ["1250", "windows-1250"], .ofTable .windows1250⟩,
  ⟨"cp1251", ["1251", "windows-1251"], .ofTable .windows1251⟩,
  ⟨"cp1252", ["1252", "windows-1252"], .ofTable .windows1252⟩,
  ⟨"cp1253", ["1253", "windows-1253"], .ofTable .windows1253⟩,
  ⟨"cp1254", ["1254", "windows-1254"], .ofTable .windows1254⟩,
  ⟨"cp1255", ["1255", "windows-1255"], .ofTable .windows1255⟩,
  ⟨"cp1256", ["1256", "windows-1256"], .ofTable .windows1256⟩,
  ⟨"cp1257", ["1257", "windows-1257"], .ofTable .windows1257⟩,
  ⟨"cp1258", ["1258", "windows-1258"], .ofTable .windows1258⟩,
  ⟨"kz1048", ["kz-1048", "rk1048", "strk1048-2002"], .ofTable .kz1048⟩,
  ⟨"ptcp154", ["cp154", "csptcp154", "cyrillic-asian", "pt154"], .ofTable .ptcp154⟩,
  ⟨"palmos", [], .ofTable .palmOs⟩,
  ⟨"cp437", ["437", "cspc8codepage437", "ibm437"], .ofTable .dos437⟩,
  ⟨"cp720", [], .ofTable .dos720⟩,
  ⟨"cp737", [], .ofTable .dos737⟩,
  ⟨"cp775", ["775", "cspc775baltic", "ibm775"], .ofTable .dos775⟩,
  ⟨"cp850", ["850", "cspc850multilingual", "ibm850"], .ofTable .dos850⟩,
  ⟨"cp852", ["852", "cspcp852", "ibm852"], .ofTable .dos852⟩,
  ⟨"cp855", ["855", "csibm855", "ibm855"], .ofTable .dos855⟩,
  ⟨"cp856", [], .ofTable .dos856⟩,
  ⟨"cp857", ["857", "csibm857", "ibm857"], .ofTable .dos857⟩,
  ⟨"cp858", ["858", "csibm858", "ibm858"], .ofTable .dos858⟩,
  ⟨"cp860", ["860", "csibm860", "ibm860"], .ofTable .dos860⟩,
  ⟨"cp861", ["861", "cp-is", "csibm861", "ibm861"], .ofTable .dos861⟩,
  ⟨"cp862", ["862", "cspc862latinhebrew", "ibm862"], .ofTable .dos862⟩,
  ⟨"cp863", ["863", "csibm863", "ibm863"], .ofTable .dos863⟩,
  ⟨"cp864", ["864", "csibm864", "ibm864"], .ofTable .dos864⟩,
  ⟨"cp865", ["865", "csibm865", "ibm865"], .ofTable .dos865⟩,
  ⟨"cp866", ["866", "csibm866", "ibm866"], .ofTable .dos866⟩,
  ⟨"cp869", ["869", "cp-gr", "csibm869", "ibm869"], .ofTable .dos869⟩,
  ⟨"cp1006", [], .ofTable .dos1006⟩,
  ⟨"cp1125", ["1125", "cp866u", "ibm1125", "ruscii"], .ofTable .dos1125⟩,
  ⟨"mac-arabic", [], .ofTable .macArabic⟩,
  ⟨"mac-croatian", [], .ofTable .macCroatian⟩,
  ⟨"mac-cyrillic", ["maccyrillic"], .ofTable .macCyrillic⟩,
  ⟨"mac-farsi", [], .ofTable .macFarsi⟩,
  ⟨"mac-greek", ["macgreek"], .ofTable .macGreek⟩,
  ⟨"mac-iceland", ["maciceland"], .ofTable .macIceland⟩,
  ⟨"mac-latin2", ["mac-centeuro", "maccentraleurope", "maclatin2"], .ofTable .macLatin2⟩,
  ⟨"mac-roman", ["macintosh", "macroman"], .ofTable .macRoman⟩,
  ⟨"mac-romanian", [], .ofTable .macRomanian⟩,
  ⟨"mac-turkish", ["macturkish"], .ofTable .macTurkish⟩,
  ⟨"cp037", ["037", "csibm037", "ebcdic-cp-ca", "ebcdic-cp-nl", "ebcdic-cp-us", "ebcdic-cp-wt",
    "ibm037", "ibm039"],
    .ofTable .ebcdic037⟩,
  ⟨"cp273", ["273", "csibm273", "ibm273"], .ofTable .ebcdic273⟩,
  ⟨"cp424", ["424", "csibm424", "ebcdic-cp-he", "ibm424"], .ofTable .ebcdic424⟩,
  ⟨"cp500", ["500", "csibm500", "ebcdic-cp-be", "ebcdic-cp-ch", "ibm500"], .ofTable .ebcdic500⟩,
  ⟨"cp875", [], .ofTable .ebcdic875⟩,
  ⟨"cp1026", ["1026", "csibm1026", "ibm1026"], .ofTable .ebcdic1026⟩,
  ⟨"cp1140", ["1140", "ibm1140"], .ofTable .ebcdic1140⟩,
  ⟨"koi8-r", ["cskoi8r"], .ofTable .koi8R⟩,
  ⟨"koi8-t", [], .ofTable .koi8T⟩,
  ⟨"koi8-u", [], .ofTable .koi8U⟩,
  ⟨"hp-roman8", ["cp1051", "ibm1051", "r8", "roman8"], .ofTable .roman8⟩]

/-- Charsets of Chinese, Japanese and Korean. -/
def eastAsian : List Entry := [
  ⟨"gb2312", ["chinese", "csiso58gb231280", "euc-cn", "euccn", "eucgb2312-cn", "gb2312-1980",
    "gb2312-80", "iso-ir-58", "x-mac-simp-chinese"],
    .sequences (decodeSteps (pairStep asciiSingle (fun a b => (gb2312Pair a b).toList)))⟩,
  ⟨"gbk", ["936", "cp936", "ms936"],
    .sequences (decodeSteps (pairStep asciiSingle (fun a b => (gbkPair a b).toList)))⟩,
  ⟨"gb18030", ["gb18030-2000"], .sequences (decodeSteps gb18030Step)⟩,
  ⟨"hz", ["hz-gb", "hz-gb-2312", "hzgb"], .sequences (decodeFrom hzStep [] false 0)⟩,
  ⟨"big5", ["big5-tw", "csbig5", "x-mac-trad-chinese"],
    .sequences (decodeSteps (pairStep asciiSingle (fun a b => (big5Pair a b).toList)))⟩,
  ⟨"big5hkscs", ["big5-hkscs", "hkscs"],
    .sequences (decodeSteps (pairStep asciiSingle big5HkscsPair))⟩,
  ⟨"cp950", ["950", "ms950"],
    .sequences (decodeSteps (pairStep asciiSingle (fun a b => (windows950Pair a b).toList)))⟩,
  ⟨"euc-kr", ["euckr", "korean", "ks-c-5601", "ks-c-5601-1987", "ks-x-1001", "ksc5601",
    "ksx1001", "x-mac-korean"],
    .sequences (decodeSteps eucKrStep)⟩,
  ⟨"cp949", ["949", "ms949", "uhc"],
    .sequences (decodeSteps (pairStep asciiSingle (fun a b => (windows949Pair a b).toList)))⟩,
  ⟨"johab", ["cp1361", "ms1361"],
    .sequences (decodeSteps (pairStep asciiSingle (fun a b => (johabPair a b).toList)))⟩,
  ⟨"shift-jis", ["csshiftjis", "s-jis", "shiftjis", "sjis", "x-mac-japanese"],
    .sequences (decodeSteps (pairStep shiftSingle shiftPair))⟩,
  ⟨"cp932", ["932", "ms-kanji", "ms932", "mskanji"],
    .sequences (decodeSteps (pairStep windows932Single windows932Pair))⟩,
  ⟨"shift-jis-2004", ["s-jis-2004", "shiftjis2004", "sjis-2004"],
    .sequences (decodeSteps (shiftJisStep .second))⟩,
  ⟨"shift-jisx0213", ["s-jisx0213", "shiftjisx0213", "sjisx0213"],
    .sequences (decodeSteps (shiftJisStep .first))⟩,
  ⟨"euc-jp", ["eucjp", "u-jis", "ujis"], .sequences (decodeSteps eucJpStep)⟩,
  ⟨"euc-jis-2004", ["euc-jis2004", "eucjis2004", "jisx0213"],
    .sequences (decodeSteps (eucJisStep .second))⟩,
  ⟨"euc-jisx0213", ["eucjisx0213"], .sequences (decodeSteps (eucJisStep .first))⟩,
  ⟨"iso2022-jp", ["csiso2022jp", "iso-2022-jp", "iso2022jp"],
    .sequences (Iso2022.decode .japanese)⟩,
  ⟨"iso2022-jp-1", ["iso-2022-jp-1", "iso2022jp-1"], .sequences (Iso2022.decode .japanese1)⟩,
  ⟨"iso2022-jp-2", ["iso-2022-jp-2", "iso2022jp-2"], .sequences (Iso2022.decode .japanese2)⟩,
  ⟨"iso2022-jp-3", ["iso-2022-jp-3", "iso2022jp-3"],
    .sequences (Iso2022.decode (.japanese3 .first))⟩,
  ⟨"iso2022-jp-2004", ["iso-2022-jp-2004", "iso2022jp-2004"],
    .sequences (Iso2022.decode (.japanese3 .second))⟩,
  ⟨"iso2022-jp-ext", ["iso-2022-jp-ext", "iso2022jp-ext"],
    .sequences (Iso2022.decode .japaneseExtended)⟩,
  ⟨"iso2022-kr", ["csiso2022kr", "iso-2022-kr", "iso2022kr"], .sequences (Iso2022.decode .korean)⟩]

/-- Names that are known and give no text. -/
def textless : List Entry := [
  ⟨"base64-codec", ["base-64", "base64"], .bytesOnly⟩,
  ⟨"bz2-codec", ["bz2"], .bytesOnly⟩,
  ⟨"hex-codec", ["hex"], .bytesOnly⟩,
  ⟨"quopri-codec", ["quopri", "quoted-printable", "quotedprintable"], .bytesOnly⟩,
  ⟨"uu-codec", ["uu"], .bytesOnly⟩,
  ⟨"zlib-codec", ["zip", "zlib"], .bytesOnly⟩,
  ⟨"rot-13", ["rot13"], .rotated⟩,
  ⟨"undefined", [], .undefined⟩]

/-- All charsets that have a name. -/
def entries : List Entry := general ++ ofTables ++ eastAsian ++ textless

/-- The hyphen. -/
def hyphen : CodePoint := { val := 0x2D }

/-- The spelling of a name in which it is looked up: in lower case, runs of letters, digits and
points with a hyphen between them. -/
def spelling (name : Text) : Text :=
  let marked := name.map fun (c : CodePoint) =>
    if c.isLetter || c.isDigit || c = '.' then c.lowerAscii else hyphen
  join [hyphen] ((splitOn hyphen marked).filter (!·.isEmpty))

/-- The charset of a name. -/
def ofName? (name : Text) : Option Charset :=
  let spelling := spelling name
  let pointless := spelling.map fun (c : CodePoint) => if c = '.' then hyphen else c
  (entries.find? fun e =>
    text e.name = spelling || (e.others.map text).any fun t => t = spelling || t = pointless).map
      (·.charset)

end BigO.Text.Charset
