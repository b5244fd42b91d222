import TangleGateway.Text.Charset.Basic
import TangleGateway.Text.Charset.CodePage.Iso8859
import TangleGateway.Text.Charset.CodePage.Windows
import TangleGateway.Text.Charset.CodePage.Dos
import TangleGateway.Text.Charset.CodePage.Mac
import TangleGateway.Text.Charset.CodePage.Ebcdic
import TangleGateway.Text.Charset.CodePage.Regional

/-! # Names of charsets

A charset has a proper name and aliases. Letter case and the signs between words do not matter,
and in an alias a full stop counts as such a sign too.
-/

namespace TangleGateway.Charset

def isNameSign : CodePoint → Bool
  | .scalar c => c.isAlphanum || c = '.'
  | .surrogate _ => false

/-- One underscore for every run of other signs. -/
def collapse : Text → Text
  | [] => []
  | c :: t =>
    if isNameSign c then c :: collapse t
    else
      match collapse t with
      | .scalar '_' :: rest => .scalar '_' :: rest
      | rest => .scalar '_' :: rest

/-- Letters in lower case, with underscores between but not around them. -/
def normalName (t : Text) : Text :=
  let started := t.asciiLower.dropWhile fun c => !isNameSign c
  collapse (started.reverse.dropWhile fun c => !isNameSign c).reverse

open CodePage in
def registry : List (Charset × String × List String) := [
  (.page .ascii, "ascii", ["646", "ansi_x3.4_1968", "ansi_x3.4_1986", "ansi_x3_4_1968", "cp367",
    "csascii", "ibm367", "iso646_us", "iso_646.irv_1991", "iso_ir_6", "us", "us_ascii"]),
  (.page .latin1, "latin_1", ["8859", "cp819", "csisolatin1", "ibm819", "iso8859", "iso8859_1",
    "iso_8859_1", "iso_8859_1_1987", "iso_ir_100", "l1", "latin", "latin1"]),
  (.page .latin1, "iso8859_1", []),
  (.page .latin1, "charmap", []),
  (.utf7, "utf_7", ["u7", "unicode_1_1_utf_7", "utf7"]),
  (.utf8, "utf_8", ["cp65001", "u8", "utf", "utf8", "utf8_ucs2", "utf8_ucs4"]),
  (.utf8Marked, "utf_8_sig", []),
  (.utf16 none, "utf_16", ["u16", "utf16"]),
  (.utf16 (some .little), "utf_16_le", ["unicodelittleunmarked", "utf_16le"]),
  (.utf16 (some .big), "utf_16_be", ["unicodebigunmarked", "utf_16be"]),
  (.utf32 none, "utf_32", ["u32", "utf32"]),
  (.utf32 (some .little), "utf_32_le", ["utf_32le"]),
  (.utf32 (some .big), "utf_32_be", ["utf_32be"]),
  (.page Iso8859.latin2, "iso8859_2", ["csisolatin2", "iso_8859_2", "iso_8859_2_1987",
    "iso_ir_101", "l2", "latin2"]),
  (.page Iso8859.latin3, "iso8859_3", ["csisolatin3", "iso_8859_3", "iso_8859_3_1988",
    "iso_ir_109", "l3", "latin3"]),
  (.page Iso8859.latin4, "iso8859_4", ["csisolatin4", "iso_8859_4", "iso_8859_4_1988",
    "iso_ir_110", "l4", "latin4"]),
  (.page Iso8859.cyrillic, "iso8859_5", ["csisolatincyrillic", "cyrillic", "iso_8859_5",
    "iso_8859_5_1988", "iso_ir_144"]),
  (.page Iso8859.arabic, "iso8859_6", ["arabic", "asmo_708", "csisolatinarabic", "ecma_114",
    "iso_8859_6", "iso_8859_6_1987", "iso_ir_127"]),
  (.page Iso8859.greek, "iso8859_7", ["csisolatingreek", "ecma_118", "elot_928", "greek",
    "greek8", "iso_8859_7", "iso_8859_7_1987", "iso_ir_126"]),
  (.page Iso8859.hebrew, "iso8859_8", ["csisolatinhebrew", "hebrew", "iso_8859_8",
    "iso_8859_8_1988", "iso_ir_138"]),
  (.page Iso8859.latin5, "iso8859_9", ["csisolatin5", "iso_8859_9", "iso_8859_9_1989",
    "iso_ir_148", "l5", "latin5"]),
  (.page Iso8859.latin6, "iso8859_10", ["csisolatin6", "iso_8859_10", "iso_8859_10_1992",
    "iso_ir_157", "l6", "latin6"]),
  (.page Iso8859.thai, "iso8859_11", ["iso_8859_11", "iso_8859_11_2001", "thai"]),
  (.page Iso8859.latin7, "iso8859_13", ["iso_8859_13", "l7", "latin7"]),
  (.page Iso8859.latin8, "iso8859_14", ["iso_8859_14", "iso_8859_14_1998", "iso_celtic",
    "iso_ir_199", "l8", "latin8"]),
  (.page Iso8859.latin9, "iso8859_15", ["iso_8859_15", "l9", "latin9"]),
  (.page Iso8859.latin10, "iso8859_16", ["iso_8859_16", "iso_8859_16_2001", "iso_ir_226", "l10",
    "latin10"]),
  (.page Iso8859.tis620, "tis_620", ["iso_ir_166", "tis620", "tis_620_0", "tis_620_2529_0",
    "tis_620_2529_1"]),
  (.page Windows.cp874, "cp874", []),
  (.page Windows.cp1250, "cp1250", ["1250", "windows_1250"]),
  (.page Windows.cp1251, "cp1251", ["1251", "windows_1251"]),
  (.page Windows.cp1252, "cp1252", ["1252", "windows_1252"]),
  (.page Windows.cp1253, "cp1253", ["1253", "windows_1253"]),
  (.page Windows.cp1254, "cp1254", ["1254", "windows_1254"]),
  (.page Windows.cp1255, "cp1255", ["1255", "windows_1255"]),
  (.page Windows.cp1256, "cp1256", ["1256", "windows_1256"]),
  (.page Windows.cp1257, "cp1257", ["1257", "windows_1257"]),
  (.page Windows.cp1258, "cp1258", ["1258", "windows_1258"]),
  (.page Dos.cp437, "cp437", ["437", "cspc8codepage437", "ibm437"]),
  (.page Dos.cp720, "cp720", []),
  (.page Dos.cp737, "cp737", []),
  (.page Dos.cp775, "cp775", ["775", "cspc775baltic", "ibm775"]),
  (.page Dos.cp850, "cp850", ["850", "cspc850multilingual", "ibm850"]),
  (.page Dos.cp852, "cp852", ["852", "cspcp852", "ibm852"]),
  (.page Dos.cp855, "cp855", ["855", "csibm855", "ibm855"]),
  (.page Dos.cp856, "cp856", []),
  (.page Dos.cp857, "cp857", ["857", "csibm857", "ibm857"]),
  (.page Dos.cp858, "cp858", ["858", "csibm858", "ibm858"]),
  (.page Dos.cp860, "cp860", ["860", "csibm860", "ibm860"]),
  (.page Dos.cp861, "cp861", ["861", "cp_is", "csibm861", "ibm861"]),
  (.page Dos.cp862, "cp862", ["862", "cspc862latinhebrew", "ibm862"]),
  (.page Dos.cp863, "cp863", ["863", "csibm863", "ibm863"]),
  (.page Dos.cp864, "cp864", ["864", "csibm864", "ibm864"]),
  (.page Dos.cp865, "cp865", ["865", "csibm865", "ibm865"]),
  (.page Dos.cp866, "cp866", ["866", "csibm866", "ibm866"]),
  (.page Dos.cp869, "cp869", ["869", "cp_gr", "csibm869", "ibm869"]),
  (.page Dos.cp1125, "cp1125", ["1125", "cp866u", "ibm1125", "ruscii"]),
  (.page Mac.roman, "mac_roman", ["macintosh", "macroman"]),
  (.page Mac.arabic, "mac_arabic", []),
  (.page Mac.croatian, "mac_croatian", []),
  (.page Mac.cyrillic, "mac_cyrillic", ["maccyrillic"]),
  (.page Mac.farsi, "mac_farsi", []),
  (.page Mac.greek, "mac_greek", ["macgreek"]),
  (.page Mac.iceland, "mac_iceland", ["maciceland"]),
  (.page Mac.latin2, "mac_latin2", ["mac_centeuro", "maccentraleurope", "maclatin2"]),
  (.page Mac.romanian, "mac_romanian", []),
  (.page Mac.turkish, "mac_turkish", ["macturkish"]),
  (.page Ebcdic.cp037, "cp037", ["037", "csibm037", "ebcdic_cp_ca", "ebcdic_cp_nl",
    "ebcdic_cp_us", "ebcdic_cp_wt", "ibm037", "ibm039"]),
  (.page Ebcdic.cp273, "cp273", ["273", "csibm273", "ibm273"]),
  (.page Ebcdic.cp424, "cp424", ["424", "csibm424", "ebcdic_cp_he", "ibm424"]),
  (.page Ebcdic.cp500, "cp500", ["500", "csibm500", "ebcdic_cp_be", "ebcdic_cp_ch", "ibm500"]),
  (.page Ebcdic.cp875, "cp875", []),
  (.page Ebcdic.cp1026, "cp1026", ["1026", "csibm1026", "ibm1026"]),
  (.page Ebcdic.cp1140, "cp1140", ["1140", "ibm1140"]),
  (.page Regional.koi8r, "koi8_r", ["cskoi8r"]),
  (.page Regional.koi8u, "koi8_u", []),
  (.page Regional.koi8t, "koi8_t", []),
  (.page Regional.kz1048, "kz1048", ["kz_1048", "rk1048", "strk1048_2002"]),
  (.page Regional.ptcp154, "ptcp154", ["cp154", "csptcp154", "cyrillic_asian", "pt154"]),
  (.page Regional.cp1006, "cp1006", []),
  (.page Regional.roman8, "hp_roman8", ["cp1051", "csHPRoman8", "ibm1051", "r8", "roman8"]),
  (.page Regional.palm, "palmos", []),
  (.gb2312, "gb2312", ["chinese", "csiso58gb231280", "euc_cn", "euccn", "eucgb2312_cn",
    "gb2312_1980", "gb2312_80", "iso_ir_58", "x_mac_simp_chinese"]),
  (.gbk, "gbk", ["936", "cp936", "ms936"]),
  (.gb18030, "gb18030", ["gb18030_2000"]),
  (.hz, "hz", ["hz_gb", "hz_gb_2312", "hzgb"]),
  (.big5, "big5", ["big5_tw", "csbig5", "x_mac_trad_chinese"]),
  (.cp950, "cp950", ["950", "ms950"]),
  (.hkscs, "big5hkscs", ["big5_hkscs", "hkscs"]),
  (.eucKr, "euc_kr", ["euckr", "korean", "ks_c_5601", "ks_c_5601_1987", "ks_x_1001", "ksc5601",
    "ksx1001", "x_mac_korean"]),
  (.cp949, "cp949", ["949", "ms949", "uhc"]),
  (.johab, "johab", ["cp1361", "ms1361"]),
  (.shiftJis, "shift_jis", ["csshiftjis", "s_jis", "shiftjis", "sjis", "x_mac_japanese"]),
  (.cp932, "cp932", ["932", "ms932", "ms_kanji", "mskanji"]),
  (.eucJp, "euc_jp", ["eucjp", "u_jis", "ujis"]),
  (.shiftJisX0213 .first, "shift_jisx0213", ["s_jisx0213", "shiftjisx0213", "sjisx0213"]),
  (.shiftJisX0213 .second, "shift_jis_2004", ["s_jis_2004", "shiftjis2004", "sjis_2004"]),
  (.eucJisX0213 .first, "euc_jisx0213", ["eucjisx0213"]),
  (.eucJisX0213 .second, "euc_jis_2004", ["euc_jis2004", "eucjis2004", "jisx0213"]),
  (.iso2022 .kr, "iso2022_kr", ["csiso2022kr", "iso2022kr", "iso_2022_kr"]),
  (.iso2022 .jp, "iso2022_jp", ["csiso2022jp", "iso2022jp", "iso_2022_jp"]),
  (.iso2022 .jp1, "iso2022_jp_1", ["iso2022jp_1", "iso_2022_jp_1"]),
  (.iso2022 .jp2, "iso2022_jp_2", ["iso2022jp_2", "iso_2022_jp_2"]),
  (.iso2022 .jp3, "iso2022_jp_3", ["iso2022jp_3", "iso_2022_jp_3"]),
  (.iso2022 .jp2004, "iso2022_jp_2004", ["iso2022jp_2004", "iso_2022_jp_2004"]),
  (.iso2022 .jpExt, "iso2022_jp_ext", ["iso2022jp_ext", "iso_2022_jp_ext"]),
  (.escaped, "unicode_escape", []),
  (.wideEscaped, "raw_unicode_escape", []),
  (.punycode, "punycode", []),
  (.hostNames, "idna", []),
  (.undefined, "undefined", []),
  (.transfer, "base64_codec", ["base64", "base_64"]),
  (.transfer, "bz2_codec", ["bz2"]),
  (.transfer, "hex_codec", ["hex"]),
  (.transfer, "quopri_codec", ["quopri", "quoted_printable", "quotedprintable"]),
  (.transfer, "uu_codec", ["uu"]),
  (.transfer, "zlib_codec", ["zip", "zlib"]),
  (.rotation, "rot_13", ["rot13"])]

def ofName? (name : Text) : Option Charset :=
  let normal := normalName name
  let dotless := normal.map fun c => if c = .scalar '.' then .scalar '_' else c
  let withAlias (n : Text) := registry.find? fun e => e.2.2.any fun a => Text.ofString a = n
  let found := withAlias normal <|> withAlias dotless <|>
    registry.find? fun e => Text.ofString e.2.1 = normal
  found.map Prod.fst

end TangleGateway.Charset
