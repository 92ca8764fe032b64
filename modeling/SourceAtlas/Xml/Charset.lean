import SourceAtlas.Text.Basic

/-!
# Character sets of one byte

A character set assigns code points to bytes; bytes without one stand for no character.  A set is
written as runs of bytes whose code points ascend with them.  Each set is known under several names,
which are compared in lower case and with one underscore for every run of other characters than
letters, digits and full stops.
-/

namespace SourceAtlas.Xml

open Text

/-- Consecutive bytes with consecutive code points. -/
structure ByteRun where
  first : Nat
  code : Nat
  count : Nat
  deriving DecidableEq, Repr

/-- A character set with its names. -/
structure Charset where
  names : List String
  runs : List ByteRun
  deriving DecidableEq, Repr

namespace Charset

/-- The code point of a byte. -/
def code? (c : Charset) (b : UInt8) : Option Nat :=
  c.runs.findSome? fun r =>
    if r.first ≤ b.toNat ∧ b.toNat < r.first + r.count then some (r.code + (b.toNat - r.first))
    else none

/-- Names are compared in this form. -/
def normalName (t : Text) : Text :=
  let isNamePart (c : Char) : Bool := c.isAlphanum || c == '.'
  let spaced := t.map fun c => if isNamePart c then c.toLower else ' '
  join ['_'] ((splitOn ' ' spaced).filter (· ≠ []))

/-- The names in which a full stop may not replace an underscore. -/
def fixedNames : List String :=
  ["base64_codec", "bz2_codec", "euc_jis_2004", "euc_jisx0213", "euc_jp", "euc_kr", "hex_codec",
   "hp_roman8", "iso2022_jp", "iso2022_jp_1", "iso2022_jp_2", "iso2022_jp_2004", "iso2022_jp_3",
   "iso2022_jp_ext", "iso2022_kr", "iso8859_10", "iso8859_11", "iso8859_13", "iso8859_14",
   "iso8859_15", "iso8859_16", "iso8859_2", "iso8859_3", "iso8859_4", "iso8859_5", "iso8859_6",
   "iso8859_7", "iso8859_8", "iso8859_9", "koi8_r", "koi8_t", "koi8_u", "latin_1", "mac_arabic",
   "mac_croatian", "mac_cyrillic", "mac_farsi", "mac_greek", "mac_iceland", "mac_latin2",
   "mac_roman", "mac_romanian", "mac_turkish", "quopri_codec", "raw_unicode_escape", "rot_13",
   "shift_jis", "shift_jis_2004", "shift_jisx0213", "tis_620", "unicode_escape", "utf_16",
   "utf_16_be", "utf_16_le", "utf_32", "utf_32_be", "utf_32_le", "utf_7", "utf_8", "utf_8_sig",
   "uu_codec", "zlib_codec"]

/-- Whether a name in normal form is among the given ones; a full stop may replace an underscore. -/
def isNamed (names : List String) (name : Text) : Bool :=
  names.any fun n => n.toList = name ||
    ((n.toList = name.map fun c => if c = '.' then '_' else c) && !fixedNames.contains n)

/-! ## The sets -/

/-- The bytes below 128 are the code points of their number. -/
def ascii : Charset :=
  { names :=
      ["646", "ansi_x3.4_1968", "ansi_x3.4_1986", "ansi_x3_4_1968", "ascii", "cp367", "cp65001",
       "csascii", "csiso2022jp", "ibm367", "iso2022_jp", "iso2022_jp_1", "iso2022_jp_2",
       "iso2022_jp_2004", "iso2022_jp_3", "iso2022_jp_ext", "iso2022jp", "iso2022jp_1",
       "iso2022jp_2", "iso2022jp_2004", "iso2022jp_3", "iso2022jp_ext", "iso646_us", "iso_2022_jp",
       "iso_2022_jp_1", "iso_2022_jp_2", "iso_2022_jp_2004", "iso_2022_jp_3", "iso_2022_jp_ext",
       "iso_646.irv_1991", "iso_ir_6", "u8", "us", "us_ascii", "utf", "utf8", "utf8_ucs2",
       "utf8_ucs4", "utf_8", "utf_8_sig"]
    runs :=
      [⟨0, 0, 128⟩] }

/-- All bytes are the code points of their number. -/
def latin1 : Charset :=
  { names :=
      ["8859", "charmap", "cp819", "csisolatin1", "ibm819", "iso8859", "iso8859_1", "iso_8859_1",
       "iso_8859_1_1987", "iso_ir_100", "l1", "latin", "latin1", "latin_1", "raw_unicode_escape",
       "unicode_escape"]
    runs :=
      [⟨0, 0, 256⟩] }

/-- The character set `cp1006`. -/
def cp1006 : Charset :=
  { names :=
      ["cp1006"]
    runs :=
      [⟨0, 0, 161⟩, ⟨161, 1776, 10⟩, ⟨171, 1548, 1⟩, ⟨172, 1563, 1⟩, ⟨173, 173, 1⟩, ⟨174, 1567, 1⟩,
       ⟨175, 65153, 1⟩, ⟨176, 65165, 2⟩, ⟨178, 65166, 2⟩, ⟨180, 65169, 1⟩, ⟨181, 64342, 1⟩,
       ⟨182, 64344, 1⟩, ⟨183, 65171, 1⟩, ⟨184, 65173, 1⟩, ⟨185, 65175, 1⟩, ⟨186, 64358, 1⟩,
       ⟨187, 64360, 1⟩, ⟨188, 65177, 1⟩, ⟨189, 65179, 1⟩, ⟨190, 65181, 1⟩, ⟨191, 65183, 1⟩,
       ⟨192, 64378, 1⟩, ⟨193, 64380, 1⟩, ⟨194, 65185, 1⟩, ⟨195, 65187, 1⟩, ⟨196, 65189, 1⟩,
       ⟨197, 65191, 1⟩, ⟨198, 65193, 1⟩, ⟨199, 64388, 1⟩, ⟨200, 65195, 1⟩, ⟨201, 65197, 1⟩,
       ⟨202, 64396, 1⟩, ⟨203, 65199, 1⟩, ⟨204, 64394, 1⟩, ⟨205, 65201, 1⟩, ⟨206, 65203, 1⟩,
       ⟨207, 65205, 1⟩, ⟨208, 65207, 1⟩, ⟨209, 65209, 1⟩, ⟨210, 65211, 1⟩, ⟨211, 65213, 1⟩,
       ⟨212, 65215, 1⟩, ⟨213, 65217, 1⟩, ⟨214, 65221, 1⟩, ⟨215, 65225, 9⟩, ⟨224, 65235, 1⟩,
       ⟨225, 65237, 1⟩, ⟨226, 65239, 1⟩, ⟨227, 65241, 1⟩, ⟨228, 65243, 1⟩, ⟨229, 64402, 1⟩,
       ⟨230, 64404, 1⟩, ⟨231, 65245, 1⟩, ⟨232, 65247, 3⟩, ⟨235, 65251, 1⟩, ⟨236, 64414, 1⟩,
       ⟨237, 65253, 1⟩, ⟨238, 65255, 1⟩, ⟨239, 65157, 1⟩, ⟨240, 65261, 1⟩, ⟨241, 64422, 1⟩,
       ⟨242, 64424, 3⟩, ⟨245, 65152, 1⟩, ⟨246, 65161, 3⟩, ⟨249, 65265, 3⟩, ⟨252, 64432, 1⟩,
       ⟨253, 64430, 1⟩, ⟨254, 65148, 2⟩] }

/-- The character set `cp1125`. -/
def cp1125 : Charset :=
  { names :=
      ["1125", "cp1125", "cp866u", "ibm1125", "ruscii"]
    runs :=
      [⟨0, 0, 128⟩, ⟨128, 1040, 48⟩, ⟨176, 9617, 3⟩, ⟨179, 9474, 1⟩, ⟨180, 9508, 1⟩, ⟨181, 9569, 2⟩,
       ⟨183, 9558, 1⟩, ⟨184, 9557, 1⟩, ⟨185, 9571, 1⟩, ⟨186, 9553, 1⟩, ⟨187, 9559, 1⟩,
       ⟨188, 9565, 1⟩, ⟨189, 9564, 1⟩, ⟨190, 9563, 1⟩, ⟨191, 9488, 1⟩, ⟨192, 9492, 1⟩,
       ⟨193, 9524, 1⟩, ⟨194, 9516, 1⟩, ⟨195, 9500, 1⟩, ⟨196, 9472, 1⟩, ⟨197, 9532, 1⟩,
       ⟨198, 9566, 2⟩, ⟨200, 9562, 1⟩, ⟨201, 9556, 1⟩, ⟨202, 9577, 1⟩, ⟨203, 9574, 1⟩,
       ⟨204, 9568, 1⟩, ⟨205, 9552, 1⟩, ⟨206, 9580, 1⟩, ⟨207, 9575, 2⟩, ⟨209, 9572, 2⟩,
       ⟨211, 9561, 1⟩, ⟨212, 9560, 1⟩, ⟨213, 9554, 2⟩, ⟨215, 9579, 1⟩, ⟨216, 9578, 1⟩,
       ⟨217, 9496, 1⟩, ⟨218, 9484, 1⟩, ⟨219, 9608, 1⟩, ⟨220, 9604, 1⟩, ⟨221, 9612, 1⟩,
       ⟨222, 9616, 1⟩, ⟨223, 9600, 1⟩, ⟨224, 1088, 16⟩, ⟨240, 1025, 1⟩, ⟨241, 1105, 1⟩,
       ⟨242, 1168, 2⟩, ⟨244, 1028, 1⟩, ⟨245, 1108, 1⟩, ⟨246, 1030, 1⟩, ⟨247, 1110, 1⟩,
       ⟨248, 1031, 1⟩, ⟨249, 1111, 1⟩, ⟨250, 183, 1⟩, ⟨251, 8730, 1⟩, ⟨252, 8470, 1⟩, ⟨253, 164, 1⟩,
       ⟨254, 9632, 1⟩, ⟨255, 160, 1⟩] }

/-- The character set `cp1250`. -/
def cp1250 : Charset :=
  { names :=
      ["1250", "cp1250", "windows_1250"]
    runs :=
      [⟨0, 0, 128⟩, ⟨128, 8364, 1⟩, ⟨130, 8218, 1⟩, ⟨132, 8222, 1⟩, ⟨133, 8230, 1⟩,
       ⟨134, 8224, 2⟩, ⟨137, 8240, 1⟩, ⟨138, 352, 1⟩, ⟨139, 8249, 1⟩, ⟨140, 346, 1⟩,
       ⟨141, 356, 1⟩, ⟨142, 381, 1⟩, ⟨143, 377, 1⟩, ⟨145, 8216, 2⟩, ⟨147, 8220, 2⟩,
       ⟨149, 8226, 1⟩, ⟨150, 8211, 2⟩, ⟨153, 8482, 1⟩, ⟨154, 353, 1⟩, ⟨155, 8250, 1⟩,
       ⟨156, 347, 1⟩, ⟨157, 357, 1⟩, ⟨158, 382, 1⟩, ⟨159, 378, 1⟩, ⟨160, 160, 1⟩, ⟨161, 711, 1⟩,
       ⟨162, 728, 1⟩, ⟨163, 321, 1⟩, ⟨164, 164, 1⟩, ⟨165, 260, 1⟩, ⟨166, 166, 4⟩, ⟨170, 350, 1⟩,
       ⟨171, 171, 4⟩, ⟨175, 379, 1⟩, ⟨176, 176, 2⟩, ⟨178, 731, 1⟩, ⟨179, 322, 1⟩, ⟨180, 180, 5⟩,
       ⟨185, 261, 1⟩, ⟨186, 351, 1⟩, ⟨187, 187, 1⟩, ⟨188, 317, 1⟩, ⟨189, 733, 1⟩, ⟨190, 318, 1⟩,
       ⟨191, 380, 1⟩, ⟨192, 340, 1⟩, ⟨193, 193, 2⟩, ⟨195, 258, 1⟩, ⟨196, 196, 1⟩, ⟨197, 313, 1⟩,
       ⟨198, 262, 1⟩, ⟨199, 199, 1⟩, ⟨200, 268, 1⟩, ⟨201, 201, 1⟩, ⟨202, 280, 1⟩, ⟨203, 203, 1⟩,
       ⟨204, 282, 1⟩, ⟨205, 205, 2⟩, ⟨207, 270, 1⟩, ⟨208, 272, 1⟩, ⟨209, 323, 1⟩, ⟨210, 327, 1⟩,
       ⟨211, 211, 2⟩, ⟨213, 336, 1⟩, ⟨214, 214, 2⟩, ⟨216, 344, 1⟩, ⟨217, 366, 1⟩, ⟨218, 218, 1⟩,
       ⟨219, 368, 1⟩, ⟨220, 220, 2⟩, ⟨222, 354, 1⟩, ⟨223, 223, 1⟩, ⟨224, 341, 1⟩, ⟨225, 225, 2⟩,
       ⟨227, 259, 1⟩, ⟨228, 228, 1⟩, ⟨229, 314, 1⟩, ⟨230, 263, 1⟩, ⟨231, 231, 1⟩, ⟨232, 269, 1⟩,
       ⟨233, 233, 1⟩, ⟨234, 281, 1⟩, ⟨235, 235, 1⟩, ⟨236, 283, 1⟩, ⟨237, 237, 2⟩, ⟨239, 271, 1⟩,
       ⟨240, 273, 1⟩, ⟨241, 324, 1⟩, ⟨242, 328, 1⟩, ⟨243, 243, 2⟩, ⟨245, 337, 1⟩, ⟨246, 246, 2⟩,
       ⟨248, 345, 1⟩, ⟨249, 367, 1⟩, ⟨250, 250, 1⟩, ⟨251, 369, 1⟩, ⟨252, 252, 2⟩, ⟨254, 355, 1⟩,
       ⟨255, 729, 1⟩] }

/-- The character set `cp1251`. -/
def cp1251 : Charset :=
  { names :=
      ["1251", "cp1251", "windows_1251"]
    runs :=
      [⟨0, 0, 128⟩, ⟨128, 1026, 2⟩, ⟨130, 8218, 1⟩, ⟨131, 1107, 1⟩, ⟨132, 8222, 1⟩,
       ⟨133, 8230, 1⟩, ⟨134, 8224, 2⟩, ⟨136, 8364, 1⟩, ⟨137, 8240, 1⟩, ⟨138, 1033, 1⟩,
       ⟨139, 8249, 1⟩, ⟨140, 1034, 1⟩, ⟨141, 1036, 1⟩, ⟨142, 1035, 1⟩, ⟨143, 1039, 1⟩,
       ⟨144, 1106, 1⟩, ⟨145, 8216, 2⟩, ⟨147, 8220, 2⟩, ⟨149, 8226, 1⟩, ⟨150, 8211, 2⟩,
       ⟨153, 8482, 1⟩, ⟨154, 1113, 1⟩, ⟨155, 8250, 1⟩, ⟨156, 1114, 1⟩, ⟨157, 1116, 1⟩,
       ⟨158, 1115, 1⟩, ⟨159, 1119, 1⟩, ⟨160, 160, 1⟩, ⟨161, 1038, 1⟩, ⟨162, 1118, 1⟩,
       ⟨163, 1032, 1⟩, ⟨164, 164, 1⟩, ⟨165, 1168, 1⟩, ⟨166, 166, 2⟩, ⟨168, 1025, 1⟩,
       ⟨169, 169, 1⟩, ⟨170, 1028, 1⟩, ⟨171, 171, 4⟩, ⟨175, 1031, 1⟩, ⟨176, 176, 2⟩,
       ⟨178, 1030, 1⟩, ⟨179, 1110, 1⟩, ⟨180, 1169, 1⟩, ⟨181, 181, 3⟩, ⟨184, 1105, 1⟩,
       ⟨185, 8470, 1⟩, ⟨186, 1108, 1⟩, ⟨187, 187, 1⟩, ⟨188, 1112, 1⟩, ⟨189, 1029, 1⟩,
       ⟨190, 1109, 1⟩, ⟨191, 1111, 1⟩, ⟨192, 1040, 64⟩] }

/-- The character set `cp1252`. -/
def cp1252 : Charset :=
  { names :=
      ["1252", "cp1252", "windows_1252"]
    runs :=
      [⟨0, 0, 128⟩, ⟨128, 8364, 1⟩, ⟨130, 8218, 1⟩, ⟨131, 402, 1⟩, ⟨132, 8222, 1⟩, ⟨133, 8230, 1⟩,
       ⟨134, 8224, 2⟩, ⟨136, 710, 1⟩, ⟨137, 8240, 1⟩, ⟨138, 352, 1⟩, ⟨139, 8249, 1⟩,
       ⟨140, 338, 1⟩, ⟨142, 381, 1⟩, ⟨145, 8216, 2⟩, ⟨147, 8220, 2⟩, ⟨149, 8226, 1⟩,
       ⟨150, 8211, 2⟩, ⟨152, 732, 1⟩, ⟨153, 8482, 1⟩, ⟨154, 353, 1⟩, ⟨155, 8250, 1⟩,
       ⟨156, 339, 1⟩, ⟨158, 382, 1⟩, ⟨159, 376, 1⟩, ⟨160, 160, 96⟩] }

/-- The character set `cp1253`. -/
def cp1253 : Charset :=
  { names :=
      ["1253", "cp1253", "windows_1253"]
    runs :=
      [⟨0, 0, 128⟩, ⟨128, 8364, 1⟩, ⟨130, 8218, 1⟩, ⟨131, 402, 1⟩, ⟨132, 8222, 1⟩, ⟨133, 8230, 1⟩,
       ⟨134, 8224, 2⟩, ⟨137, 8240, 1⟩, ⟨139, 8249, 1⟩, ⟨145, 8216, 2⟩, ⟨147, 8220, 2⟩,
       ⟨149, 8226, 1⟩, ⟨150, 8211, 2⟩, ⟨153, 8482, 1⟩, ⟨155, 8250, 1⟩, ⟨160, 160, 1⟩,
       ⟨161, 901, 2⟩, ⟨163, 163, 7⟩, ⟨171, 171, 4⟩, ⟨175, 8213, 1⟩, ⟨176, 176, 4⟩, ⟨180, 900, 1⟩,
       ⟨181, 181, 3⟩, ⟨184, 904, 3⟩, ⟨187, 187, 1⟩, ⟨188, 908, 1⟩, ⟨189, 189, 1⟩, ⟨190, 910, 20⟩,
       ⟨211, 931, 44⟩] }

/-- The character set `cp1254`. -/
def cp1254 : Charset :=
  { names :=
      ["1254", "cp1254", "windows_1254"]
    runs :=
      [⟨0, 0, 128⟩, ⟨128, 8364, 1⟩, ⟨130, 8218, 1⟩, ⟨131, 402, 1⟩, ⟨132, 8222, 1⟩, ⟨133, 8230, 1⟩,
       ⟨134, 8224, 2⟩, ⟨136, 710, 1⟩, ⟨137, 8240, 1⟩, ⟨138, 352, 1⟩, ⟨139, 8249, 1⟩,
       ⟨140, 338, 1⟩, ⟨145, 8216, 2⟩, ⟨147, 8220, 2⟩, ⟨149, 8226, 1⟩, ⟨150, 8211, 2⟩,
       ⟨152, 732, 1⟩, ⟨153, 8482, 1⟩, ⟨154, 353, 1⟩, ⟨155, 8250, 1⟩, ⟨156, 339, 1⟩, ⟨159, 376, 1⟩,
       ⟨160, 160, 48⟩, ⟨208, 286, 1⟩, ⟨209, 209, 12⟩, ⟨221, 304, 1⟩, ⟨222, 350, 1⟩,
       ⟨223, 223, 17⟩, ⟨240, 287, 1⟩, ⟨241, 241, 12⟩, ⟨253, 305, 1⟩, ⟨254, 351, 1⟩, ⟨255, 255, 1⟩] }

/-- The character set `cp1255`. -/
def cp1255 : Charset :=
  { names :=
      ["1255", "cp1255", "windows_1255"]
    runs :=
      [⟨0, 0, 128⟩, ⟨128, 8364, 1⟩, ⟨130, 8218, 1⟩, ⟨131, 402, 1⟩, ⟨132, 8222, 1⟩, ⟨133, 8230, 1⟩,
       ⟨134, 8224, 2⟩, ⟨136, 710, 1⟩, ⟨137, 8240, 1⟩, ⟨139, 8249, 1⟩, ⟨145, 8216, 2⟩,
       ⟨147, 8220, 2⟩, ⟨149, 8226, 1⟩, ⟨150, 8211, 2⟩, ⟨152, 732, 1⟩, ⟨153, 8482, 1⟩,
       ⟨155, 8250, 1⟩, ⟨160, 160, 4⟩, ⟨164, 8362, 1⟩, ⟨165, 165, 5⟩, ⟨170, 215, 1⟩,
       ⟨171, 171, 15⟩, ⟨186, 247, 1⟩, ⟨187, 187, 5⟩, ⟨192, 1456, 10⟩, ⟨203, 1467, 9⟩,
       ⟨212, 1520, 5⟩, ⟨224, 1488, 27⟩, ⟨253, 8206, 2⟩] }

/-- The character set `cp1256`. -/
def cp1256 : Charset :=
  { names :=
      ["1256", "cp1256", "windows_1256"]
    runs :=
      [⟨0, 0, 128⟩, ⟨128, 8364, 1⟩, ⟨129, 1662, 1⟩, ⟨130, 8218, 1⟩, ⟨131, 402, 1⟩, ⟨132, 8222, 1⟩,
       ⟨133, 8230, 1⟩, ⟨134, 8224, 2⟩, ⟨136, 710, 1⟩, ⟨137, 8240, 1⟩, ⟨138, 1657, 1⟩,
       ⟨139, 8249, 1⟩, ⟨140, 338, 1⟩, ⟨141, 1670, 1⟩, ⟨142, 1688, 1⟩, ⟨143, 1672, 1⟩,
       ⟨144, 1711, 1⟩, ⟨145, 8216, 2⟩, ⟨147, 8220, 2⟩, ⟨149, 8226, 1⟩, ⟨150, 8211, 2⟩,
       ⟨152, 1705, 1⟩, ⟨153, 8482, 1⟩, ⟨154, 1681, 1⟩, ⟨155, 8250, 1⟩, ⟨156, 339, 1⟩,
       ⟨157, 8204, 2⟩, ⟨159, 1722, 1⟩, ⟨160, 160, 1⟩, ⟨161, 1548, 1⟩, ⟨162, 162, 8⟩,
       ⟨170, 1726, 1⟩, ⟨171, 171, 15⟩, ⟨186, 1563, 1⟩, ⟨187, 187, 4⟩, ⟨191, 1567, 1⟩,
       ⟨192, 1729, 1⟩, ⟨193, 1569, 22⟩, ⟨215, 215, 1⟩, ⟨216, 1591, 4⟩, ⟨220, 1600, 4⟩,
       ⟨224, 224, 1⟩, ⟨225, 1604, 1⟩, ⟨226, 226, 1⟩, ⟨227, 1605, 4⟩, ⟨231, 231, 5⟩,
       ⟨236, 1609, 2⟩, ⟨238, 238, 2⟩, ⟨240, 1611, 4⟩, ⟨244, 244, 1⟩, ⟨245, 1615, 2⟩,
       ⟨247, 247, 1⟩, ⟨248, 1617, 1⟩, ⟨249, 249, 1⟩, ⟨250, 1618, 1⟩, ⟨251, 251, 2⟩,
       ⟨253, 8206, 2⟩, ⟨255, 1746, 1⟩] }

/-- The character set `cp1257`. -/
def cp1257 : Charset :=
  { names :=
      ["1257", "cp1257", "windows_1257"]
    runs :=
      [⟨0, 0, 128⟩, ⟨128, 8364, 1⟩, ⟨130, 8218, 1⟩, ⟨132, 8222, 1⟩, ⟨133, 8230, 1⟩,
       ⟨134, 8224, 2⟩, ⟨137, 8240, 1⟩, ⟨139, 8249, 1⟩, ⟨141, 168, 1⟩, ⟨142, 711, 1⟩,
       ⟨143, 184, 1⟩, ⟨145, 8216, 2⟩, ⟨147, 8220, 2⟩, ⟨149, 8226, 1⟩, ⟨150, 8211, 2⟩,
       ⟨153, 8482, 1⟩, ⟨155, 8250, 1⟩, ⟨157, 175, 1⟩, ⟨158, 731, 1⟩, ⟨160, 160, 1⟩, ⟨162, 162, 3⟩,
       ⟨166, 166, 2⟩, ⟨168, 216, 1⟩, ⟨169, 169, 1⟩, ⟨170, 342, 1⟩, ⟨171, 171, 4⟩, ⟨175, 198, 1⟩,
       ⟨176, 176, 8⟩, ⟨184, 248, 1⟩, ⟨185, 185, 1⟩, ⟨186, 343, 1⟩, ⟨187, 187, 4⟩, ⟨191, 230, 1⟩,
       ⟨192, 260, 1⟩, ⟨193, 302, 1⟩, ⟨194, 256, 1⟩, ⟨195, 262, 1⟩, ⟨196, 196, 2⟩, ⟨198, 280, 1⟩,
       ⟨199, 274, 1⟩, ⟨200, 268, 1⟩, ⟨201, 201, 1⟩, ⟨202, 377, 1⟩, ⟨203, 278, 1⟩, ⟨204, 290, 1⟩,
       ⟨205, 310, 1⟩, ⟨206, 298, 1⟩, ⟨207, 315, 1⟩, ⟨208, 352, 1⟩, ⟨209, 323, 1⟩, ⟨210, 325, 1⟩,
       ⟨211, 211, 1⟩, ⟨212, 332, 1⟩, ⟨213, 213, 3⟩, ⟨216, 370, 1⟩, ⟨217, 321, 1⟩, ⟨218, 346, 1⟩,
       ⟨219, 362, 1⟩, ⟨220, 220, 1⟩, ⟨221, 379, 1⟩, ⟨222, 381, 1⟩, ⟨223, 223, 1⟩, ⟨224, 261, 1⟩,
       ⟨225, 303, 1⟩, ⟨226, 257, 1⟩, ⟨227, 263, 1⟩, ⟨228, 228, 2⟩, ⟨230, 281, 1⟩, ⟨231, 275, 1⟩,
       ⟨232, 269, 1⟩, ⟨233, 233, 1⟩, ⟨234, 378, 1⟩, ⟨235, 279, 1⟩, ⟨236, 291, 1⟩, ⟨237, 311, 1⟩,
       ⟨238, 299, 1⟩, ⟨239, 316, 1⟩, ⟨240, 353, 1⟩, ⟨241, 324, 1⟩, ⟨242, 326, 1⟩, ⟨243, 243, 1⟩,
       ⟨244, 333, 1⟩, ⟨245, 245, 3⟩, ⟨248, 371, 1⟩, ⟨249, 322, 1⟩, ⟨250, 347, 1⟩, ⟨251, 363, 1⟩,
       ⟨252, 252, 1⟩, ⟨253, 380, 1⟩, ⟨254, 382, 1⟩, ⟨255, 729, 1⟩] }

/-- The character set `cp1258`. -/
def cp1258 : Charset :=
  { names :=
      ["1258", "cp1258", "windows_1258"]
    runs :=
      [⟨0, 0, 128⟩, ⟨128, 8364, 1⟩, ⟨130, 8218, 1⟩, ⟨131, 402, 1⟩, ⟨132, 8222, 1⟩, ⟨133, 8230, 1⟩,
       ⟨134, 8224, 2⟩, ⟨136, 710, 1⟩, ⟨137, 8240, 1⟩, ⟨139, 8249, 1⟩, ⟨140, 338, 1⟩,
       ⟨145, 8216, 2⟩, ⟨147, 8220, 2⟩, ⟨149, 8226, 1⟩, ⟨150, 8211, 2⟩, ⟨152, 732, 1⟩,
       ⟨153, 8482, 1⟩, ⟨155, 8250, 1⟩, ⟨156, 339, 1⟩, ⟨159, 376, 1⟩, ⟨160, 160, 35⟩,
       ⟨195, 258, 1⟩, ⟨196, 196, 8⟩, ⟨204, 768, 1⟩, ⟨205, 205, 3⟩, ⟨208, 272, 1⟩, ⟨209, 209, 1⟩,
       ⟨210, 777, 1⟩, ⟨211, 211, 2⟩, ⟨213, 416, 1⟩, ⟨214, 214, 7⟩, ⟨221, 431, 1⟩, ⟨222, 771, 1⟩,
       ⟨223, 223, 4⟩, ⟨227, 259, 1⟩, ⟨228, 228, 8⟩, ⟨236, 769, 1⟩, ⟨237, 237, 3⟩, ⟨240, 273, 1⟩,
       ⟨241, 241, 1⟩, ⟨242, 803, 1⟩, ⟨243, 243, 2⟩, ⟨245, 417, 1⟩, ⟨246, 246, 7⟩, ⟨253, 432, 1⟩,
       ⟨254, 8363, 1⟩, ⟨255, 255, 1⟩] }

/-- The character set `cp437`. -/
def cp437 : Charset :=
  { names :=
      ["437", "cp437", "cspc8codepage437", "ibm437"]
    runs :=
      [⟨0, 0, 128⟩, ⟨128, 199, 1⟩, ⟨129, 252, 1⟩, ⟨130, 233, 1⟩, ⟨131, 226, 1⟩, ⟨132, 228, 1⟩,
       ⟨133, 224, 1⟩, ⟨134, 229, 1⟩, ⟨135, 231, 1⟩, ⟨136, 234, 2⟩, ⟨138, 232, 1⟩, ⟨139, 239, 1⟩,
       ⟨140, 238, 1⟩, ⟨141, 236, 1⟩, ⟨142, 196, 2⟩, ⟨144, 201, 1⟩, ⟨145, 230, 1⟩, ⟨146, 198, 1⟩,
       ⟨147, 244, 1⟩, ⟨148, 246, 1⟩, ⟨149, 242, 1⟩, ⟨150, 251, 1⟩, ⟨151, 249, 1⟩, ⟨152, 255, 1⟩,
       ⟨153, 214, 1⟩, ⟨154, 220, 1⟩, ⟨155, 162, 2⟩, ⟨157, 165, 1⟩, ⟨158, 8359, 1⟩, ⟨159, 402, 1⟩,
       ⟨160, 225, 1⟩, ⟨161, 237, 1⟩, ⟨162, 243, 1⟩, ⟨163, 250, 1⟩, ⟨164, 241, 1⟩, ⟨165, 209, 1⟩,
       ⟨166, 170, 1⟩, ⟨167, 186, 1⟩, ⟨168, 191, 1⟩, ⟨169, 8976, 1⟩, ⟨170, 172, 1⟩, ⟨171, 189, 1⟩,
       ⟨172, 188, 1⟩, ⟨173, 161, 1⟩, ⟨174, 171, 1⟩, ⟨175, 187, 1⟩, ⟨176, 9617, 3⟩, ⟨179, 9474, 1⟩,
       ⟨180, 9508, 1⟩, ⟨181, 9569, 2⟩, ⟨183, 9558, 1⟩, ⟨184, 9557, 1⟩, ⟨185, 9571, 1⟩,
       ⟨186, 9553, 1⟩, ⟨187, 9559, 1⟩, ⟨188, 9565, 1⟩, ⟨189, 9564, 1⟩, ⟨190, 9563, 1⟩,
       ⟨191, 9488, 1⟩, ⟨192, 9492, 1⟩, ⟨193, 9524, 1⟩, ⟨194, 9516, 1⟩, ⟨195, 9500, 1⟩,
       ⟨196, 9472, 1⟩, ⟨197, 9532, 1⟩, ⟨198, 9566, 2⟩, ⟨200, 9562, 1⟩, ⟨201, 9556, 1⟩,
       ⟨202, 9577, 1⟩, ⟨203, 9574, 1⟩, ⟨204, 9568, 1⟩, ⟨205, 9552, 1⟩, ⟨206, 9580, 1⟩,
       ⟨207, 9575, 2⟩, ⟨209, 9572, 2⟩, ⟨211, 9561, 1⟩, ⟨212, 9560, 1⟩, ⟨213, 9554, 2⟩,
       ⟨215, 9579, 1⟩, ⟨216, 9578, 1⟩, ⟨217, 9496, 1⟩, ⟨218, 9484, 1⟩, ⟨219, 9608, 1⟩,
       ⟨220, 9604, 1⟩, ⟨221, 9612, 1⟩, ⟨222, 9616, 1⟩, ⟨223, 9600, 1⟩, ⟨224, 945, 1⟩,
       ⟨225, 223, 1⟩, ⟨226, 915, 1⟩, ⟨227, 960, 1⟩, ⟨228, 931, 1⟩, ⟨229, 963, 1⟩, ⟨230, 181, 1⟩,
       ⟨231, 964, 1⟩, ⟨232, 934, 1⟩, ⟨233, 920, 1⟩, ⟨234, 937, 1⟩, ⟨235, 948, 1⟩, ⟨236, 8734, 1⟩,
       ⟨237, 966, 1⟩, ⟨238, 949, 1⟩, ⟨239, 8745, 1⟩, ⟨240, 8801, 1⟩, ⟨241, 177, 1⟩,
       ⟨242, 8805, 1⟩, ⟨243, 8804, 1⟩, ⟨244, 8992, 2⟩, ⟨246, 247, 1⟩, ⟨247, 8776, 1⟩,
       ⟨248, 176, 1⟩, ⟨249, 8729, 1⟩, ⟨250, 183, 1⟩, ⟨251, 8730, 1⟩, ⟨252, 8319, 1⟩,
       ⟨253, 178, 1⟩, ⟨254, 9632, 1⟩, ⟨255, 160, 1⟩] }

/-- The character set `cp720`. -/
def cp720 : Charset :=
  { names :=
      ["cp720"]
    runs :=
      [⟨0, 0, 130⟩, ⟨130, 233, 1⟩, ⟨131, 226, 1⟩, ⟨132, 132, 1⟩, ⟨133, 224, 1⟩, ⟨134, 134, 1⟩,
       ⟨135, 231, 1⟩, ⟨136, 234, 2⟩, ⟨138, 232, 1⟩, ⟨139, 239, 1⟩, ⟨140, 238, 1⟩, ⟨141, 141, 4⟩,
       ⟨145, 1617, 2⟩, ⟨147, 244, 1⟩, ⟨148, 164, 1⟩, ⟨149, 1600, 1⟩, ⟨150, 251, 1⟩, ⟨151, 249, 1⟩,
       ⟨152, 1569, 4⟩, ⟨156, 163, 1⟩, ⟨157, 1573, 17⟩, ⟨174, 171, 1⟩, ⟨175, 187, 1⟩, ⟨176, 9617, 3⟩,
       ⟨179, 9474, 1⟩, ⟨180, 9508, 1⟩, ⟨181, 9569, 2⟩, ⟨183, 9558, 1⟩, ⟨184, 9557, 1⟩,
       ⟨185, 9571, 1⟩, ⟨186, 9553, 1⟩, ⟨187, 9559, 1⟩, ⟨188, 9565, 1⟩, ⟨189, 9564, 1⟩,
       ⟨190, 9563, 1⟩, ⟨191, 9488, 1⟩, ⟨192, 9492, 1⟩, ⟨193, 9524, 1⟩, ⟨194, 9516, 1⟩,
       ⟨195, 9500, 1⟩, ⟨196, 9472, 1⟩, ⟨197, 9532, 1⟩, ⟨198, 9566, 2⟩, ⟨200, 9562, 1⟩,
       ⟨201, 9556, 1⟩, ⟨202, 9577, 1⟩, ⟨203, 9574, 1⟩, ⟨204, 9568, 1⟩, ⟨205, 9552, 1⟩,
       ⟨206, 9580, 1⟩, ⟨207, 9575, 2⟩, ⟨209, 9572, 2⟩, ⟨211, 9561, 1⟩, ⟨212, 9560, 1⟩,
       ⟨213, 9554, 2⟩, ⟨215, 9579, 1⟩, ⟨216, 9578, 1⟩, ⟨217, 9496, 1⟩, ⟨218, 9484, 1⟩,
       ⟨219, 9608, 1⟩, ⟨220, 9604, 1⟩, ⟨221, 9612, 1⟩, ⟨222, 9616, 1⟩, ⟨223, 9600, 1⟩,
       ⟨224, 1590, 5⟩, ⟨229, 1601, 1⟩, ⟨230, 181, 1⟩, ⟨231, 1602, 9⟩, ⟨240, 8801, 1⟩,
       ⟨241, 1611, 6⟩, ⟨247, 8776, 1⟩, ⟨248, 176, 1⟩, ⟨249, 8729, 1⟩, ⟨250, 183, 1⟩, ⟨251, 8730, 1⟩,
       ⟨252, 8319, 1⟩, ⟨253, 178, 1⟩, ⟨254, 9632, 1⟩, ⟨255, 160, 1⟩] }

/-- The character set `cp737`. -/
def cp737 : Charset :=
  { names :=
      ["cp737"]
    runs :=
      [⟨0, 0, 128⟩, ⟨128, 913, 17⟩, ⟨145, 931, 7⟩, ⟨152, 945, 17⟩, ⟨169, 963, 1⟩, ⟨170, 962, 1⟩,
       ⟨171, 964, 5⟩, ⟨176, 9617, 3⟩, ⟨179, 9474, 1⟩, ⟨180, 9508, 1⟩, ⟨181, 9569, 2⟩,
       ⟨183, 9558, 1⟩, ⟨184, 9557, 1⟩, ⟨185, 9571, 1⟩, ⟨186, 9553, 1⟩, ⟨187, 9559, 1⟩,
       ⟨188, 9565, 1⟩, ⟨189, 9564, 1⟩, ⟨190, 9563, 1⟩, ⟨191, 9488, 1⟩, ⟨192, 9492, 1⟩,
       ⟨193, 9524, 1⟩, ⟨194, 9516, 1⟩, ⟨195, 9500, 1⟩, ⟨196, 9472, 1⟩, ⟨197, 9532, 1⟩,
       ⟨198, 9566, 2⟩, ⟨200, 9562, 1⟩, ⟨201, 9556, 1⟩, ⟨202, 9577, 1⟩, ⟨203, 9574, 1⟩,
       ⟨204, 9568, 1⟩, ⟨205, 9552, 1⟩, ⟨206, 9580, 1⟩, ⟨207, 9575, 2⟩, ⟨209, 9572, 2⟩,
       ⟨211, 9561, 1⟩, ⟨212, 9560, 1⟩, ⟨213, 9554, 2⟩, ⟨215, 9579, 1⟩, ⟨216, 9578, 1⟩,
       ⟨217, 9496, 1⟩, ⟨218, 9484, 1⟩, ⟨219, 9608, 1⟩, ⟨220, 9604, 1⟩, ⟨221, 9612, 1⟩,
       ⟨222, 9616, 1⟩, ⟨223, 9600, 1⟩, ⟨224, 969, 1⟩, ⟨225, 940, 3⟩, ⟨228, 970, 1⟩, ⟨229, 943, 1⟩,
       ⟨230, 972, 2⟩, ⟨232, 971, 1⟩, ⟨233, 974, 1⟩, ⟨234, 902, 1⟩, ⟨235, 904, 3⟩, ⟨238, 908, 1⟩,
       ⟨239, 910, 2⟩, ⟨241, 177, 1⟩, ⟨242, 8805, 1⟩, ⟨243, 8804, 1⟩, ⟨244, 938, 2⟩, ⟨246, 247, 1⟩,
       ⟨247, 8776, 1⟩, ⟨248, 176, 1⟩, ⟨249, 8729, 1⟩, ⟨250, 183, 1⟩, ⟨251, 8730, 1⟩, ⟨252, 8319, 1⟩,
       ⟨253, 178, 1⟩, ⟨254, 9632, 1⟩, ⟨255, 160, 1⟩] }

/-- The character set `cp775`. -/
def cp775 : Charset :=
  { names :=
      ["775", "cp775", "cspc775baltic", "ibm775"]
    runs :=
      [⟨0, 0, 128⟩, ⟨128, 262, 1⟩, ⟨129, 252, 1⟩, ⟨130, 233, 1⟩, ⟨131, 257, 1⟩, ⟨132, 228, 1⟩,
       ⟨133, 291, 1⟩, ⟨134, 229, 1⟩, ⟨135, 263, 1⟩, ⟨136, 322, 1⟩, ⟨137, 275, 1⟩, ⟨138, 342, 2⟩,
       ⟨140, 299, 1⟩, ⟨141, 377, 1⟩, ⟨142, 196, 2⟩, ⟨144, 201, 1⟩, ⟨145, 230, 1⟩, ⟨146, 198, 1⟩,
       ⟨147, 333, 1⟩, ⟨148, 246, 1⟩, ⟨149, 290, 1⟩, ⟨150, 162, 1⟩, ⟨151, 346, 2⟩, ⟨153, 214, 1⟩,
       ⟨154, 220, 1⟩, ⟨155, 248, 1⟩, ⟨156, 163, 1⟩, ⟨157, 216, 1⟩, ⟨158, 215, 1⟩, ⟨159, 164, 1⟩,
       ⟨160, 256, 1⟩, ⟨161, 298, 1⟩, ⟨162, 243, 1⟩, ⟨163, 379, 2⟩, ⟨165, 378, 1⟩, ⟨166, 8221, 1⟩,
       ⟨167, 166, 1⟩, ⟨168, 169, 1⟩, ⟨169, 174, 1⟩, ⟨170, 172, 1⟩, ⟨171, 189, 1⟩, ⟨172, 188, 1⟩,
       ⟨173, 321, 1⟩, ⟨174, 171, 1⟩, ⟨175, 187, 1⟩, ⟨176, 9617, 3⟩, ⟨179, 9474, 1⟩, ⟨180, 9508, 1⟩,
       ⟨181, 260, 1⟩, ⟨182, 268, 1⟩, ⟨183, 280, 1⟩, ⟨184, 278, 1⟩, ⟨185, 9571, 1⟩, ⟨186, 9553, 1⟩,
       ⟨187, 9559, 1⟩, ⟨188, 9565, 1⟩, ⟨189, 302, 1⟩, ⟨190, 352, 1⟩, ⟨191, 9488, 1⟩, ⟨192, 9492, 1⟩,
       ⟨193, 9524, 1⟩, ⟨194, 9516, 1⟩, ⟨195, 9500, 1⟩, ⟨196, 9472, 1⟩, ⟨197, 9532, 1⟩,
       ⟨198, 370, 1⟩, ⟨199, 362, 1⟩, ⟨200, 9562, 1⟩, ⟨201, 9556, 1⟩, ⟨202, 9577, 1⟩, ⟨203, 9574, 1⟩,
       ⟨204, 9568, 1⟩, ⟨205, 9552, 1⟩, ⟨206, 9580, 1⟩, ⟨207, 381, 1⟩, ⟨208, 261, 1⟩, ⟨209, 269, 1⟩,
       ⟨210, 281, 1⟩, ⟨211, 279, 1⟩, ⟨212, 303, 1⟩, ⟨213, 353, 1⟩, ⟨214, 371, 1⟩, ⟨215, 363, 1⟩,
       ⟨216, 382, 1⟩, ⟨217, 9496, 1⟩, ⟨218, 9484, 1⟩, ⟨219, 9608, 1⟩, ⟨220, 9604, 1⟩,
       ⟨221, 9612, 1⟩, ⟨222, 9616, 1⟩, ⟨223, 9600, 1⟩, ⟨224, 211, 1⟩, ⟨225, 223, 1⟩, ⟨226, 332, 1⟩,
       ⟨227, 323, 1⟩, ⟨228, 245, 1⟩, ⟨229, 213, 1⟩, ⟨230, 181, 1⟩, ⟨231, 324, 1⟩, ⟨232, 310, 2⟩,
       ⟨234, 315, 2⟩, ⟨236, 326, 1⟩, ⟨237, 274, 1⟩, ⟨238, 325, 1⟩, ⟨239, 8217, 1⟩, ⟨240, 173, 1⟩,
       ⟨241, 177, 1⟩, ⟨242, 8220, 1⟩, ⟨243, 190, 1⟩, ⟨244, 182, 1⟩, ⟨245, 167, 1⟩, ⟨246, 247, 1⟩,
       ⟨247, 8222, 1⟩, ⟨248, 176, 1⟩, ⟨249, 8729, 1⟩, ⟨250, 183, 1⟩, ⟨251, 185, 1⟩, ⟨252, 179, 1⟩,
       ⟨253, 178, 1⟩, ⟨254, 9632, 1⟩, ⟨255, 160, 1⟩] }

/-- The character set `cp850`. -/
def cp850 : Charset :=
  { names :=
      ["850", "cp850", "cspc850multilingual", "ibm850"]
    runs :=
      [⟨0, 0, 128⟩, ⟨128, 199, 1⟩, ⟨129, 252, 1⟩, ⟨130, 233, 1⟩, ⟨131, 226, 1⟩, ⟨132, 228, 1⟩,
       ⟨133, 224, 1⟩, ⟨134, 229, 1⟩, ⟨135, 231, 1⟩, ⟨136, 234, 2⟩, ⟨138, 232, 1⟩, ⟨139, 239, 1⟩,
       ⟨140, 238, 1⟩, ⟨141, 236, 1⟩, ⟨142, 196, 2⟩, ⟨144, 201, 1⟩, ⟨145, 230, 1⟩, ⟨146, 198, 1⟩,
       ⟨147, 244, 1⟩, ⟨148, 246, 1⟩, ⟨149, 242, 1⟩, ⟨150, 251, 1⟩, ⟨151, 249, 1⟩, ⟨152, 255, 1⟩,
       ⟨153, 214, 1⟩, ⟨154, 220, 1⟩, ⟨155, 248, 1⟩, ⟨156, 163, 1⟩, ⟨157, 216, 1⟩, ⟨158, 215, 1⟩,
       ⟨159, 402, 1⟩, ⟨160, 225, 1⟩, ⟨161, 237, 1⟩, ⟨162, 243, 1⟩, ⟨163, 250, 1⟩, ⟨164, 241, 1⟩,
       ⟨165, 209, 1⟩, ⟨166, 170, 1⟩, ⟨167, 186, 1⟩, ⟨168, 191, 1⟩, ⟨169, 174, 1⟩, ⟨170, 172, 1⟩,
       ⟨171, 189, 1⟩, ⟨172, 188, 1⟩, ⟨173, 161, 1⟩, ⟨174, 171, 1⟩, ⟨175, 187, 1⟩, ⟨176, 9617, 3⟩,
       ⟨179, 9474, 1⟩, ⟨180, 9508, 1⟩, ⟨181, 193, 2⟩, ⟨183, 192, 1⟩, ⟨184, 169, 1⟩,
       ⟨185, 9571, 1⟩, ⟨186, 9553, 1⟩, ⟨187, 9559, 1⟩, ⟨188, 9565, 1⟩, ⟨189, 162, 1⟩,
       ⟨190, 165, 1⟩, ⟨191, 9488, 1⟩, ⟨192, 9492, 1⟩, ⟨193, 9524, 1⟩, ⟨194, 9516, 1⟩,
       ⟨195, 9500, 1⟩, ⟨196, 9472, 1⟩, ⟨197, 9532, 1⟩, ⟨198, 227, 1⟩, ⟨199, 195, 1⟩,
       ⟨200, 9562, 1⟩, ⟨201, 9556, 1⟩, ⟨202, 9577, 1⟩, ⟨203, 9574, 1⟩, ⟨204, 9568, 1⟩,
       ⟨205, 9552, 1⟩, ⟨206, 9580, 1⟩, ⟨207, 164, 1⟩, ⟨208, 240, 1⟩, ⟨209, 208, 1⟩, ⟨210, 202, 2⟩,
       ⟨212, 200, 1⟩, ⟨213, 305, 1⟩, ⟨214, 205, 3⟩, ⟨217, 9496, 1⟩, ⟨218, 9484, 1⟩,
       ⟨219, 9608, 1⟩, ⟨220, 9604, 1⟩, ⟨221, 166, 1⟩, ⟨222, 204, 1⟩, ⟨223, 9600, 1⟩,
       ⟨224, 211, 1⟩, ⟨225, 223, 1⟩, ⟨226, 212, 1⟩, ⟨227, 210, 1⟩, ⟨228, 245, 1⟩, ⟨229, 213, 1⟩,
       ⟨230, 181, 1⟩, ⟨231, 254, 1⟩, ⟨232, 222, 1⟩, ⟨233, 218, 2⟩, ⟨235, 217, 1⟩, ⟨236, 253, 1⟩,
       ⟨237, 221, 1⟩, ⟨238, 175, 1⟩, ⟨239, 180, 1⟩, ⟨240, 173, 1⟩, ⟨241, 177, 1⟩, ⟨242, 8215, 1⟩,
       ⟨243, 190, 1⟩, ⟨244, 182, 1⟩, ⟨245, 167, 1⟩, ⟨246, 247, 1⟩, ⟨247, 184, 1⟩, ⟨248, 176, 1⟩,
       ⟨249, 168, 1⟩, ⟨250, 183, 1⟩, ⟨251, 185, 1⟩, ⟨252, 179, 1⟩, ⟨253, 178, 1⟩, ⟨254, 9632, 1⟩,
       ⟨255, 160, 1⟩] }

/-- The character set `cp852`. -/
def cp852 : Charset :=
  { names :=
      ["852", "cp852", "cspcp852", "ibm852"]
    runs :=
      [⟨0, 0, 128⟩, ⟨128, 199, 1⟩, ⟨129, 252, 1⟩, ⟨130, 233, 1⟩, ⟨131, 226, 1⟩, ⟨132, 228, 1⟩,
       ⟨133, 367, 1⟩, ⟨134, 263, 1⟩, ⟨135, 231, 1⟩, ⟨136, 322, 1⟩, ⟨137, 235, 1⟩, ⟨138, 336, 2⟩,
       ⟨140, 238, 1⟩, ⟨141, 377, 1⟩, ⟨142, 196, 1⟩, ⟨143, 262, 1⟩, ⟨144, 201, 1⟩, ⟨145, 313, 2⟩,
       ⟨147, 244, 1⟩, ⟨148, 246, 1⟩, ⟨149, 317, 2⟩, ⟨151, 346, 2⟩, ⟨153, 214, 1⟩, ⟨154, 220, 1⟩,
       ⟨155, 356, 2⟩, ⟨157, 321, 1⟩, ⟨158, 215, 1⟩, ⟨159, 269, 1⟩, ⟨160, 225, 1⟩, ⟨161, 237, 1⟩,
       ⟨162, 243, 1⟩, ⟨163, 250, 1⟩, ⟨164, 260, 2⟩, ⟨166, 381, 2⟩, ⟨168, 280, 2⟩, ⟨170, 172, 1⟩,
       ⟨171, 378, 1⟩, ⟨172, 268, 1⟩, ⟨173, 351, 1⟩, ⟨174, 171, 1⟩, ⟨175, 187, 1⟩, ⟨176, 9617, 3⟩,
       ⟨179, 9474, 1⟩, ⟨180, 9508, 1⟩, ⟨181, 193, 2⟩, ⟨183, 282, 1⟩, ⟨184, 350, 1⟩,
       ⟨185, 9571, 1⟩, ⟨186, 9553, 1⟩, ⟨187, 9559, 1⟩, ⟨188, 9565, 1⟩, ⟨189, 379, 2⟩,
       ⟨191, 9488, 1⟩, ⟨192, 9492, 1⟩, ⟨193, 9524, 1⟩, ⟨194, 9516, 1⟩, ⟨195, 9500, 1⟩,
       ⟨196, 9472, 1⟩, ⟨197, 9532, 1⟩, ⟨198, 258, 2⟩, ⟨200, 9562, 1⟩, ⟨201, 9556, 1⟩,
       ⟨202, 9577, 1⟩, ⟨203, 9574, 1⟩, ⟨204, 9568, 1⟩, ⟨205, 9552, 1⟩, ⟨206, 9580, 1⟩,
       ⟨207, 164, 1⟩, ⟨208, 273, 1⟩, ⟨209, 272, 1⟩, ⟨210, 270, 1⟩, ⟨211, 203, 1⟩, ⟨212, 271, 1⟩,
       ⟨213, 327, 1⟩, ⟨214, 205, 2⟩, ⟨216, 283, 1⟩, ⟨217, 9496, 1⟩, ⟨218, 9484, 1⟩,
       ⟨219, 9608, 1⟩, ⟨220, 9604, 1⟩, ⟨221, 354, 1⟩, ⟨222, 366, 1⟩, ⟨223, 9600, 1⟩,
       ⟨224, 211, 1⟩, ⟨225, 223, 1⟩, ⟨226, 212, 1⟩, ⟨227, 323, 2⟩, ⟨229, 328, 1⟩, ⟨230, 352, 2⟩,
       ⟨232, 340, 1⟩, ⟨233, 218, 1⟩, ⟨234, 341, 1⟩, ⟨235, 368, 1⟩, ⟨236, 253, 1⟩, ⟨237, 221, 1⟩,
       ⟨238, 355, 1⟩, ⟨239, 180, 1⟩, ⟨240, 173, 1⟩, ⟨241, 733, 1⟩, ⟨242, 731, 1⟩, ⟨243, 711, 1⟩,
       ⟨244, 728, 1⟩, ⟨245, 167, 1⟩, ⟨246, 247, 1⟩, ⟨247, 184, 1⟩, ⟨248, 176, 1⟩, ⟨249, 168, 1⟩,
       ⟨250, 729, 1⟩, ⟨251, 369, 1⟩, ⟨252, 344, 2⟩, ⟨254, 9632, 1⟩, ⟨255, 160, 1⟩] }

/-- The character set `cp855`. -/
def cp855 : Charset :=
  { names :=
      ["855", "cp855", "csibm855", "ibm855"]
    runs :=
      [⟨0, 0, 128⟩, ⟨128, 1106, 1⟩, ⟨129, 1026, 1⟩, ⟨130, 1107, 1⟩, ⟨131, 1027, 1⟩, ⟨132, 1105, 1⟩,
       ⟨133, 1025, 1⟩, ⟨134, 1108, 1⟩, ⟨135, 1028, 1⟩, ⟨136, 1109, 1⟩, ⟨137, 1029, 1⟩,
       ⟨138, 1110, 1⟩, ⟨139, 1030, 1⟩, ⟨140, 1111, 1⟩, ⟨141, 1031, 1⟩, ⟨142, 1112, 1⟩,
       ⟨143, 1032, 1⟩, ⟨144, 1113, 1⟩, ⟨145, 1033, 1⟩, ⟨146, 1114, 1⟩, ⟨147, 1034, 1⟩,
       ⟨148, 1115, 1⟩, ⟨149, 1035, 1⟩, ⟨150, 1116, 1⟩, ⟨151, 1036, 1⟩, ⟨152, 1118, 1⟩,
       ⟨153, 1038, 1⟩, ⟨154, 1119, 1⟩, ⟨155, 1039, 1⟩, ⟨156, 1102, 1⟩, ⟨157, 1070, 1⟩,
       ⟨158, 1098, 1⟩, ⟨159, 1066, 1⟩, ⟨160, 1072, 1⟩, ⟨161, 1040, 1⟩, ⟨162, 1073, 1⟩,
       ⟨163, 1041, 1⟩, ⟨164, 1094, 1⟩, ⟨165, 1062, 1⟩, ⟨166, 1076, 1⟩, ⟨167, 1044, 1⟩,
       ⟨168, 1077, 1⟩, ⟨169, 1045, 1⟩, ⟨170, 1092, 1⟩, ⟨171, 1060, 1⟩, ⟨172, 1075, 1⟩,
       ⟨173, 1043, 1⟩, ⟨174, 171, 1⟩, ⟨175, 187, 1⟩, ⟨176, 9617, 3⟩, ⟨179, 9474, 1⟩, ⟨180, 9508, 1⟩,
       ⟨181, 1093, 1⟩, ⟨182, 1061, 1⟩, ⟨183, 1080, 1⟩, ⟨184, 1048, 1⟩, ⟨185, 9571, 1⟩,
       ⟨186, 9553, 1⟩, ⟨187, 9559, 1⟩, ⟨188, 9565, 1⟩, ⟨189, 1081, 1⟩, ⟨190, 1049, 1⟩,
       ⟨191, 9488, 1⟩, ⟨192, 9492, 1⟩, ⟨193, 9524, 1⟩, ⟨194, 9516, 1⟩, ⟨195, 9500, 1⟩,
       ⟨196, 9472, 1⟩, ⟨197, 9532, 1⟩, ⟨198, 1082, 1⟩, ⟨199, 1050, 1⟩, ⟨200, 9562, 1⟩,
       ⟨201, 9556, 1⟩, ⟨202, 9577, 1⟩, ⟨203, 9574, 1⟩, ⟨204, 9568, 1⟩, ⟨205, 9552, 1⟩,
       ⟨206, 9580, 1⟩, ⟨207, 164, 1⟩, ⟨208, 1083, 1⟩, ⟨209, 1051, 1⟩, ⟨210, 1084, 1⟩,
       ⟨211, 1052, 1⟩, ⟨212, 1085, 1⟩, ⟨213, 1053, 1⟩, ⟨214, 1086, 1⟩, ⟨215, 1054, 1⟩,
       ⟨216, 1087, 1⟩, ⟨217, 9496, 1⟩, ⟨218, 9484, 1⟩, ⟨219, 9608, 1⟩, ⟨220, 9604, 1⟩,
       ⟨221, 1055, 1⟩, ⟨222, 1103, 1⟩, ⟨223, 9600, 1⟩, ⟨224, 1071, 1⟩, ⟨225, 1088, 1⟩,
       ⟨226, 1056, 1⟩, ⟨227, 1089, 1⟩, ⟨228, 1057, 1⟩, ⟨229, 1090, 1⟩, ⟨230, 1058, 1⟩,
       ⟨231, 1091, 1⟩, ⟨232, 1059, 1⟩, ⟨233, 1078, 1⟩, ⟨234, 1046, 1⟩, ⟨235, 1074, 1⟩,
       ⟨236, 1042, 1⟩, ⟨237, 1100, 1⟩, ⟨238, 1068, 1⟩, ⟨239, 8470, 1⟩, ⟨240, 173, 1⟩,
       ⟨241, 1099, 1⟩, ⟨242, 1067, 1⟩, ⟨243, 1079, 1⟩, ⟨244, 1047, 1⟩, ⟨245, 1096, 1⟩,
       ⟨246, 1064, 1⟩, ⟨247, 1101, 1⟩, ⟨248, 1069, 1⟩, ⟨249, 1097, 1⟩, ⟨250, 1065, 1⟩,
       ⟨251, 1095, 1⟩, ⟨252, 1063, 1⟩, ⟨253, 167, 1⟩, ⟨254, 9632, 1⟩, ⟨255, 160, 1⟩] }

/-- The character set `cp856`. -/
def cp856 : Charset :=
  { names :=
      ["cp856"]
    runs :=
      [⟨0, 0, 128⟩, ⟨128, 1488, 27⟩, ⟨156, 163, 1⟩, ⟨158, 215, 1⟩, ⟨169, 174, 1⟩, ⟨170, 172, 1⟩,
       ⟨171, 189, 1⟩, ⟨172, 188, 1⟩, ⟨174, 171, 1⟩, ⟨175, 187, 1⟩, ⟨176, 9617, 3⟩, ⟨179, 9474, 1⟩,
       ⟨180, 9508, 1⟩, ⟨184, 169, 1⟩, ⟨185, 9571, 1⟩, ⟨186, 9553, 1⟩, ⟨187, 9559, 1⟩,
       ⟨188, 9565, 1⟩, ⟨189, 162, 1⟩, ⟨190, 165, 1⟩, ⟨191, 9488, 1⟩, ⟨192, 9492, 1⟩, ⟨193, 9524, 1⟩,
       ⟨194, 9516, 1⟩, ⟨195, 9500, 1⟩, ⟨196, 9472, 1⟩, ⟨197, 9532, 1⟩, ⟨200, 9562, 1⟩,
       ⟨201, 9556, 1⟩, ⟨202, 9577, 1⟩, ⟨203, 9574, 1⟩, ⟨204, 9568, 1⟩, ⟨205, 9552, 1⟩,
       ⟨206, 9580, 1⟩, ⟨207, 164, 1⟩, ⟨217, 9496, 1⟩, ⟨218, 9484, 1⟩, ⟨219, 9608, 1⟩,
       ⟨220, 9604, 1⟩, ⟨221, 166, 1⟩, ⟨223, 9600, 1⟩, ⟨230, 181, 1⟩, ⟨238, 175, 1⟩, ⟨239, 180, 1⟩,
       ⟨240, 173, 1⟩, ⟨241, 177, 1⟩, ⟨242, 8215, 1⟩, ⟨243, 190, 1⟩, ⟨244, 182, 1⟩, ⟨245, 167, 1⟩,
       ⟨246, 247, 1⟩, ⟨247, 184, 1⟩, ⟨248, 176, 1⟩, ⟨249, 168, 1⟩, ⟨250, 183, 1⟩, ⟨251, 185, 1⟩,
       ⟨252, 179, 1⟩, ⟨253, 178, 1⟩, ⟨254, 9632, 1⟩, ⟨255, 160, 1⟩] }

/-- The character set `cp857`. -/
def cp857 : Charset :=
  { names :=
      ["857", "cp857", "csibm857", "ibm857"]
    runs :=
      [⟨0, 0, 128⟩, ⟨128, 199, 1⟩, ⟨129, 252, 1⟩, ⟨130, 233, 1⟩, ⟨131, 226, 1⟩, ⟨132, 228, 1⟩,
       ⟨133, 224, 1⟩, ⟨134, 229, 1⟩, ⟨135, 231, 1⟩, ⟨136, 234, 2⟩, ⟨138, 232, 1⟩, ⟨139, 239, 1⟩,
       ⟨140, 238, 1⟩, ⟨141, 305, 1⟩, ⟨142, 196, 2⟩, ⟨144, 201, 1⟩, ⟨145, 230, 1⟩, ⟨146, 198, 1⟩,
       ⟨147, 244, 1⟩, ⟨148, 246, 1⟩, ⟨149, 242, 1⟩, ⟨150, 251, 1⟩, ⟨151, 249, 1⟩, ⟨152, 304, 1⟩,
       ⟨153, 214, 1⟩, ⟨154, 220, 1⟩, ⟨155, 248, 1⟩, ⟨156, 163, 1⟩, ⟨157, 216, 1⟩, ⟨158, 350, 2⟩,
       ⟨160, 225, 1⟩, ⟨161, 237, 1⟩, ⟨162, 243, 1⟩, ⟨163, 250, 1⟩, ⟨164, 241, 1⟩, ⟨165, 209, 1⟩,
       ⟨166, 286, 2⟩, ⟨168, 191, 1⟩, ⟨169, 174, 1⟩, ⟨170, 172, 1⟩, ⟨171, 189, 1⟩, ⟨172, 188, 1⟩,
       ⟨173, 161, 1⟩, ⟨174, 171, 1⟩, ⟨175, 187, 1⟩, ⟨176, 9617, 3⟩, ⟨179, 9474, 1⟩, ⟨180, 9508, 1⟩,
       ⟨181, 193, 2⟩, ⟨183, 192, 1⟩, ⟨184, 169, 1⟩, ⟨185, 9571, 1⟩, ⟨186, 9553, 1⟩, ⟨187, 9559, 1⟩,
       ⟨188, 9565, 1⟩, ⟨189, 162, 1⟩, ⟨190, 165, 1⟩, ⟨191, 9488, 1⟩, ⟨192, 9492, 1⟩, ⟨193, 9524, 1⟩,
       ⟨194, 9516, 1⟩, ⟨195, 9500, 1⟩, ⟨196, 9472, 1⟩, ⟨197, 9532, 1⟩, ⟨198, 227, 1⟩, ⟨199, 195, 1⟩,
       ⟨200, 9562, 1⟩, ⟨201, 9556, 1⟩, ⟨202, 9577, 1⟩, ⟨203, 9574, 1⟩, ⟨204, 9568, 1⟩,
       ⟨205, 9552, 1⟩, ⟨206, 9580, 1⟩, ⟨207, 164, 1⟩, ⟨208, 186, 1⟩, ⟨209, 170, 1⟩, ⟨210, 202, 2⟩,
       ⟨212, 200, 1⟩, ⟨214, 205, 3⟩, ⟨217, 9496, 1⟩, ⟨218, 9484, 1⟩, ⟨219, 9608, 1⟩, ⟨220, 9604, 1⟩,
       ⟨221, 166, 1⟩, ⟨222, 204, 1⟩, ⟨223, 9600, 1⟩, ⟨224, 211, 1⟩, ⟨225, 223, 1⟩, ⟨226, 212, 1⟩,
       ⟨227, 210, 1⟩, ⟨228, 245, 1⟩, ⟨229, 213, 1⟩, ⟨230, 181, 1⟩, ⟨232, 215, 1⟩, ⟨233, 218, 2⟩,
       ⟨235, 217, 1⟩, ⟨236, 236, 1⟩, ⟨237, 255, 1⟩, ⟨238, 175, 1⟩, ⟨239, 180, 1⟩, ⟨240, 173, 1⟩,
       ⟨241, 177, 1⟩, ⟨243, 190, 1⟩, ⟨244, 182, 1⟩, ⟨245, 167, 1⟩, ⟨246, 247, 1⟩, ⟨247, 184, 1⟩,
       ⟨248, 176, 1⟩, ⟨249, 168, 1⟩, ⟨250, 183, 1⟩, ⟨251, 185, 1⟩, ⟨252, 179, 1⟩, ⟨253, 178, 1⟩,
       ⟨254, 9632, 1⟩, ⟨255, 160, 1⟩] }

/-- The character set `cp858`. -/
def cp858 : Charset :=
  { names :=
      ["858", "cp858", "csibm858", "ibm858"]
    runs :=
      [⟨0, 0, 128⟩, ⟨128, 199, 1⟩, ⟨129, 252, 1⟩, ⟨130, 233, 1⟩, ⟨131, 226, 1⟩, ⟨132, 228, 1⟩,
       ⟨133, 224, 1⟩, ⟨134, 229, 1⟩, ⟨135, 231, 1⟩, ⟨136, 234, 2⟩, ⟨138, 232, 1⟩, ⟨139, 239, 1⟩,
       ⟨140, 238, 1⟩, ⟨141, 236, 1⟩, ⟨142, 196, 2⟩, ⟨144, 201, 1⟩, ⟨145, 230, 1⟩, ⟨146, 198, 1⟩,
       ⟨147, 244, 1⟩, ⟨148, 246, 1⟩, ⟨149, 242, 1⟩, ⟨150, 251, 1⟩, ⟨151, 249, 1⟩, ⟨152, 255, 1⟩,
       ⟨153, 214, 1⟩, ⟨154, 220, 1⟩, ⟨155, 248, 1⟩, ⟨156, 163, 1⟩, ⟨157, 216, 1⟩, ⟨158, 215, 1⟩,
       ⟨159, 402, 1⟩, ⟨160, 225, 1⟩, ⟨161, 237, 1⟩, ⟨162, 243, 1⟩, ⟨163, 250, 1⟩, ⟨164, 241, 1⟩,
       ⟨165, 209, 1⟩, ⟨166, 170, 1⟩, ⟨167, 186, 1⟩, ⟨168, 191, 1⟩, ⟨169, 174, 1⟩, ⟨170, 172, 1⟩,
       ⟨171, 189, 1⟩, ⟨172, 188, 1⟩, ⟨173, 161, 1⟩, ⟨174, 171, 1⟩, ⟨175, 187, 1⟩, ⟨176, 9617, 3⟩,
       ⟨179, 9474, 1⟩, ⟨180, 9508, 1⟩, ⟨181, 193, 2⟩, ⟨183, 192, 1⟩, ⟨184, 169, 1⟩, ⟨185, 9571, 1⟩,
       ⟨186, 9553, 1⟩, ⟨187, 9559, 1⟩, ⟨188, 9565, 1⟩, ⟨189, 162, 1⟩, ⟨190, 165, 1⟩, ⟨191, 9488, 1⟩,
       ⟨192, 9492, 1⟩, ⟨193, 9524, 1⟩, ⟨194, 9516, 1⟩, ⟨195, 9500, 1⟩, ⟨196, 9472, 1⟩,
       ⟨197, 9532, 1⟩, ⟨198, 227, 1⟩, ⟨199, 195, 1⟩, ⟨200, 9562, 1⟩, ⟨201, 9556, 1⟩, ⟨202, 9577, 1⟩,
       ⟨203, 9574, 1⟩, ⟨204, 9568, 1⟩, ⟨205, 9552, 1⟩, ⟨206, 9580, 1⟩, ⟨207, 164, 1⟩, ⟨208, 240, 1⟩,
       ⟨209, 208, 1⟩, ⟨210, 202, 2⟩, ⟨212, 200, 1⟩, ⟨213, 8364, 1⟩, ⟨214, 205, 3⟩, ⟨217, 9496, 1⟩,
       ⟨218, 9484, 1⟩, ⟨219, 9608, 1⟩, ⟨220, 9604, 1⟩, ⟨221, 166, 1⟩, ⟨222, 204, 1⟩, ⟨223, 9600, 1⟩,
       ⟨224, 211, 1⟩, ⟨225, 223, 1⟩, ⟨226, 212, 1⟩, ⟨227, 210, 1⟩, ⟨228, 245, 1⟩, ⟨229, 213, 1⟩,
       ⟨230, 181, 1⟩, ⟨231, 254, 1⟩, ⟨232, 222, 1⟩, ⟨233, 218, 2⟩, ⟨235, 217, 1⟩, ⟨236, 253, 1⟩,
       ⟨237, 221, 1⟩, ⟨238, 175, 1⟩, ⟨239, 180, 1⟩, ⟨240, 173, 1⟩, ⟨241, 177, 1⟩, ⟨242, 8215, 1⟩,
       ⟨243, 190, 1⟩, ⟨244, 182, 1⟩, ⟨245, 167, 1⟩, ⟨246, 247, 1⟩, ⟨247, 184, 1⟩, ⟨248, 176, 1⟩,
       ⟨249, 168, 1⟩, ⟨250, 183, 1⟩, ⟨251, 185, 1⟩, ⟨252, 179, 1⟩, ⟨253, 178, 1⟩, ⟨254, 9632, 1⟩,
       ⟨255, 160, 1⟩] }

/-- The character set `cp860`. -/
def cp860 : Charset :=
  { names :=
      ["860", "cp860", "csibm860", "ibm860"]
    runs :=
      [⟨0, 0, 128⟩, ⟨128, 199, 1⟩, ⟨129, 252, 1⟩, ⟨130, 233, 1⟩, ⟨131, 226, 2⟩, ⟨133, 224, 1⟩,
       ⟨134, 193, 1⟩, ⟨135, 231, 1⟩, ⟨136, 234, 1⟩, ⟨137, 202, 1⟩, ⟨138, 232, 1⟩, ⟨139, 205, 1⟩,
       ⟨140, 212, 1⟩, ⟨141, 236, 1⟩, ⟨142, 195, 1⟩, ⟨143, 194, 1⟩, ⟨144, 201, 1⟩, ⟨145, 192, 1⟩,
       ⟨146, 200, 1⟩, ⟨147, 244, 2⟩, ⟨149, 242, 1⟩, ⟨150, 218, 1⟩, ⟨151, 249, 1⟩, ⟨152, 204, 1⟩,
       ⟨153, 213, 1⟩, ⟨154, 220, 1⟩, ⟨155, 162, 2⟩, ⟨157, 217, 1⟩, ⟨158, 8359, 1⟩, ⟨159, 211, 1⟩,
       ⟨160, 225, 1⟩, ⟨161, 237, 1⟩, ⟨162, 243, 1⟩, ⟨163, 250, 1⟩, ⟨164, 241, 1⟩, ⟨165, 209, 1⟩,
       ⟨166, 170, 1⟩, ⟨167, 186, 1⟩, ⟨168, 191, 1⟩, ⟨169, 210, 1⟩, ⟨170, 172, 1⟩, ⟨171, 189, 1⟩,
       ⟨172, 188, 1⟩, ⟨173, 161, 1⟩, ⟨174, 171, 1⟩, ⟨175, 187, 1⟩, ⟨176, 9617, 3⟩, ⟨179, 9474, 1⟩,
       ⟨180, 9508, 1⟩, ⟨181, 9569, 2⟩, ⟨183, 9558, 1⟩, ⟨184, 9557, 1⟩, ⟨185, 9571, 1⟩,
       ⟨186, 9553, 1⟩, ⟨187, 9559, 1⟩, ⟨188, 9565, 1⟩, ⟨189, 9564, 1⟩, ⟨190, 9563, 1⟩,
       ⟨191, 9488, 1⟩, ⟨192, 9492, 1⟩, ⟨193, 9524, 1⟩, ⟨194, 9516, 1⟩, ⟨195, 9500, 1⟩,
       ⟨196, 9472, 1⟩, ⟨197, 9532, 1⟩, ⟨198, 9566, 2⟩, ⟨200, 9562, 1⟩, ⟨201, 9556, 1⟩,
       ⟨202, 9577, 1⟩, ⟨203, 9574, 1⟩, ⟨204, 9568, 1⟩, ⟨205, 9552, 1⟩, ⟨206, 9580, 1⟩,
       ⟨207, 9575, 2⟩, ⟨209, 9572, 2⟩, ⟨211, 9561, 1⟩, ⟨212, 9560, 1⟩, ⟨213, 9554, 2⟩,
       ⟨215, 9579, 1⟩, ⟨216, 9578, 1⟩, ⟨217, 9496, 1⟩, ⟨218, 9484, 1⟩, ⟨219, 9608, 1⟩,
       ⟨220, 9604, 1⟩, ⟨221, 9612, 1⟩, ⟨222, 9616, 1⟩, ⟨223, 9600, 1⟩, ⟨224, 945, 1⟩, ⟨225, 223, 1⟩,
       ⟨226, 915, 1⟩, ⟨227, 960, 1⟩, ⟨228, 931, 1⟩, ⟨229, 963, 1⟩, ⟨230, 181, 1⟩, ⟨231, 964, 1⟩,
       ⟨232, 934, 1⟩, ⟨233, 920, 1⟩, ⟨234, 937, 1⟩, ⟨235, 948, 1⟩, ⟨236, 8734, 1⟩, ⟨237, 966, 1⟩,
       ⟨238, 949, 1⟩, ⟨239, 8745, 1⟩, ⟨240, 8801, 1⟩, ⟨241, 177, 1⟩, ⟨242, 8805, 1⟩, ⟨243, 8804, 1⟩,
       ⟨244, 8992, 2⟩, ⟨246, 247, 1⟩, ⟨247, 8776, 1⟩, ⟨248, 176, 1⟩, ⟨249, 8729, 1⟩, ⟨250, 183, 1⟩,
       ⟨251, 8730, 1⟩, ⟨252, 8319, 1⟩, ⟨253, 178, 1⟩, ⟨254, 9632, 1⟩, ⟨255, 160, 1⟩] }

/-- The character set `cp861`. -/
def cp861 : Charset :=
  { names :=
      ["861", "cp861", "cp_is", "csibm861", "ibm861"]
    runs :=
      [⟨0, 0, 128⟩, ⟨128, 199, 1⟩, ⟨129, 252, 1⟩, ⟨130, 233, 1⟩, ⟨131, 226, 1⟩, ⟨132, 228, 1⟩,
       ⟨133, 224, 1⟩, ⟨134, 229, 1⟩, ⟨135, 231, 1⟩, ⟨136, 234, 2⟩, ⟨138, 232, 1⟩, ⟨139, 208, 1⟩,
       ⟨140, 240, 1⟩, ⟨141, 222, 1⟩, ⟨142, 196, 2⟩, ⟨144, 201, 1⟩, ⟨145, 230, 1⟩, ⟨146, 198, 1⟩,
       ⟨147, 244, 1⟩, ⟨148, 246, 1⟩, ⟨149, 254, 1⟩, ⟨150, 251, 1⟩, ⟨151, 221, 1⟩, ⟨152, 253, 1⟩,
       ⟨153, 214, 1⟩, ⟨154, 220, 1⟩, ⟨155, 248, 1⟩, ⟨156, 163, 1⟩, ⟨157, 216, 1⟩, ⟨158, 8359, 1⟩,
       ⟨159, 402, 1⟩, ⟨160, 225, 1⟩, ⟨161, 237, 1⟩, ⟨162, 243, 1⟩, ⟨163, 250, 1⟩, ⟨164, 193, 1⟩,
       ⟨165, 205, 1⟩, ⟨166, 211, 1⟩, ⟨167, 218, 1⟩, ⟨168, 191, 1⟩, ⟨169, 8976, 1⟩, ⟨170, 172, 1⟩,
       ⟨171, 189, 1⟩, ⟨172, 188, 1⟩, ⟨173, 161, 1⟩, ⟨174, 171, 1⟩, ⟨175, 187, 1⟩, ⟨176, 9617, 3⟩,
       ⟨179, 9474, 1⟩, ⟨180, 9508, 1⟩, ⟨181, 9569, 2⟩, ⟨183, 9558, 1⟩, ⟨184, 9557, 1⟩,
       ⟨185, 9571, 1⟩, ⟨186, 9553, 1⟩, ⟨187, 9559, 1⟩, ⟨188, 9565, 1⟩, ⟨189, 9564, 1⟩,
       ⟨190, 9563, 1⟩, ⟨191, 9488, 1⟩, ⟨192, 9492, 1⟩, ⟨193, 9524, 1⟩, ⟨194, 9516, 1⟩,
       ⟨195, 9500, 1⟩, ⟨196, 9472, 1⟩, ⟨197, 9532, 1⟩, ⟨198, 9566, 2⟩, ⟨200, 9562, 1⟩,
       ⟨201, 9556, 1⟩, ⟨202, 9577, 1⟩, ⟨203, 9574, 1⟩, ⟨204, 9568, 1⟩, ⟨205, 9552, 1⟩,
       ⟨206, 9580, 1⟩, ⟨207, 9575, 2⟩, ⟨209, 9572, 2⟩, ⟨211, 9561, 1⟩, ⟨212, 9560, 1⟩,
       ⟨213, 9554, 2⟩, ⟨215, 9579, 1⟩, ⟨216, 9578, 1⟩, ⟨217, 9496, 1⟩, ⟨218, 9484, 1⟩,
       ⟨219, 9608, 1⟩, ⟨220, 9604, 1⟩, ⟨221, 9612, 1⟩, ⟨222, 9616, 1⟩, ⟨223, 9600, 1⟩,
       ⟨224, 945, 1⟩, ⟨225, 223, 1⟩, ⟨226, 915, 1⟩, ⟨227, 960, 1⟩, ⟨228, 931, 1⟩, ⟨229, 963, 1⟩,
       ⟨230, 181, 1⟩, ⟨231, 964, 1⟩, ⟨232, 934, 1⟩, ⟨233, 920, 1⟩, ⟨234, 937, 1⟩, ⟨235, 948, 1⟩,
       ⟨236, 8734, 1⟩, ⟨237, 966, 1⟩, ⟨238, 949, 1⟩, ⟨239, 8745, 1⟩, ⟨240, 8801, 1⟩, ⟨241, 177, 1⟩,
       ⟨242, 8805, 1⟩, ⟨243, 8804, 1⟩, ⟨244, 8992, 2⟩, ⟨246, 247, 1⟩, ⟨247, 8776, 1⟩, ⟨248, 176, 1⟩,
       ⟨249, 8729, 1⟩, ⟨250, 183, 1⟩, ⟨251, 8730, 1⟩, ⟨252, 8319, 1⟩, ⟨253, 178, 1⟩, ⟨254, 9632, 1⟩,
       ⟨255, 160, 1⟩] }

/-- The character set `cp862`. -/
def cp862 : Charset :=
  { names :=
      ["862", "cp862", "cspc862latinhebrew", "ibm862"]
    runs :=
      [⟨0, 0, 128⟩, ⟨128, 1488, 27⟩, ⟨155, 162, 2⟩, ⟨157, 165, 1⟩, ⟨158, 8359, 1⟩, ⟨159, 402, 1⟩,
       ⟨160, 225, 1⟩, ⟨161, 237, 1⟩, ⟨162, 243, 1⟩, ⟨163, 250, 1⟩, ⟨164, 241, 1⟩, ⟨165, 209, 1⟩,
       ⟨166, 170, 1⟩, ⟨167, 186, 1⟩, ⟨168, 191, 1⟩, ⟨169, 8976, 1⟩, ⟨170, 172, 1⟩, ⟨171, 189, 1⟩,
       ⟨172, 188, 1⟩, ⟨173, 161, 1⟩, ⟨174, 171, 1⟩, ⟨175, 187, 1⟩, ⟨176, 9617, 3⟩, ⟨179, 9474, 1⟩,
       ⟨180, 9508, 1⟩, ⟨181, 9569, 2⟩, ⟨183, 9558, 1⟩, ⟨184, 9557, 1⟩, ⟨185, 9571, 1⟩,
       ⟨186, 9553, 1⟩, ⟨187, 9559, 1⟩, ⟨188, 9565, 1⟩, ⟨189, 9564, 1⟩, ⟨190, 9563, 1⟩,
       ⟨191, 9488, 1⟩, ⟨192, 9492, 1⟩, ⟨193, 9524, 1⟩, ⟨194, 9516, 1⟩, ⟨195, 9500, 1⟩,
       ⟨196, 9472, 1⟩, ⟨197, 9532, 1⟩, ⟨198, 9566, 2⟩, ⟨200, 9562, 1⟩, ⟨201, 9556, 1⟩,
       ⟨202, 9577, 1⟩, ⟨203, 9574, 1⟩, ⟨204, 9568, 1⟩, ⟨205, 9552, 1⟩, ⟨206, 9580, 1⟩,
       ⟨207, 9575, 2⟩, ⟨209, 9572, 2⟩, ⟨211, 9561, 1⟩, ⟨212, 9560, 1⟩, ⟨213, 9554, 2⟩,
       ⟨215, 9579, 1⟩, ⟨216, 9578, 1⟩, ⟨217, 9496, 1⟩, ⟨218, 9484, 1⟩, ⟨219, 9608, 1⟩,
       ⟨220, 9604, 1⟩, ⟨221, 9612, 1⟩, ⟨222, 9616, 1⟩, ⟨223, 9600, 1⟩, ⟨224, 945, 1⟩, ⟨225, 223, 1⟩,
       ⟨226, 915, 1⟩, ⟨227, 960, 1⟩, ⟨228, 931, 1⟩, ⟨229, 963, 1⟩, ⟨230, 181, 1⟩, ⟨231, 964, 1⟩,
       ⟨232, 934, 1⟩, ⟨233, 920, 1⟩, ⟨234, 937, 1⟩, ⟨235, 948, 1⟩, ⟨236, 8734, 1⟩, ⟨237, 966, 1⟩,
       ⟨238, 949, 1⟩, ⟨239, 8745, 1⟩, ⟨240, 8801, 1⟩, ⟨241, 177, 1⟩, ⟨242, 8805, 1⟩, ⟨243, 8804, 1⟩,
       ⟨244, 8992, 2⟩, ⟨246, 247, 1⟩, ⟨247, 8776, 1⟩, ⟨248, 176, 1⟩, ⟨249, 8729, 1⟩, ⟨250, 183, 1⟩,
       ⟨251, 8730, 1⟩, ⟨252, 8319, 1⟩, ⟨253, 178, 1⟩, ⟨254, 9632, 1⟩, ⟨255, 160, 1⟩] }

/-- The character set `cp863`. -/
def cp863 : Charset :=
  { names :=
      ["863", "cp863", "csibm863", "ibm863"]
    runs :=
      [⟨0, 0, 128⟩, ⟨128, 199, 1⟩, ⟨129, 252, 1⟩, ⟨130, 233, 1⟩, ⟨131, 226, 1⟩, ⟨132, 194, 1⟩,
       ⟨133, 224, 1⟩, ⟨134, 182, 1⟩, ⟨135, 231, 1⟩, ⟨136, 234, 2⟩, ⟨138, 232, 1⟩, ⟨139, 239, 1⟩,
       ⟨140, 238, 1⟩, ⟨141, 8215, 1⟩, ⟨142, 192, 1⟩, ⟨143, 167, 1⟩, ⟨144, 201, 1⟩, ⟨145, 200, 1⟩,
       ⟨146, 202, 1⟩, ⟨147, 244, 1⟩, ⟨148, 203, 1⟩, ⟨149, 207, 1⟩, ⟨150, 251, 1⟩, ⟨151, 249, 1⟩,
       ⟨152, 164, 1⟩, ⟨153, 212, 1⟩, ⟨154, 220, 1⟩, ⟨155, 162, 2⟩, ⟨157, 217, 1⟩, ⟨158, 219, 1⟩,
       ⟨159, 402, 1⟩, ⟨160, 166, 1⟩, ⟨161, 180, 1⟩, ⟨162, 243, 1⟩, ⟨163, 250, 1⟩, ⟨164, 168, 1⟩,
       ⟨165, 184, 1⟩, ⟨166, 179, 1⟩, ⟨167, 175, 1⟩, ⟨168, 206, 1⟩, ⟨169, 8976, 1⟩, ⟨170, 172, 1⟩,
       ⟨171, 189, 1⟩, ⟨172, 188, 1⟩, ⟨173, 190, 1⟩, ⟨174, 171, 1⟩, ⟨175, 187, 1⟩, ⟨176, 9617, 3⟩,
       ⟨179, 9474, 1⟩, ⟨180, 9508, 1⟩, ⟨181, 9569, 2⟩, ⟨183, 9558, 1⟩, ⟨184, 9557, 1⟩,
       ⟨185, 9571, 1⟩, ⟨186, 9553, 1⟩, ⟨187, 9559, 1⟩, ⟨188, 9565, 1⟩, ⟨189, 9564, 1⟩,
       ⟨190, 9563, 1⟩, ⟨191, 9488, 1⟩, ⟨192, 9492, 1⟩, ⟨193, 9524, 1⟩, ⟨194, 9516, 1⟩,
       ⟨195, 9500, 1⟩, ⟨196, 9472, 1⟩, ⟨197, 9532, 1⟩, ⟨198, 9566, 2⟩, ⟨200, 9562, 1⟩,
       ⟨201, 9556, 1⟩, ⟨202, 9577, 1⟩, ⟨203, 9574, 1⟩, ⟨204, 9568, 1⟩, ⟨205, 9552, 1⟩,
       ⟨206, 9580, 1⟩, ⟨207, 9575, 2⟩, ⟨209, 9572, 2⟩, ⟨211, 9561, 1⟩, ⟨212, 9560, 1⟩,
       ⟨213, 9554, 2⟩, ⟨215, 9579, 1⟩, ⟨216, 9578, 1⟩, ⟨217, 9496, 1⟩, ⟨218, 9484, 1⟩,
       ⟨219, 9608, 1⟩, ⟨220, 9604, 1⟩, ⟨221, 9612, 1⟩, ⟨222, 9616, 1⟩, ⟨223, 9600, 1⟩,
       ⟨224, 945, 1⟩, ⟨225, 223, 1⟩, ⟨226, 915, 1⟩, ⟨227, 960, 1⟩, ⟨228, 931, 1⟩, ⟨229, 963, 1⟩,
       ⟨230, 181, 1⟩, ⟨231, 964, 1⟩, ⟨232, 934, 1⟩, ⟨233, 920, 1⟩, ⟨234, 937, 1⟩, ⟨235, 948, 1⟩,
       ⟨236, 8734, 1⟩, ⟨237, 966, 1⟩, ⟨238, 949, 1⟩, ⟨239, 8745, 1⟩, ⟨240, 8801, 1⟩, ⟨241, 177, 1⟩,
       ⟨242, 8805, 1⟩, ⟨243, 8804, 1⟩, ⟨244, 8992, 2⟩, ⟨246, 247, 1⟩, ⟨247, 8776, 1⟩, ⟨248, 176, 1⟩,
       ⟨249, 8729, 1⟩, ⟨250, 183, 1⟩, ⟨251, 8730, 1⟩, ⟨252, 8319, 1⟩, ⟨253, 178, 1⟩, ⟨254, 9632, 1⟩,
       ⟨255, 160, 1⟩] }

/-- The character set `cp865`. -/
def cp865 : Charset :=
  { names :=
      ["865", "cp865", "csibm865", "ibm865"]
    runs :=
      [⟨0, 0, 128⟩, ⟨128, 199, 1⟩, ⟨129, 252, 1⟩, ⟨130, 233, 1⟩, ⟨131, 226, 1⟩, ⟨132, 228, 1⟩,
       ⟨133, 224, 1⟩, ⟨134, 229, 1⟩, ⟨135, 231, 1⟩, ⟨136, 234, 2⟩, ⟨138, 232, 1⟩, ⟨139, 239, 1⟩,
       ⟨140, 238, 1⟩, ⟨141, 236, 1⟩, ⟨142, 196, 2⟩, ⟨144, 201, 1⟩, ⟨145, 230, 1⟩, ⟨146, 198, 1⟩,
       ⟨147, 244, 1⟩, ⟨148, 246, 1⟩, ⟨149, 242, 1⟩, ⟨150, 251, 1⟩, ⟨151, 249, 1⟩, ⟨152, 255, 1⟩,
       ⟨153, 214, 1⟩, ⟨154, 220, 1⟩, ⟨155, 248, 1⟩, ⟨156, 163, 1⟩, ⟨157, 216, 1⟩, ⟨158, 8359, 1⟩,
       ⟨159, 402, 1⟩, ⟨160, 225, 1⟩, ⟨161, 237, 1⟩, ⟨162, 243, 1⟩, ⟨163, 250, 1⟩, ⟨164, 241, 1⟩,
       ⟨165, 209, 1⟩, ⟨166, 170, 1⟩, ⟨167, 186, 1⟩, ⟨168, 191, 1⟩, ⟨169, 8976, 1⟩, ⟨170, 172, 1⟩,
       ⟨171, 189, 1⟩, ⟨172, 188, 1⟩, ⟨173, 161, 1⟩, ⟨174, 171, 1⟩, ⟨175, 164, 1⟩, ⟨176, 9617, 3⟩,
       ⟨179, 9474, 1⟩, ⟨180, 9508, 1⟩, ⟨181, 9569, 2⟩, ⟨183, 9558, 1⟩, ⟨184, 9557, 1⟩,
       ⟨185, 9571, 1⟩, ⟨186, 9553, 1⟩, ⟨187, 9559, 1⟩, ⟨188, 9565, 1⟩, ⟨189, 9564, 1⟩,
       ⟨190, 9563, 1⟩, ⟨191, 9488, 1⟩, ⟨192, 9492, 1⟩, ⟨193, 9524, 1⟩, ⟨194, 9516, 1⟩,
       ⟨195, 9500, 1⟩, ⟨196, 9472, 1⟩, ⟨197, 9532, 1⟩, ⟨198, 9566, 2⟩, ⟨200, 9562, 1⟩,
       ⟨201, 9556, 1⟩, ⟨202, 9577, 1⟩, ⟨203, 9574, 1⟩, ⟨204, 9568, 1⟩, ⟨205, 9552, 1⟩,
       ⟨206, 9580, 1⟩, ⟨207, 9575, 2⟩, ⟨209, 9572, 2⟩, ⟨211, 9561, 1⟩, ⟨212, 9560, 1⟩,
       ⟨213, 9554, 2⟩, ⟨215, 9579, 1⟩, ⟨216, 9578, 1⟩, ⟨217, 9496, 1⟩, ⟨218, 9484, 1⟩,
       ⟨219, 9608, 1⟩, ⟨220, 9604, 1⟩, ⟨221, 9612, 1⟩, ⟨222, 9616, 1⟩, ⟨223, 9600, 1⟩,
       ⟨224, 945, 1⟩, ⟨225, 223, 1⟩, ⟨226, 915, 1⟩, ⟨227, 960, 1⟩, ⟨228, 931, 1⟩, ⟨229, 963, 1⟩,
       ⟨230, 181, 1⟩, ⟨231, 964, 1⟩, ⟨232, 934, 1⟩, ⟨233, 920, 1⟩, ⟨234, 937, 1⟩, ⟨235, 948, 1⟩,
       ⟨236, 8734, 1⟩, ⟨237, 966, 1⟩, ⟨238, 949, 1⟩, ⟨239, 8745, 1⟩, ⟨240, 8801, 1⟩, ⟨241, 177, 1⟩,
       ⟨242, 8805, 1⟩, ⟨243, 8804, 1⟩, ⟨244, 8992, 2⟩, ⟨246, 247, 1⟩, ⟨247, 8776, 1⟩, ⟨248, 176, 1⟩,
       ⟨249, 8729, 1⟩, ⟨250, 183, 1⟩, ⟨251, 8730, 1⟩, ⟨252, 8319, 1⟩, ⟨253, 178, 1⟩, ⟨254, 9632, 1⟩,
       ⟨255, 160, 1⟩] }

/-- The character set `cp866`. -/
def cp866 : Charset :=
  { names :=
      ["866", "cp866", "csibm866", "ibm866"]
    runs :=
      [⟨0, 0, 128⟩, ⟨128, 1040, 48⟩, ⟨176, 9617, 3⟩, ⟨179, 9474, 1⟩, ⟨180, 9508, 1⟩,
       ⟨181, 9569, 2⟩, ⟨183, 9558, 1⟩, ⟨184, 9557, 1⟩, ⟨185, 9571, 1⟩, ⟨186, 9553, 1⟩,
       ⟨187, 9559, 1⟩, ⟨188, 9565, 1⟩, ⟨189, 9564, 1⟩, ⟨190, 9563, 1⟩, ⟨191, 9488, 1⟩,
       ⟨192, 9492, 1⟩, ⟨193, 9524, 1⟩, ⟨194, 9516, 1⟩, ⟨195, 9500, 1⟩, ⟨196, 9472, 1⟩,
       ⟨197, 9532, 1⟩, ⟨198, 9566, 2⟩, ⟨200, 9562, 1⟩, ⟨201, 9556, 1⟩, ⟨202, 9577, 1⟩,
       ⟨203, 9574, 1⟩, ⟨204, 9568, 1⟩, ⟨205, 9552, 1⟩, ⟨206, 9580, 1⟩, ⟨207, 9575, 2⟩,
       ⟨209, 9572, 2⟩, ⟨211, 9561, 1⟩, ⟨212, 9560, 1⟩, ⟨213, 9554, 2⟩, ⟨215, 9579, 1⟩,
       ⟨216, 9578, 1⟩, ⟨217, 9496, 1⟩, ⟨218, 9484, 1⟩, ⟨219, 9608, 1⟩, ⟨220, 9604, 1⟩,
       ⟨221, 9612, 1⟩, ⟨222, 9616, 1⟩, ⟨223, 9600, 1⟩, ⟨224, 1088, 16⟩, ⟨240, 1025, 1⟩,
       ⟨241, 1105, 1⟩, ⟨242, 1028, 1⟩, ⟨243, 1108, 1⟩, ⟨244, 1031, 1⟩, ⟨245, 1111, 1⟩,
       ⟨246, 1038, 1⟩, ⟨247, 1118, 1⟩, ⟨248, 176, 1⟩, ⟨249, 8729, 1⟩, ⟨250, 183, 1⟩,
       ⟨251, 8730, 1⟩, ⟨252, 8470, 1⟩, ⟨253, 164, 1⟩, ⟨254, 9632, 1⟩, ⟨255, 160, 1⟩] }

/-- The character set `cp869`. -/
def cp869 : Charset :=
  { names :=
      ["869", "cp869", "cp_gr", "csibm869", "ibm869"]
    runs :=
      [⟨0, 0, 128⟩, ⟨134, 902, 1⟩, ⟨136, 183, 1⟩, ⟨137, 172, 1⟩, ⟨138, 166, 1⟩, ⟨139, 8216, 2⟩,
       ⟨141, 904, 1⟩, ⟨142, 8213, 1⟩, ⟨143, 905, 2⟩, ⟨145, 938, 1⟩, ⟨146, 908, 1⟩, ⟨149, 910, 1⟩,
       ⟨150, 939, 1⟩, ⟨151, 169, 1⟩, ⟨152, 911, 1⟩, ⟨153, 178, 2⟩, ⟨155, 940, 1⟩, ⟨156, 163, 1⟩,
       ⟨157, 941, 3⟩, ⟨160, 970, 1⟩, ⟨161, 912, 1⟩, ⟨162, 972, 2⟩, ⟨164, 913, 7⟩, ⟨171, 189, 1⟩,
       ⟨172, 920, 2⟩, ⟨174, 171, 1⟩, ⟨175, 187, 1⟩, ⟨176, 9617, 3⟩, ⟨179, 9474, 1⟩, ⟨180, 9508, 1⟩,
       ⟨181, 922, 4⟩, ⟨185, 9571, 1⟩, ⟨186, 9553, 1⟩, ⟨187, 9559, 1⟩, ⟨188, 9565, 1⟩, ⟨189, 926, 2⟩,
       ⟨191, 9488, 1⟩, ⟨192, 9492, 1⟩, ⟨193, 9524, 1⟩, ⟨194, 9516, 1⟩, ⟨195, 9500, 1⟩,
       ⟨196, 9472, 1⟩, ⟨197, 9532, 1⟩, ⟨198, 928, 2⟩, ⟨200, 9562, 1⟩, ⟨201, 9556, 1⟩,
       ⟨202, 9577, 1⟩, ⟨203, 9574, 1⟩, ⟨204, 9568, 1⟩, ⟨205, 9552, 1⟩, ⟨206, 9580, 1⟩,
       ⟨207, 931, 7⟩, ⟨214, 945, 3⟩, ⟨217, 9496, 1⟩, ⟨218, 9484, 1⟩, ⟨219, 9608, 1⟩, ⟨220, 9604, 1⟩,
       ⟨221, 948, 2⟩, ⟨223, 9600, 1⟩, ⟨224, 950, 12⟩, ⟨236, 963, 1⟩, ⟨237, 962, 1⟩, ⟨238, 964, 1⟩,
       ⟨239, 900, 1⟩, ⟨240, 173, 1⟩, ⟨241, 177, 1⟩, ⟨242, 965, 3⟩, ⟨245, 167, 1⟩, ⟨246, 968, 1⟩,
       ⟨247, 901, 1⟩, ⟨248, 176, 1⟩, ⟨249, 168, 1⟩, ⟨250, 969, 1⟩, ⟨251, 971, 1⟩, ⟨252, 944, 1⟩,
       ⟨253, 974, 1⟩, ⟨254, 9632, 1⟩, ⟨255, 160, 1⟩] }

/-- The character set `cp874`. -/
def cp874 : Charset :=
  { names :=
      ["cp874"]
    runs :=
      [⟨0, 0, 128⟩, ⟨128, 8364, 1⟩, ⟨133, 8230, 1⟩, ⟨145, 8216, 2⟩, ⟨147, 8220, 2⟩,
       ⟨149, 8226, 1⟩, ⟨150, 8211, 2⟩, ⟨160, 160, 1⟩, ⟨161, 3585, 58⟩, ⟨223, 3647, 29⟩] }

/-- The character set `hp_roman8`. -/
def hpRoman8 : Charset :=
  { names :=
      ["cp1051", "hp_roman8", "ibm1051", "r8", "roman8"]
    runs :=
      [⟨0, 0, 161⟩, ⟨161, 192, 1⟩, ⟨162, 194, 1⟩, ⟨163, 200, 1⟩, ⟨164, 202, 2⟩, ⟨166, 206, 2⟩,
       ⟨168, 180, 1⟩, ⟨169, 715, 1⟩, ⟨170, 710, 1⟩, ⟨171, 168, 1⟩, ⟨172, 732, 1⟩, ⟨173, 217, 1⟩,
       ⟨174, 219, 1⟩, ⟨175, 8356, 1⟩, ⟨176, 175, 1⟩, ⟨177, 221, 1⟩, ⟨178, 253, 1⟩, ⟨179, 176, 1⟩,
       ⟨180, 199, 1⟩, ⟨181, 231, 1⟩, ⟨182, 209, 1⟩, ⟨183, 241, 1⟩, ⟨184, 161, 1⟩, ⟨185, 191, 1⟩,
       ⟨186, 164, 1⟩, ⟨187, 163, 1⟩, ⟨188, 165, 1⟩, ⟨189, 167, 1⟩, ⟨190, 402, 1⟩, ⟨191, 162, 1⟩,
       ⟨192, 226, 1⟩, ⟨193, 234, 1⟩, ⟨194, 244, 1⟩, ⟨195, 251, 1⟩, ⟨196, 225, 1⟩, ⟨197, 233, 1⟩,
       ⟨198, 243, 1⟩, ⟨199, 250, 1⟩, ⟨200, 224, 1⟩, ⟨201, 232, 1⟩, ⟨202, 242, 1⟩, ⟨203, 249, 1⟩,
       ⟨204, 228, 1⟩, ⟨205, 235, 1⟩, ⟨206, 246, 1⟩, ⟨207, 252, 1⟩, ⟨208, 197, 1⟩, ⟨209, 238, 1⟩,
       ⟨210, 216, 1⟩, ⟨211, 198, 1⟩, ⟨212, 229, 1⟩, ⟨213, 237, 1⟩, ⟨214, 248, 1⟩, ⟨215, 230, 1⟩,
       ⟨216, 196, 1⟩, ⟨217, 236, 1⟩, ⟨218, 214, 1⟩, ⟨219, 220, 1⟩, ⟨220, 201, 1⟩, ⟨221, 239, 1⟩,
       ⟨222, 223, 1⟩, ⟨223, 212, 1⟩, ⟨224, 193, 1⟩, ⟨225, 195, 1⟩, ⟨226, 227, 1⟩, ⟨227, 208, 1⟩,
       ⟨228, 240, 1⟩, ⟨229, 205, 1⟩, ⟨230, 204, 1⟩, ⟨231, 211, 1⟩, ⟨232, 210, 1⟩, ⟨233, 213, 1⟩,
       ⟨234, 245, 1⟩, ⟨235, 352, 2⟩, ⟨237, 218, 1⟩, ⟨238, 376, 1⟩, ⟨239, 255, 1⟩, ⟨240, 222, 1⟩,
       ⟨241, 254, 1⟩, ⟨242, 183, 1⟩, ⟨243, 181, 2⟩, ⟨245, 190, 1⟩, ⟨246, 8212, 1⟩, ⟨247, 188, 2⟩,
       ⟨249, 170, 1⟩, ⟨250, 186, 1⟩, ⟨251, 171, 1⟩, ⟨252, 9632, 1⟩, ⟨253, 187, 1⟩, ⟨254, 177, 1⟩] }

/-- The character set `hz`. -/
def hz : Charset :=
  { names :=
      ["hz", "hz_gb", "hz_gb_2312", "hzgb"]
    runs :=
      [⟨0, 0, 126⟩, ⟨127, 127, 1⟩] }

/-- The character set `iso8859_10`. -/
def iso885910 : Charset :=
  { names :=
      ["csisolatin6", "iso8859_10", "iso_8859_10", "iso_8859_10_1992", "iso_ir_157", "l6",
       "latin6"]
    runs :=
      [⟨0, 0, 161⟩, ⟨161, 260, 1⟩, ⟨162, 274, 1⟩, ⟨163, 290, 1⟩, ⟨164, 298, 1⟩, ⟨165, 296, 1⟩,
       ⟨166, 310, 1⟩, ⟨167, 167, 1⟩, ⟨168, 315, 1⟩, ⟨169, 272, 1⟩, ⟨170, 352, 1⟩, ⟨171, 358, 1⟩,
       ⟨172, 381, 1⟩, ⟨173, 173, 1⟩, ⟨174, 362, 1⟩, ⟨175, 330, 1⟩, ⟨176, 176, 1⟩, ⟨177, 261, 1⟩,
       ⟨178, 275, 1⟩, ⟨179, 291, 1⟩, ⟨180, 299, 1⟩, ⟨181, 297, 1⟩, ⟨182, 311, 1⟩, ⟨183, 183, 1⟩,
       ⟨184, 316, 1⟩, ⟨185, 273, 1⟩, ⟨186, 353, 1⟩, ⟨187, 359, 1⟩, ⟨188, 382, 1⟩, ⟨189, 8213, 1⟩,
       ⟨190, 363, 1⟩, ⟨191, 331, 1⟩, ⟨192, 256, 1⟩, ⟨193, 193, 6⟩, ⟨199, 302, 1⟩, ⟨200, 268, 1⟩,
       ⟨201, 201, 1⟩, ⟨202, 280, 1⟩, ⟨203, 203, 1⟩, ⟨204, 278, 1⟩, ⟨205, 205, 4⟩, ⟨209, 325, 1⟩,
       ⟨210, 332, 1⟩, ⟨211, 211, 4⟩, ⟨215, 360, 1⟩, ⟨216, 216, 1⟩, ⟨217, 370, 1⟩, ⟨218, 218, 6⟩,
       ⟨224, 257, 1⟩, ⟨225, 225, 6⟩, ⟨231, 303, 1⟩, ⟨232, 269, 1⟩, ⟨233, 233, 1⟩, ⟨234, 281, 1⟩,
       ⟨235, 235, 1⟩, ⟨236, 279, 1⟩, ⟨237, 237, 4⟩, ⟨241, 326, 1⟩, ⟨242, 333, 1⟩, ⟨243, 243, 4⟩,
       ⟨247, 361, 1⟩, ⟨248, 248, 1⟩, ⟨249, 371, 1⟩, ⟨250, 250, 5⟩, ⟨255, 312, 1⟩] }

/-- The character set `iso8859_11`. -/
def iso885911 : Charset :=
  { names :=
      ["iso8859_11", "iso_8859_11", "iso_8859_11_2001", "thai"]
    runs :=
      [⟨0, 0, 161⟩, ⟨161, 3585, 58⟩, ⟨223, 3647, 29⟩] }

/-- The character set `iso8859_13`. -/
def iso885913 : Charset :=
  { names :=
      ["iso8859_13", "iso_8859_13", "l7", "latin7"]
    runs :=
      [⟨0, 0, 161⟩, ⟨161, 8221, 1⟩, ⟨162, 162, 3⟩, ⟨165, 8222, 1⟩, ⟨166, 166, 2⟩, ⟨168, 216, 1⟩,
       ⟨169, 169, 1⟩, ⟨170, 342, 1⟩, ⟨171, 171, 4⟩, ⟨175, 198, 1⟩, ⟨176, 176, 4⟩, ⟨180, 8220, 1⟩,
       ⟨181, 181, 3⟩, ⟨184, 248, 1⟩, ⟨185, 185, 1⟩, ⟨186, 343, 1⟩, ⟨187, 187, 4⟩, ⟨191, 230, 1⟩,
       ⟨192, 260, 1⟩, ⟨193, 302, 1⟩, ⟨194, 256, 1⟩, ⟨195, 262, 1⟩, ⟨196, 196, 2⟩, ⟨198, 280, 1⟩,
       ⟨199, 274, 1⟩, ⟨200, 268, 1⟩, ⟨201, 201, 1⟩, ⟨202, 377, 1⟩, ⟨203, 278, 1⟩, ⟨204, 290, 1⟩,
       ⟨205, 310, 1⟩, ⟨206, 298, 1⟩, ⟨207, 315, 1⟩, ⟨208, 352, 1⟩, ⟨209, 323, 1⟩, ⟨210, 325, 1⟩,
       ⟨211, 211, 1⟩, ⟨212, 332, 1⟩, ⟨213, 213, 3⟩, ⟨216, 370, 1⟩, ⟨217, 321, 1⟩, ⟨218, 346, 1⟩,
       ⟨219, 362, 1⟩, ⟨220, 220, 1⟩, ⟨221, 379, 1⟩, ⟨222, 381, 1⟩, ⟨223, 223, 1⟩, ⟨224, 261, 1⟩,
       ⟨225, 303, 1⟩, ⟨226, 257, 1⟩, ⟨227, 263, 1⟩, ⟨228, 228, 2⟩, ⟨230, 281, 1⟩, ⟨231, 275, 1⟩,
       ⟨232, 269, 1⟩, ⟨233, 233, 1⟩, ⟨234, 378, 1⟩, ⟨235, 279, 1⟩, ⟨236, 291, 1⟩, ⟨237, 311, 1⟩,
       ⟨238, 299, 1⟩, ⟨239, 316, 1⟩, ⟨240, 353, 1⟩, ⟨241, 324, 1⟩, ⟨242, 326, 1⟩, ⟨243, 243, 1⟩,
       ⟨244, 333, 1⟩, ⟨245, 245, 3⟩, ⟨248, 371, 1⟩, ⟨249, 322, 1⟩, ⟨250, 347, 1⟩, ⟨251, 363, 1⟩,
       ⟨252, 252, 1⟩, ⟨253, 380, 1⟩, ⟨254, 382, 1⟩, ⟨255, 8217, 1⟩] }

/-- The character set `iso8859_14`. -/
def iso885914 : Charset :=
  { names :=
      ["iso8859_14", "iso_8859_14", "iso_8859_14_1998", "iso_celtic", "iso_ir_199", "l8", "latin8"]
    runs :=
      [⟨0, 0, 161⟩, ⟨161, 7682, 2⟩, ⟨163, 163, 1⟩, ⟨164, 266, 2⟩, ⟨166, 7690, 1⟩, ⟨167, 167, 1⟩,
       ⟨168, 7808, 1⟩, ⟨169, 169, 1⟩, ⟨170, 7810, 1⟩, ⟨171, 7691, 1⟩, ⟨172, 7922, 1⟩,
       ⟨173, 173, 2⟩, ⟨175, 376, 1⟩, ⟨176, 7710, 2⟩, ⟨178, 288, 2⟩, ⟨180, 7744, 2⟩, ⟨182, 182, 1⟩,
       ⟨183, 7766, 1⟩, ⟨184, 7809, 1⟩, ⟨185, 7767, 1⟩, ⟨186, 7811, 1⟩, ⟨187, 7776, 1⟩,
       ⟨188, 7923, 1⟩, ⟨189, 7812, 2⟩, ⟨191, 7777, 1⟩, ⟨192, 192, 16⟩, ⟨208, 372, 1⟩,
       ⟨209, 209, 6⟩, ⟨215, 7786, 1⟩, ⟨216, 216, 6⟩, ⟨222, 374, 1⟩, ⟨223, 223, 17⟩, ⟨240, 373, 1⟩,
       ⟨241, 241, 6⟩, ⟨247, 7787, 1⟩, ⟨248, 248, 6⟩, ⟨254, 375, 1⟩, ⟨255, 255, 1⟩] }

/-- The character set `iso8859_15`. -/
def iso885915 : Charset :=
  { names :=
      ["iso8859_15", "iso_8859_15", "l9", "latin9"]
    runs :=
      [⟨0, 0, 164⟩, ⟨164, 8364, 1⟩, ⟨165, 165, 1⟩, ⟨166, 352, 1⟩, ⟨167, 167, 1⟩, ⟨168, 353, 1⟩,
       ⟨169, 169, 11⟩, ⟨180, 381, 1⟩, ⟨181, 181, 3⟩, ⟨184, 382, 1⟩, ⟨185, 185, 3⟩, ⟨188, 338, 2⟩,
       ⟨190, 376, 1⟩, ⟨191, 191, 65⟩] }

/-- The character set `iso8859_16`. -/
def iso885916 : Charset :=
  { names :=
      ["iso8859_16", "iso_8859_16", "iso_8859_16_2001", "iso_ir_226", "l10", "latin10"]
    runs :=
      [⟨0, 0, 161⟩, ⟨161, 260, 2⟩, ⟨163, 321, 1⟩, ⟨164, 8364, 1⟩, ⟨165, 8222, 1⟩, ⟨166, 352, 1⟩,
       ⟨167, 167, 1⟩, ⟨168, 353, 1⟩, ⟨169, 169, 1⟩, ⟨170, 536, 1⟩, ⟨171, 171, 1⟩, ⟨172, 377, 1⟩,
       ⟨173, 173, 1⟩, ⟨174, 378, 2⟩, ⟨176, 176, 2⟩, ⟨178, 268, 1⟩, ⟨179, 322, 1⟩, ⟨180, 381, 1⟩,
       ⟨181, 8221, 1⟩, ⟨182, 182, 2⟩, ⟨184, 382, 1⟩, ⟨185, 269, 1⟩, ⟨186, 537, 1⟩, ⟨187, 187, 1⟩,
       ⟨188, 338, 2⟩, ⟨190, 376, 1⟩, ⟨191, 380, 1⟩, ⟨192, 192, 3⟩, ⟨195, 258, 1⟩, ⟨196, 196, 1⟩,
       ⟨197, 262, 1⟩, ⟨198, 198, 10⟩, ⟨208, 272, 1⟩, ⟨209, 323, 1⟩, ⟨210, 210, 3⟩, ⟨213, 336, 1⟩,
       ⟨214, 214, 1⟩, ⟨215, 346, 1⟩, ⟨216, 368, 1⟩, ⟨217, 217, 4⟩, ⟨221, 280, 1⟩, ⟨222, 538, 1⟩,
       ⟨223, 223, 4⟩, ⟨227, 259, 1⟩, ⟨228, 228, 1⟩, ⟨229, 263, 1⟩, ⟨230, 230, 10⟩, ⟨240, 273, 1⟩,
       ⟨241, 324, 1⟩, ⟨242, 242, 3⟩, ⟨245, 337, 1⟩, ⟨246, 246, 1⟩, ⟨247, 347, 1⟩, ⟨248, 369, 1⟩,
       ⟨249, 249, 4⟩, ⟨253, 281, 1⟩, ⟨254, 539, 1⟩, ⟨255, 255, 1⟩] }

/-- The character set `iso8859_2`. -/
def iso88592 : Charset :=
  { names :=
      ["csisolatin2", "iso8859_2", "iso_8859_2", "iso_8859_2_1987", "iso_ir_101", "l2", "latin2"]
    runs :=
      [⟨0, 0, 161⟩, ⟨161, 260, 1⟩, ⟨162, 728, 1⟩, ⟨163, 321, 1⟩, ⟨164, 164, 1⟩, ⟨165, 317, 1⟩,
       ⟨166, 346, 1⟩, ⟨167, 167, 2⟩, ⟨169, 352, 1⟩, ⟨170, 350, 1⟩, ⟨171, 356, 1⟩, ⟨172, 377, 1⟩,
       ⟨173, 173, 1⟩, ⟨174, 381, 1⟩, ⟨175, 379, 1⟩, ⟨176, 176, 1⟩, ⟨177, 261, 1⟩, ⟨178, 731, 1⟩,
       ⟨179, 322, 1⟩, ⟨180, 180, 1⟩, ⟨181, 318, 1⟩, ⟨182, 347, 1⟩, ⟨183, 711, 1⟩, ⟨184, 184, 1⟩,
       ⟨185, 353, 1⟩, ⟨186, 351, 1⟩, ⟨187, 357, 1⟩, ⟨188, 378, 1⟩, ⟨189, 733, 1⟩, ⟨190, 382, 1⟩,
       ⟨191, 380, 1⟩, ⟨192, 340, 1⟩, ⟨193, 193, 2⟩, ⟨195, 258, 1⟩, ⟨196, 196, 1⟩, ⟨197, 313, 1⟩,
       ⟨198, 262, 1⟩, ⟨199, 199, 1⟩, ⟨200, 268, 1⟩, ⟨201, 201, 1⟩, ⟨202, 280, 1⟩, ⟨203, 203, 1⟩,
       ⟨204, 282, 1⟩, ⟨205, 205, 2⟩, ⟨207, 270, 1⟩, ⟨208, 272, 1⟩, ⟨209, 323, 1⟩, ⟨210, 327, 1⟩,
       ⟨211, 211, 2⟩, ⟨213, 336, 1⟩, ⟨214, 214, 2⟩, ⟨216, 344, 1⟩, ⟨217, 366, 1⟩, ⟨218, 218, 1⟩,
       ⟨219, 368, 1⟩, ⟨220, 220, 2⟩, ⟨222, 354, 1⟩, ⟨223, 223, 1⟩, ⟨224, 341, 1⟩, ⟨225, 225, 2⟩,
       ⟨227, 259, 1⟩, ⟨228, 228, 1⟩, ⟨229, 314, 1⟩, ⟨230, 263, 1⟩, ⟨231, 231, 1⟩, ⟨232, 269, 1⟩,
       ⟨233, 233, 1⟩, ⟨234, 281, 1⟩, ⟨235, 235, 1⟩, ⟨236, 283, 1⟩, ⟨237, 237, 2⟩, ⟨239, 271, 1⟩,
       ⟨240, 273, 1⟩, ⟨241, 324, 1⟩, ⟨242, 328, 1⟩, ⟨243, 243, 2⟩, ⟨245, 337, 1⟩, ⟨246, 246, 2⟩,
       ⟨248, 345, 1⟩, ⟨249, 367, 1⟩, ⟨250, 250, 1⟩, ⟨251, 369, 1⟩, ⟨252, 252, 2⟩, ⟨254, 355, 1⟩,
       ⟨255, 729, 1⟩] }

/-- The character set `iso8859_3`. -/
def iso88593 : Charset :=
  { names :=
      ["csisolatin3", "iso8859_3", "iso_8859_3", "iso_8859_3_1988", "iso_ir_109", "l3", "latin3"]
    runs :=
      [⟨0, 0, 161⟩, ⟨161, 294, 1⟩, ⟨162, 728, 1⟩, ⟨163, 163, 2⟩, ⟨166, 292, 1⟩, ⟨167, 167, 2⟩,
       ⟨169, 304, 1⟩, ⟨170, 350, 1⟩, ⟨171, 286, 1⟩, ⟨172, 308, 1⟩, ⟨173, 173, 1⟩, ⟨175, 379, 1⟩,
       ⟨176, 176, 1⟩, ⟨177, 295, 1⟩, ⟨178, 178, 4⟩, ⟨182, 293, 1⟩, ⟨183, 183, 2⟩, ⟨185, 305, 1⟩,
       ⟨186, 351, 1⟩, ⟨187, 287, 1⟩, ⟨188, 309, 1⟩, ⟨189, 189, 1⟩, ⟨191, 380, 1⟩, ⟨192, 192, 3⟩,
       ⟨196, 196, 1⟩, ⟨197, 266, 1⟩, ⟨198, 264, 1⟩, ⟨199, 199, 9⟩, ⟨209, 209, 4⟩, ⟨213, 288, 1⟩,
       ⟨214, 214, 2⟩, ⟨216, 284, 1⟩, ⟨217, 217, 4⟩, ⟨221, 364, 1⟩, ⟨222, 348, 1⟩, ⟨223, 223, 4⟩,
       ⟨228, 228, 1⟩, ⟨229, 267, 1⟩, ⟨230, 265, 1⟩, ⟨231, 231, 9⟩, ⟨241, 241, 4⟩, ⟨245, 289, 1⟩,
       ⟨246, 246, 2⟩, ⟨248, 285, 1⟩, ⟨249, 249, 4⟩, ⟨253, 365, 1⟩, ⟨254, 349, 1⟩, ⟨255, 729, 1⟩] }

/-- The character set `iso8859_4`. -/
def iso88594 : Charset :=
  { names :=
      ["csisolatin4", "iso8859_4", "iso_8859_4", "iso_8859_4_1988", "iso_ir_110", "l4", "latin4"]
    runs :=
      [⟨0, 0, 161⟩, ⟨161, 260, 1⟩, ⟨162, 312, 1⟩, ⟨163, 342, 1⟩, ⟨164, 164, 1⟩, ⟨165, 296, 1⟩,
       ⟨166, 315, 1⟩, ⟨167, 167, 2⟩, ⟨169, 352, 1⟩, ⟨170, 274, 1⟩, ⟨171, 290, 1⟩, ⟨172, 358, 1⟩,
       ⟨173, 173, 1⟩, ⟨174, 381, 1⟩, ⟨175, 175, 2⟩, ⟨177, 261, 1⟩, ⟨178, 731, 1⟩, ⟨179, 343, 1⟩,
       ⟨180, 180, 1⟩, ⟨181, 297, 1⟩, ⟨182, 316, 1⟩, ⟨183, 711, 1⟩, ⟨184, 184, 1⟩, ⟨185, 353, 1⟩,
       ⟨186, 275, 1⟩, ⟨187, 291, 1⟩, ⟨188, 359, 1⟩, ⟨189, 330, 1⟩, ⟨190, 382, 1⟩, ⟨191, 331, 1⟩,
       ⟨192, 256, 1⟩, ⟨193, 193, 6⟩, ⟨199, 302, 1⟩, ⟨200, 268, 1⟩, ⟨201, 201, 1⟩, ⟨202, 280, 1⟩,
       ⟨203, 203, 1⟩, ⟨204, 278, 1⟩, ⟨205, 205, 2⟩, ⟨207, 298, 1⟩, ⟨208, 272, 1⟩, ⟨209, 325, 1⟩,
       ⟨210, 332, 1⟩, ⟨211, 310, 1⟩, ⟨212, 212, 5⟩, ⟨217, 370, 1⟩, ⟨218, 218, 3⟩, ⟨221, 360, 1⟩,
       ⟨222, 362, 1⟩, ⟨223, 223, 1⟩, ⟨224, 257, 1⟩, ⟨225, 225, 6⟩, ⟨231, 303, 1⟩, ⟨232, 269, 1⟩,
       ⟨233, 233, 1⟩, ⟨234, 281, 1⟩, ⟨235, 235, 1⟩, ⟨236, 279, 1⟩, ⟨237, 237, 2⟩, ⟨239, 299, 1⟩,
       ⟨240, 273, 1⟩, ⟨241, 326, 1⟩, ⟨242, 333, 1⟩, ⟨243, 311, 1⟩, ⟨244, 244, 5⟩, ⟨249, 371, 1⟩,
       ⟨250, 250, 3⟩, ⟨253, 361, 1⟩, ⟨254, 363, 1⟩, ⟨255, 729, 1⟩] }

/-- The character set `iso8859_5`. -/
def iso88595 : Charset :=
  { names :=
      ["csisolatincyrillic", "cyrillic", "iso8859_5", "iso_8859_5", "iso_8859_5_1988",
       "iso_ir_144"]
    runs :=
      [⟨0, 0, 161⟩, ⟨161, 1025, 12⟩, ⟨173, 173, 1⟩, ⟨174, 1038, 66⟩, ⟨240, 8470, 1⟩,
       ⟨241, 1105, 12⟩, ⟨253, 167, 1⟩, ⟨254, 1118, 2⟩] }

/-- The character set `iso8859_6`. -/
def iso88596 : Charset :=
  { names :=
      ["arabic", "asmo_708", "csisolatinarabic", "ecma_114", "iso8859_6", "iso_8859_6",
       "iso_8859_6_1987", "iso_ir_127"]
    runs :=
      [⟨0, 0, 161⟩, ⟨164, 164, 1⟩, ⟨172, 1548, 1⟩, ⟨173, 173, 1⟩, ⟨187, 1563, 1⟩, ⟨191, 1567, 1⟩,
       ⟨193, 1569, 26⟩, ⟨224, 1600, 19⟩] }

/-- The character set `iso8859_7`. -/
def iso88597 : Charset :=
  { names :=
      ["csisolatingreek", "ecma_118", "elot_928", "greek", "greek8", "iso8859_7", "iso_8859_7",
       "iso_8859_7_1987", "iso_ir_126"]
    runs :=
      [⟨0, 0, 161⟩, ⟨161, 8216, 2⟩, ⟨163, 163, 1⟩, ⟨164, 8364, 1⟩, ⟨165, 8367, 1⟩, ⟨166, 166, 4⟩,
       ⟨170, 890, 1⟩, ⟨171, 171, 3⟩, ⟨175, 8213, 1⟩, ⟨176, 176, 4⟩, ⟨180, 900, 3⟩, ⟨183, 183, 1⟩,
       ⟨184, 904, 3⟩, ⟨187, 187, 1⟩, ⟨188, 908, 1⟩, ⟨189, 189, 1⟩, ⟨190, 910, 20⟩, ⟨211, 931, 44⟩] }

/-- The character set `iso8859_8`. -/
def iso88598 : Charset :=
  { names :=
      ["csisolatinhebrew", "hebrew", "iso8859_8", "iso_8859_8", "iso_8859_8_1988", "iso_ir_138"]
    runs :=
      [⟨0, 0, 161⟩, ⟨162, 162, 8⟩, ⟨170, 215, 1⟩, ⟨171, 171, 15⟩, ⟨186, 247, 1⟩, ⟨187, 187, 4⟩,
       ⟨223, 8215, 1⟩, ⟨224, 1488, 27⟩, ⟨253, 8206, 2⟩] }

/-- The character set `iso8859_9`. -/
def iso88599 : Charset :=
  { names :=
      ["csisolatin5", "iso8859_9", "iso_8859_9", "iso_8859_9_1989", "iso_ir_148", "l5", "latin5"]
    runs :=
      [⟨0, 0, 208⟩, ⟨208, 286, 1⟩, ⟨209, 209, 12⟩, ⟨221, 304, 1⟩, ⟨222, 350, 1⟩, ⟨223, 223, 17⟩,
       ⟨240, 287, 1⟩, ⟨241, 241, 12⟩, ⟨253, 305, 1⟩, ⟨254, 351, 1⟩, ⟨255, 255, 1⟩] }

/-- The character set `koi8_r`. -/
def koi8R : Charset :=
  { names :=
      ["cskoi8r", "koi8_r"]
    runs :=
      [⟨0, 0, 128⟩, ⟨128, 9472, 1⟩, ⟨129, 9474, 1⟩, ⟨130, 9484, 1⟩, ⟨131, 9488, 1⟩,
       ⟨132, 9492, 1⟩, ⟨133, 9496, 1⟩, ⟨134, 9500, 1⟩, ⟨135, 9508, 1⟩, ⟨136, 9516, 1⟩,
       ⟨137, 9524, 1⟩, ⟨138, 9532, 1⟩, ⟨139, 9600, 1⟩, ⟨140, 9604, 1⟩, ⟨141, 9608, 1⟩,
       ⟨142, 9612, 1⟩, ⟨143, 9616, 4⟩, ⟨147, 8992, 1⟩, ⟨148, 9632, 1⟩, ⟨149, 8729, 2⟩,
       ⟨151, 8776, 1⟩, ⟨152, 8804, 2⟩, ⟨154, 160, 1⟩, ⟨155, 8993, 1⟩, ⟨156, 176, 1⟩,
       ⟨157, 178, 1⟩, ⟨158, 183, 1⟩, ⟨159, 247, 1⟩, ⟨160, 9552, 3⟩, ⟨163, 1105, 1⟩,
       ⟨164, 9555, 15⟩, ⟨179, 1025, 1⟩, ⟨180, 9570, 11⟩, ⟨191, 169, 1⟩, ⟨192, 1102, 1⟩,
       ⟨193, 1072, 2⟩, ⟨195, 1094, 1⟩, ⟨196, 1076, 2⟩, ⟨198, 1092, 1⟩, ⟨199, 1075, 1⟩,
       ⟨200, 1093, 1⟩, ⟨201, 1080, 8⟩, ⟨209, 1103, 1⟩, ⟨210, 1088, 4⟩, ⟨214, 1078, 1⟩,
       ⟨215, 1074, 1⟩, ⟨216, 1100, 1⟩, ⟨217, 1099, 1⟩, ⟨218, 1079, 1⟩, ⟨219, 1096, 1⟩,
       ⟨220, 1101, 1⟩, ⟨221, 1097, 1⟩, ⟨222, 1095, 1⟩, ⟨223, 1098, 1⟩, ⟨224, 1070, 1⟩,
       ⟨225, 1040, 2⟩, ⟨227, 1062, 1⟩, ⟨228, 1044, 2⟩, ⟨230, 1060, 1⟩, ⟨231, 1043, 1⟩,
       ⟨232, 1061, 1⟩, ⟨233, 1048, 8⟩, ⟨241, 1071, 1⟩, ⟨242, 1056, 4⟩, ⟨246, 1046, 1⟩,
       ⟨247, 1042, 1⟩, ⟨248, 1068, 1⟩, ⟨249, 1067, 1⟩, ⟨250, 1047, 1⟩, ⟨251, 1064, 1⟩,
       ⟨252, 1069, 1⟩, ⟨253, 1065, 1⟩, ⟨254, 1063, 1⟩, ⟨255, 1066, 1⟩] }

/-- The character set `koi8_t`. -/
def koi8T : Charset :=
  { names :=
      ["koi8_t"]
    runs :=
      [⟨0, 0, 128⟩, ⟨128, 1179, 1⟩, ⟨129, 1171, 1⟩, ⟨130, 8218, 1⟩, ⟨131, 1170, 1⟩, ⟨132, 8222, 1⟩,
       ⟨133, 8230, 1⟩, ⟨134, 8224, 2⟩, ⟨137, 8240, 1⟩, ⟨138, 1203, 1⟩, ⟨139, 8249, 1⟩,
       ⟨140, 1202, 1⟩, ⟨141, 1207, 1⟩, ⟨142, 1206, 1⟩, ⟨144, 1178, 1⟩, ⟨145, 8216, 2⟩,
       ⟨147, 8220, 2⟩, ⟨149, 8226, 1⟩, ⟨150, 8211, 2⟩, ⟨153, 8482, 1⟩, ⟨155, 8250, 1⟩,
       ⟨161, 1263, 1⟩, ⟨162, 1262, 1⟩, ⟨163, 1105, 1⟩, ⟨164, 164, 1⟩, ⟨165, 1251, 1⟩, ⟨166, 166, 2⟩,
       ⟨171, 171, 4⟩, ⟨176, 176, 3⟩, ⟨179, 1025, 1⟩, ⟨181, 1250, 1⟩, ⟨182, 182, 2⟩, ⟨185, 8470, 1⟩,
       ⟨187, 187, 1⟩, ⟨191, 169, 1⟩, ⟨192, 1102, 1⟩, ⟨193, 1072, 2⟩, ⟨195, 1094, 1⟩, ⟨196, 1076, 2⟩,
       ⟨198, 1092, 1⟩, ⟨199, 1075, 1⟩, ⟨200, 1093, 1⟩, ⟨201, 1080, 8⟩, ⟨209, 1103, 1⟩,
       ⟨210, 1088, 4⟩, ⟨214, 1078, 1⟩, ⟨215, 1074, 1⟩, ⟨216, 1100, 1⟩, ⟨217, 1099, 1⟩,
       ⟨218, 1079, 1⟩, ⟨219, 1096, 1⟩, ⟨220, 1101, 1⟩, ⟨221, 1097, 1⟩, ⟨222, 1095, 1⟩,
       ⟨223, 1098, 1⟩, ⟨224, 1070, 1⟩, ⟨225, 1040, 2⟩, ⟨227, 1062, 1⟩, ⟨228, 1044, 2⟩,
       ⟨230, 1060, 1⟩, ⟨231, 1043, 1⟩, ⟨232, 1061, 1⟩, ⟨233, 1048, 8⟩, ⟨241, 1071, 1⟩,
       ⟨242, 1056, 4⟩, ⟨246, 1046, 1⟩, ⟨247, 1042, 1⟩, ⟨248, 1068, 1⟩, ⟨249, 1067, 1⟩,
       ⟨250, 1047, 1⟩, ⟨251, 1064, 1⟩, ⟨252, 1069, 1⟩, ⟨253, 1065, 1⟩, ⟨254, 1063, 1⟩,
       ⟨255, 1066, 1⟩] }

/-- The character set `koi8_u`. -/
def koi8U : Charset :=
  { names :=
      ["koi8_u"]
    runs :=
      [⟨0, 0, 128⟩, ⟨128, 9472, 1⟩, ⟨129, 9474, 1⟩, ⟨130, 9484, 1⟩, ⟨131, 9488, 1⟩,
       ⟨132, 9492, 1⟩, ⟨133, 9496, 1⟩, ⟨134, 9500, 1⟩, ⟨135, 9508, 1⟩, ⟨136, 9516, 1⟩,
       ⟨137, 9524, 1⟩, ⟨138, 9532, 1⟩, ⟨139, 9600, 1⟩, ⟨140, 9604, 1⟩, ⟨141, 9608, 1⟩,
       ⟨142, 9612, 1⟩, ⟨143, 9616, 4⟩, ⟨147, 8992, 1⟩, ⟨148, 9632, 1⟩, ⟨149, 8729, 2⟩,
       ⟨151, 8776, 1⟩, ⟨152, 8804, 2⟩, ⟨154, 160, 1⟩, ⟨155, 8993, 1⟩, ⟨156, 176, 1⟩,
       ⟨157, 178, 1⟩, ⟨158, 183, 1⟩, ⟨159, 247, 1⟩, ⟨160, 9552, 3⟩, ⟨163, 1105, 1⟩,
       ⟨164, 1108, 1⟩, ⟨165, 9556, 1⟩, ⟨166, 1110, 2⟩, ⟨168, 9559, 5⟩, ⟨173, 1169, 1⟩,
       ⟨174, 9565, 5⟩, ⟨179, 1025, 1⟩, ⟨180, 1028, 1⟩, ⟨181, 9571, 1⟩, ⟨182, 1030, 2⟩,
       ⟨184, 9574, 5⟩, ⟨189, 1168, 1⟩, ⟨190, 9580, 1⟩, ⟨191, 169, 1⟩, ⟨192, 1102, 1⟩,
       ⟨193, 1072, 2⟩, ⟨195, 1094, 1⟩, ⟨196, 1076, 2⟩, ⟨198, 1092, 1⟩, ⟨199, 1075, 1⟩,
       ⟨200, 1093, 1⟩, ⟨201, 1080, 8⟩, ⟨209, 1103, 1⟩, ⟨210, 1088, 4⟩, ⟨214, 1078, 1⟩,
       ⟨215, 1074, 1⟩, ⟨216, 1100, 1⟩, ⟨217, 1099, 1⟩, ⟨218, 1079, 1⟩, ⟨219, 1096, 1⟩,
       ⟨220, 1101, 1⟩, ⟨221, 1097, 1⟩, ⟨222, 1095, 1⟩, ⟨223, 1098, 1⟩, ⟨224, 1070, 1⟩,
       ⟨225, 1040, 2⟩, ⟨227, 1062, 1⟩, ⟨228, 1044, 2⟩, ⟨230, 1060, 1⟩, ⟨231, 1043, 1⟩,
       ⟨232, 1061, 1⟩, ⟨233, 1048, 8⟩, ⟨241, 1071, 1⟩, ⟨242, 1056, 4⟩, ⟨246, 1046, 1⟩,
       ⟨247, 1042, 1⟩, ⟨248, 1068, 1⟩, ⟨249, 1067, 1⟩, ⟨250, 1047, 1⟩, ⟨251, 1064, 1⟩,
       ⟨252, 1069, 1⟩, ⟨253, 1065, 1⟩, ⟨254, 1063, 1⟩, ⟨255, 1066, 1⟩] }

/-- The character set `kz1048`. -/
def kz1048 : Charset :=
  { names :=
      ["kz1048", "kz_1048", "rk1048", "strk1048_2002"]
    runs :=
      [⟨0, 0, 128⟩, ⟨128, 1026, 2⟩, ⟨130, 8218, 1⟩, ⟨131, 1107, 1⟩, ⟨132, 8222, 1⟩, ⟨133, 8230, 1⟩,
       ⟨134, 8224, 2⟩, ⟨136, 8364, 1⟩, ⟨137, 8240, 1⟩, ⟨138, 1033, 1⟩, ⟨139, 8249, 1⟩,
       ⟨140, 1034, 1⟩, ⟨141, 1178, 1⟩, ⟨142, 1210, 1⟩, ⟨143, 1039, 1⟩, ⟨144, 1106, 1⟩,
       ⟨145, 8216, 2⟩, ⟨147, 8220, 2⟩, ⟨149, 8226, 1⟩, ⟨150, 8211, 2⟩, ⟨153, 8482, 1⟩,
       ⟨154, 1113, 1⟩, ⟨155, 8250, 1⟩, ⟨156, 1114, 1⟩, ⟨157, 1179, 1⟩, ⟨158, 1211, 1⟩,
       ⟨159, 1119, 1⟩, ⟨160, 160, 1⟩, ⟨161, 1200, 2⟩, ⟨163, 1240, 1⟩, ⟨164, 164, 1⟩, ⟨165, 1256, 1⟩,
       ⟨166, 166, 2⟩, ⟨168, 1025, 1⟩, ⟨169, 169, 1⟩, ⟨170, 1170, 1⟩, ⟨171, 171, 4⟩, ⟨175, 1198, 1⟩,
       ⟨176, 176, 2⟩, ⟨178, 1030, 1⟩, ⟨179, 1110, 1⟩, ⟨180, 1257, 1⟩, ⟨181, 181, 3⟩, ⟨184, 1105, 1⟩,
       ⟨185, 8470, 1⟩, ⟨186, 1171, 1⟩, ⟨187, 187, 1⟩, ⟨188, 1241, 1⟩, ⟨189, 1186, 2⟩,
       ⟨191, 1199, 1⟩, ⟨192, 1040, 64⟩] }

/-- The character set `mac_croatian`. -/
def macCroatian : Charset :=
  { names :=
      ["mac_croatian"]
    runs :=
      [⟨0, 0, 128⟩, ⟨128, 196, 2⟩, ⟨130, 199, 1⟩, ⟨131, 201, 1⟩, ⟨132, 209, 1⟩, ⟨133, 214, 1⟩,
       ⟨134, 220, 1⟩, ⟨135, 225, 1⟩, ⟨136, 224, 1⟩, ⟨137, 226, 1⟩, ⟨138, 228, 1⟩, ⟨139, 227, 1⟩,
       ⟨140, 229, 1⟩, ⟨141, 231, 1⟩, ⟨142, 233, 1⟩, ⟨143, 232, 1⟩, ⟨144, 234, 2⟩, ⟨146, 237, 1⟩,
       ⟨147, 236, 1⟩, ⟨148, 238, 2⟩, ⟨150, 241, 1⟩, ⟨151, 243, 1⟩, ⟨152, 242, 1⟩, ⟨153, 244, 1⟩,
       ⟨154, 246, 1⟩, ⟨155, 245, 1⟩, ⟨156, 250, 1⟩, ⟨157, 249, 1⟩, ⟨158, 251, 2⟩, ⟨160, 8224, 1⟩,
       ⟨161, 176, 1⟩, ⟨162, 162, 2⟩, ⟨164, 167, 1⟩, ⟨165, 8226, 1⟩, ⟨166, 182, 1⟩, ⟨167, 223, 1⟩,
       ⟨168, 174, 1⟩, ⟨169, 352, 1⟩, ⟨170, 8482, 1⟩, ⟨171, 180, 1⟩, ⟨172, 168, 1⟩, ⟨173, 8800, 1⟩,
       ⟨174, 381, 1⟩, ⟨175, 216, 1⟩, ⟨176, 8734, 1⟩, ⟨177, 177, 1⟩, ⟨178, 8804, 2⟩, ⟨180, 8710, 1⟩,
       ⟨181, 181, 1⟩, ⟨182, 8706, 1⟩, ⟨183, 8721, 1⟩, ⟨184, 8719, 1⟩, ⟨185, 353, 1⟩, ⟨186, 8747, 1⟩,
       ⟨187, 170, 1⟩, ⟨188, 186, 1⟩, ⟨189, 937, 1⟩, ⟨190, 382, 1⟩, ⟨191, 248, 1⟩, ⟨192, 191, 1⟩,
       ⟨193, 161, 1⟩, ⟨194, 172, 1⟩, ⟨195, 8730, 1⟩, ⟨196, 402, 1⟩, ⟨197, 8776, 1⟩, ⟨198, 262, 1⟩,
       ⟨199, 171, 1⟩, ⟨200, 268, 1⟩, ⟨201, 8230, 1⟩, ⟨202, 160, 1⟩, ⟨203, 192, 1⟩, ⟨204, 195, 1⟩,
       ⟨205, 213, 1⟩, ⟨206, 338, 2⟩, ⟨208, 272, 1⟩, ⟨209, 8212, 1⟩, ⟨210, 8220, 2⟩, ⟨212, 8216, 2⟩,
       ⟨214, 247, 1⟩, ⟨215, 9674, 1⟩, ⟨216, 63743, 1⟩, ⟨217, 169, 1⟩, ⟨218, 8260, 1⟩,
       ⟨219, 8364, 1⟩, ⟨220, 8249, 2⟩, ⟨222, 198, 1⟩, ⟨223, 187, 1⟩, ⟨224, 8211, 1⟩, ⟨225, 183, 1⟩,
       ⟨226, 8218, 1⟩, ⟨227, 8222, 1⟩, ⟨228, 8240, 1⟩, ⟨229, 194, 1⟩, ⟨230, 263, 1⟩, ⟨231, 193, 1⟩,
       ⟨232, 269, 1⟩, ⟨233, 200, 1⟩, ⟨234, 205, 3⟩, ⟨237, 204, 1⟩, ⟨238, 211, 2⟩, ⟨240, 273, 1⟩,
       ⟨241, 210, 1⟩, ⟨242, 218, 2⟩, ⟨244, 217, 1⟩, ⟨245, 305, 1⟩, ⟨246, 710, 1⟩, ⟨247, 732, 1⟩,
       ⟨248, 175, 1⟩, ⟨249, 960, 1⟩, ⟨250, 203, 1⟩, ⟨251, 730, 1⟩, ⟨252, 184, 1⟩, ⟨253, 202, 1⟩,
       ⟨254, 230, 1⟩, ⟨255, 711, 1⟩] }

/-- The character set `mac_cyrillic`. -/
def macCyrillic : Charset :=
  { names :=
      ["mac_cyrillic", "maccyrillic"]
    runs :=
      [⟨0, 0, 128⟩, ⟨128, 1040, 32⟩, ⟨160, 8224, 1⟩, ⟨161, 176, 1⟩, ⟨162, 1168, 1⟩, ⟨163, 163, 1⟩,
       ⟨164, 167, 1⟩, ⟨165, 8226, 1⟩, ⟨166, 182, 1⟩, ⟨167, 1030, 1⟩, ⟨168, 174, 1⟩, ⟨169, 169, 1⟩,
       ⟨170, 8482, 1⟩, ⟨171, 1026, 1⟩, ⟨172, 1106, 1⟩, ⟨173, 8800, 1⟩, ⟨174, 1027, 1⟩,
       ⟨175, 1107, 1⟩, ⟨176, 8734, 1⟩, ⟨177, 177, 1⟩, ⟨178, 8804, 2⟩, ⟨180, 1110, 1⟩,
       ⟨181, 181, 1⟩, ⟨182, 1169, 1⟩, ⟨183, 1032, 1⟩, ⟨184, 1028, 1⟩, ⟨185, 1108, 1⟩,
       ⟨186, 1031, 1⟩, ⟨187, 1111, 1⟩, ⟨188, 1033, 1⟩, ⟨189, 1113, 1⟩, ⟨190, 1034, 1⟩,
       ⟨191, 1114, 1⟩, ⟨192, 1112, 1⟩, ⟨193, 1029, 1⟩, ⟨194, 172, 1⟩, ⟨195, 8730, 1⟩,
       ⟨196, 402, 1⟩, ⟨197, 8776, 1⟩, ⟨198, 8710, 1⟩, ⟨199, 171, 1⟩, ⟨200, 187, 1⟩,
       ⟨201, 8230, 1⟩, ⟨202, 160, 1⟩, ⟨203, 1035, 1⟩, ⟨204, 1115, 1⟩, ⟨205, 1036, 1⟩,
       ⟨206, 1116, 1⟩, ⟨207, 1109, 1⟩, ⟨208, 8211, 2⟩, ⟨210, 8220, 2⟩, ⟨212, 8216, 2⟩,
       ⟨214, 247, 1⟩, ⟨215, 8222, 1⟩, ⟨216, 1038, 1⟩, ⟨217, 1118, 1⟩, ⟨218, 1039, 1⟩,
       ⟨219, 1119, 1⟩, ⟨220, 8470, 1⟩, ⟨221, 1025, 1⟩, ⟨222, 1105, 1⟩, ⟨223, 1103, 1⟩,
       ⟨224, 1072, 31⟩, ⟨255, 8364, 1⟩] }

/-- The character set `mac_greek`. -/
def macGreek : Charset :=
  { names :=
      ["mac_greek", "macgreek"]
    runs :=
      [⟨0, 0, 128⟩, ⟨128, 196, 1⟩, ⟨129, 185, 1⟩, ⟨130, 178, 1⟩, ⟨131, 201, 1⟩, ⟨132, 179, 1⟩,
       ⟨133, 214, 1⟩, ⟨134, 220, 1⟩, ⟨135, 901, 1⟩, ⟨136, 224, 1⟩, ⟨137, 226, 1⟩, ⟨138, 228, 1⟩,
       ⟨139, 900, 1⟩, ⟨140, 168, 1⟩, ⟨141, 231, 1⟩, ⟨142, 233, 1⟩, ⟨143, 232, 1⟩, ⟨144, 234, 2⟩,
       ⟨146, 163, 1⟩, ⟨147, 8482, 1⟩, ⟨148, 238, 2⟩, ⟨150, 8226, 1⟩, ⟨151, 189, 1⟩, ⟨152, 8240, 1⟩,
       ⟨153, 244, 1⟩, ⟨154, 246, 1⟩, ⟨155, 166, 1⟩, ⟨156, 8364, 1⟩, ⟨157, 249, 1⟩, ⟨158, 251, 2⟩,
       ⟨160, 8224, 1⟩, ⟨161, 915, 2⟩, ⟨163, 920, 1⟩, ⟨164, 923, 1⟩, ⟨165, 926, 1⟩, ⟨166, 928, 1⟩,
       ⟨167, 223, 1⟩, ⟨168, 174, 1⟩, ⟨169, 169, 1⟩, ⟨170, 931, 1⟩, ⟨171, 938, 1⟩, ⟨172, 167, 1⟩,
       ⟨173, 8800, 1⟩, ⟨174, 176, 1⟩, ⟨175, 183, 1⟩, ⟨176, 913, 1⟩, ⟨177, 177, 1⟩, ⟨178, 8804, 2⟩,
       ⟨180, 165, 1⟩, ⟨181, 914, 1⟩, ⟨182, 917, 3⟩, ⟨185, 921, 2⟩, ⟨187, 924, 1⟩, ⟨188, 934, 1⟩,
       ⟨189, 939, 1⟩, ⟨190, 936, 2⟩, ⟨192, 940, 1⟩, ⟨193, 925, 1⟩, ⟨194, 172, 1⟩, ⟨195, 927, 1⟩,
       ⟨196, 929, 1⟩, ⟨197, 8776, 1⟩, ⟨198, 932, 1⟩, ⟨199, 171, 1⟩, ⟨200, 187, 1⟩, ⟨201, 8230, 1⟩,
       ⟨202, 160, 1⟩, ⟨203, 933, 1⟩, ⟨204, 935, 1⟩, ⟨205, 902, 1⟩, ⟨206, 904, 1⟩, ⟨207, 339, 1⟩,
       ⟨208, 8211, 1⟩, ⟨209, 8213, 1⟩, ⟨210, 8220, 2⟩, ⟨212, 8216, 2⟩, ⟨214, 247, 1⟩, ⟨215, 905, 2⟩,
       ⟨217, 908, 1⟩, ⟨218, 910, 1⟩, ⟨219, 941, 3⟩, ⟨222, 972, 1⟩, ⟨223, 911, 1⟩, ⟨224, 973, 1⟩,
       ⟨225, 945, 2⟩, ⟨227, 968, 1⟩, ⟨228, 948, 2⟩, ⟨230, 966, 1⟩, ⟨231, 947, 1⟩, ⟨232, 951, 1⟩,
       ⟨233, 953, 1⟩, ⟨234, 958, 1⟩, ⟨235, 954, 4⟩, ⟨239, 959, 2⟩, ⟨241, 974, 1⟩, ⟨242, 961, 1⟩,
       ⟨243, 963, 2⟩, ⟨245, 952, 1⟩, ⟨246, 969, 1⟩, ⟨247, 962, 1⟩, ⟨248, 967, 1⟩, ⟨249, 965, 1⟩,
       ⟨250, 950, 1⟩, ⟨251, 970, 2⟩, ⟨253, 912, 1⟩, ⟨254, 944, 1⟩, ⟨255, 173, 1⟩] }

/-- The character set `mac_iceland`. -/
def macIceland : Charset :=
  { names :=
      ["mac_iceland", "maciceland"]
    runs :=
      [⟨0, 0, 128⟩, ⟨128, 196, 2⟩, ⟨130, 199, 1⟩, ⟨131, 201, 1⟩, ⟨132, 209, 1⟩, ⟨133, 214, 1⟩,
       ⟨134, 220, 1⟩, ⟨135, 225, 1⟩, ⟨136, 224, 1⟩, ⟨137, 226, 1⟩, ⟨138, 228, 1⟩, ⟨139, 227, 1⟩,
       ⟨140, 229, 1⟩, ⟨141, 231, 1⟩, ⟨142, 233, 1⟩, ⟨143, 232, 1⟩, ⟨144, 234, 2⟩, ⟨146, 237, 1⟩,
       ⟨147, 236, 1⟩, ⟨148, 238, 2⟩, ⟨150, 241, 1⟩, ⟨151, 243, 1⟩, ⟨152, 242, 1⟩, ⟨153, 244, 1⟩,
       ⟨154, 246, 1⟩, ⟨155, 245, 1⟩, ⟨156, 250, 1⟩, ⟨157, 249, 1⟩, ⟨158, 251, 2⟩, ⟨160, 221, 1⟩,
       ⟨161, 176, 1⟩, ⟨162, 162, 2⟩, ⟨164, 167, 1⟩, ⟨165, 8226, 1⟩, ⟨166, 182, 1⟩, ⟨167, 223, 1⟩,
       ⟨168, 174, 1⟩, ⟨169, 169, 1⟩, ⟨170, 8482, 1⟩, ⟨171, 180, 1⟩, ⟨172, 168, 1⟩, ⟨173, 8800, 1⟩,
       ⟨174, 198, 1⟩, ⟨175, 216, 1⟩, ⟨176, 8734, 1⟩, ⟨177, 177, 1⟩, ⟨178, 8804, 2⟩, ⟨180, 165, 1⟩,
       ⟨181, 181, 1⟩, ⟨182, 8706, 1⟩, ⟨183, 8721, 1⟩, ⟨184, 8719, 1⟩, ⟨185, 960, 1⟩, ⟨186, 8747, 1⟩,
       ⟨187, 170, 1⟩, ⟨188, 186, 1⟩, ⟨189, 937, 1⟩, ⟨190, 230, 1⟩, ⟨191, 248, 1⟩, ⟨192, 191, 1⟩,
       ⟨193, 161, 1⟩, ⟨194, 172, 1⟩, ⟨195, 8730, 1⟩, ⟨196, 402, 1⟩, ⟨197, 8776, 1⟩, ⟨198, 8710, 1⟩,
       ⟨199, 171, 1⟩, ⟨200, 187, 1⟩, ⟨201, 8230, 1⟩, ⟨202, 160, 1⟩, ⟨203, 192, 1⟩, ⟨204, 195, 1⟩,
       ⟨205, 213, 1⟩, ⟨206, 338, 2⟩, ⟨208, 8211, 2⟩, ⟨210, 8220, 2⟩, ⟨212, 8216, 2⟩, ⟨214, 247, 1⟩,
       ⟨215, 9674, 1⟩, ⟨216, 255, 1⟩, ⟨217, 376, 1⟩, ⟨218, 8260, 1⟩, ⟨219, 8364, 1⟩, ⟨220, 208, 1⟩,
       ⟨221, 240, 1⟩, ⟨222, 222, 1⟩, ⟨223, 254, 1⟩, ⟨224, 253, 1⟩, ⟨225, 183, 1⟩, ⟨226, 8218, 1⟩,
       ⟨227, 8222, 1⟩, ⟨228, 8240, 1⟩, ⟨229, 194, 1⟩, ⟨230, 202, 1⟩, ⟨231, 193, 1⟩, ⟨232, 203, 1⟩,
       ⟨233, 200, 1⟩, ⟨234, 205, 3⟩, ⟨237, 204, 1⟩, ⟨238, 211, 2⟩, ⟨240, 63743, 1⟩, ⟨241, 210, 1⟩,
       ⟨242, 218, 2⟩, ⟨244, 217, 1⟩, ⟨245, 305, 1⟩, ⟨246, 710, 1⟩, ⟨247, 732, 1⟩, ⟨248, 175, 1⟩,
       ⟨249, 728, 3⟩, ⟨252, 184, 1⟩, ⟨253, 733, 1⟩, ⟨254, 731, 1⟩, ⟨255, 711, 1⟩] }

/-- The character set `mac_latin2`. -/
def macLatin2 : Charset :=
  { names :=
      ["mac_centeuro", "mac_latin2", "maccentraleurope", "maclatin2"]
    runs :=
      [⟨0, 0, 128⟩, ⟨128, 196, 1⟩, ⟨129, 256, 2⟩, ⟨131, 201, 1⟩, ⟨132, 260, 1⟩, ⟨133, 214, 1⟩,
       ⟨134, 220, 1⟩, ⟨135, 225, 1⟩, ⟨136, 261, 1⟩, ⟨137, 268, 1⟩, ⟨138, 228, 1⟩, ⟨139, 269, 1⟩,
       ⟨140, 262, 2⟩, ⟨142, 233, 1⟩, ⟨143, 377, 2⟩, ⟨145, 270, 1⟩, ⟨146, 237, 1⟩, ⟨147, 271, 1⟩,
       ⟨148, 274, 2⟩, ⟨150, 278, 1⟩, ⟨151, 243, 1⟩, ⟨152, 279, 1⟩, ⟨153, 244, 1⟩, ⟨154, 246, 1⟩,
       ⟨155, 245, 1⟩, ⟨156, 250, 1⟩, ⟨157, 282, 2⟩, ⟨159, 252, 1⟩, ⟨160, 8224, 1⟩, ⟨161, 176, 1⟩,
       ⟨162, 280, 1⟩, ⟨163, 163, 1⟩, ⟨164, 167, 1⟩, ⟨165, 8226, 1⟩, ⟨166, 182, 1⟩, ⟨167, 223, 1⟩,
       ⟨168, 174, 1⟩, ⟨169, 169, 1⟩, ⟨170, 8482, 1⟩, ⟨171, 281, 1⟩, ⟨172, 168, 1⟩, ⟨173, 8800, 1⟩,
       ⟨174, 291, 1⟩, ⟨175, 302, 2⟩, ⟨177, 298, 1⟩, ⟨178, 8804, 2⟩, ⟨180, 299, 1⟩, ⟨181, 310, 1⟩,
       ⟨182, 8706, 1⟩, ⟨183, 8721, 1⟩, ⟨184, 322, 1⟩, ⟨185, 315, 4⟩, ⟨189, 313, 2⟩, ⟨191, 325, 2⟩,
       ⟨193, 323, 1⟩, ⟨194, 172, 1⟩, ⟨195, 8730, 1⟩, ⟨196, 324, 1⟩, ⟨197, 327, 1⟩, ⟨198, 8710, 1⟩,
       ⟨199, 171, 1⟩, ⟨200, 187, 1⟩, ⟨201, 8230, 1⟩, ⟨202, 160, 1⟩, ⟨203, 328, 1⟩, ⟨204, 336, 1⟩,
       ⟨205, 213, 1⟩, ⟨206, 337, 1⟩, ⟨207, 332, 1⟩, ⟨208, 8211, 2⟩, ⟨210, 8220, 2⟩, ⟨212, 8216, 2⟩,
       ⟨214, 247, 1⟩, ⟨215, 9674, 1⟩, ⟨216, 333, 1⟩, ⟨217, 340, 2⟩, ⟨219, 344, 1⟩, ⟨220, 8249, 2⟩,
       ⟨222, 345, 1⟩, ⟨223, 342, 2⟩, ⟨225, 352, 1⟩, ⟨226, 8218, 1⟩, ⟨227, 8222, 1⟩, ⟨228, 353, 1⟩,
       ⟨229, 346, 2⟩, ⟨231, 193, 1⟩, ⟨232, 356, 2⟩, ⟨234, 205, 1⟩, ⟨235, 381, 2⟩, ⟨237, 362, 1⟩,
       ⟨238, 211, 2⟩, ⟨240, 363, 1⟩, ⟨241, 366, 1⟩, ⟨242, 218, 1⟩, ⟨243, 367, 5⟩, ⟨248, 221, 1⟩,
       ⟨249, 253, 1⟩, ⟨250, 311, 1⟩, ⟨251, 379, 1⟩, ⟨252, 321, 1⟩, ⟨253, 380, 1⟩, ⟨254, 290, 1⟩,
       ⟨255, 711, 1⟩] }

/-- The character set `mac_roman`. -/
def macRoman : Charset :=
  { names :=
      ["mac_roman", "macintosh", "macroman"]
    runs :=
      [⟨0, 0, 128⟩, ⟨128, 196, 2⟩, ⟨130, 199, 1⟩, ⟨131, 201, 1⟩, ⟨132, 209, 1⟩, ⟨133, 214, 1⟩,
       ⟨134, 220, 1⟩, ⟨135, 225, 1⟩, ⟨136, 224, 1⟩, ⟨137, 226, 1⟩, ⟨138, 228, 1⟩, ⟨139, 227, 1⟩,
       ⟨140, 229, 1⟩, ⟨141, 231, 1⟩, ⟨142, 233, 1⟩, ⟨143, 232, 1⟩, ⟨144, 234, 2⟩, ⟨146, 237, 1⟩,
       ⟨147, 236, 1⟩, ⟨148, 238, 2⟩, ⟨150, 241, 1⟩, ⟨151, 243, 1⟩, ⟨152, 242, 1⟩, ⟨153, 244, 1⟩,
       ⟨154, 246, 1⟩, ⟨155, 245, 1⟩, ⟨156, 250, 1⟩, ⟨157, 249, 1⟩, ⟨158, 251, 2⟩, ⟨160, 8224, 1⟩,
       ⟨161, 176, 1⟩, ⟨162, 162, 2⟩, ⟨164, 167, 1⟩, ⟨165, 8226, 1⟩, ⟨166, 182, 1⟩, ⟨167, 223, 1⟩,
       ⟨168, 174, 1⟩, ⟨169, 169, 1⟩, ⟨170, 8482, 1⟩, ⟨171, 180, 1⟩, ⟨172, 168, 1⟩, ⟨173, 8800, 1⟩,
       ⟨174, 198, 1⟩, ⟨175, 216, 1⟩, ⟨176, 8734, 1⟩, ⟨177, 177, 1⟩, ⟨178, 8804, 2⟩, ⟨180, 165, 1⟩,
       ⟨181, 181, 1⟩, ⟨182, 8706, 1⟩, ⟨183, 8721, 1⟩, ⟨184, 8719, 1⟩, ⟨185, 960, 1⟩,
       ⟨186, 8747, 1⟩, ⟨187, 170, 1⟩, ⟨188, 186, 1⟩, ⟨189, 937, 1⟩, ⟨190, 230, 1⟩, ⟨191, 248, 1⟩,
       ⟨192, 191, 1⟩, ⟨193, 161, 1⟩, ⟨194, 172, 1⟩, ⟨195, 8730, 1⟩, ⟨196, 402, 1⟩, ⟨197, 8776, 1⟩,
       ⟨198, 8710, 1⟩, ⟨199, 171, 1⟩, ⟨200, 187, 1⟩, ⟨201, 8230, 1⟩, ⟨202, 160, 1⟩, ⟨203, 192, 1⟩,
       ⟨204, 195, 1⟩, ⟨205, 213, 1⟩, ⟨206, 338, 2⟩, ⟨208, 8211, 2⟩, ⟨210, 8220, 2⟩,
       ⟨212, 8216, 2⟩, ⟨214, 247, 1⟩, ⟨215, 9674, 1⟩, ⟨216, 255, 1⟩, ⟨217, 376, 1⟩,
       ⟨218, 8260, 1⟩, ⟨219, 8364, 1⟩, ⟨220, 8249, 2⟩, ⟨222, 64257, 2⟩, ⟨224, 8225, 1⟩,
       ⟨225, 183, 1⟩, ⟨226, 8218, 1⟩, ⟨227, 8222, 1⟩, ⟨228, 8240, 1⟩, ⟨229, 194, 1⟩,
       ⟨230, 202, 1⟩, ⟨231, 193, 1⟩, ⟨232, 203, 1⟩, ⟨233, 200, 1⟩, ⟨234, 205, 3⟩, ⟨237, 204, 1⟩,
       ⟨238, 211, 2⟩, ⟨240, 63743, 1⟩, ⟨241, 210, 1⟩, ⟨242, 218, 2⟩, ⟨244, 217, 1⟩, ⟨245, 305, 1⟩,
       ⟨246, 710, 1⟩, ⟨247, 732, 1⟩, ⟨248, 175, 1⟩, ⟨249, 728, 3⟩, ⟨252, 184, 1⟩, ⟨253, 733, 1⟩,
       ⟨254, 731, 1⟩, ⟨255, 711, 1⟩] }

/-- The character set `mac_romanian`. -/
def macRomanian : Charset :=
  { names :=
      ["mac_romanian"]
    runs :=
      [⟨0, 0, 128⟩, ⟨128, 196, 2⟩, ⟨130, 199, 1⟩, ⟨131, 201, 1⟩, ⟨132, 209, 1⟩, ⟨133, 214, 1⟩,
       ⟨134, 220, 1⟩, ⟨135, 225, 1⟩, ⟨136, 224, 1⟩, ⟨137, 226, 1⟩, ⟨138, 228, 1⟩, ⟨139, 227, 1⟩,
       ⟨140, 229, 1⟩, ⟨141, 231, 1⟩, ⟨142, 233, 1⟩, ⟨143, 232, 1⟩, ⟨144, 234, 2⟩, ⟨146, 237, 1⟩,
       ⟨147, 236, 1⟩, ⟨148, 238, 2⟩, ⟨150, 241, 1⟩, ⟨151, 243, 1⟩, ⟨152, 242, 1⟩, ⟨153, 244, 1⟩,
       ⟨154, 246, 1⟩, ⟨155, 245, 1⟩, ⟨156, 250, 1⟩, ⟨157, 249, 1⟩, ⟨158, 251, 2⟩, ⟨160, 8224, 1⟩,
       ⟨161, 176, 1⟩, ⟨162, 162, 2⟩, ⟨164, 167, 1⟩, ⟨165, 8226, 1⟩, ⟨166, 182, 1⟩, ⟨167, 223, 1⟩,
       ⟨168, 174, 1⟩, ⟨169, 169, 1⟩, ⟨170, 8482, 1⟩, ⟨171, 180, 1⟩, ⟨172, 168, 1⟩, ⟨173, 8800, 1⟩,
       ⟨174, 258, 1⟩, ⟨175, 536, 1⟩, ⟨176, 8734, 1⟩, ⟨177, 177, 1⟩, ⟨178, 8804, 2⟩, ⟨180, 165, 1⟩,
       ⟨181, 181, 1⟩, ⟨182, 8706, 1⟩, ⟨183, 8721, 1⟩, ⟨184, 8719, 1⟩, ⟨185, 960, 1⟩, ⟨186, 8747, 1⟩,
       ⟨187, 170, 1⟩, ⟨188, 186, 1⟩, ⟨189, 937, 1⟩, ⟨190, 259, 1⟩, ⟨191, 537, 1⟩, ⟨192, 191, 1⟩,
       ⟨193, 161, 1⟩, ⟨194, 172, 1⟩, ⟨195, 8730, 1⟩, ⟨196, 402, 1⟩, ⟨197, 8776, 1⟩, ⟨198, 8710, 1⟩,
       ⟨199, 171, 1⟩, ⟨200, 187, 1⟩, ⟨201, 8230, 1⟩, ⟨202, 160, 1⟩, ⟨203, 192, 1⟩, ⟨204, 195, 1⟩,
       ⟨205, 213, 1⟩, ⟨206, 338, 2⟩, ⟨208, 8211, 2⟩, ⟨210, 8220, 2⟩, ⟨212, 8216, 2⟩, ⟨214, 247, 1⟩,
       ⟨215, 9674, 1⟩, ⟨216, 255, 1⟩, ⟨217, 376, 1⟩, ⟨218, 8260, 1⟩, ⟨219, 8364, 1⟩, ⟨220, 8249, 2⟩,
       ⟨222, 538, 2⟩, ⟨224, 8225, 1⟩, ⟨225, 183, 1⟩, ⟨226, 8218, 1⟩, ⟨227, 8222, 1⟩, ⟨228, 8240, 1⟩,
       ⟨229, 194, 1⟩, ⟨230, 202, 1⟩, ⟨231, 193, 1⟩, ⟨232, 203, 1⟩, ⟨233, 200, 1⟩, ⟨234, 205, 3⟩,
       ⟨237, 204, 1⟩, ⟨238, 211, 2⟩, ⟨240, 63743, 1⟩, ⟨241, 210, 1⟩, ⟨242, 218, 2⟩, ⟨244, 217, 1⟩,
       ⟨245, 305, 1⟩, ⟨246, 710, 1⟩, ⟨247, 732, 1⟩, ⟨248, 175, 1⟩, ⟨249, 728, 3⟩, ⟨252, 184, 1⟩,
       ⟨253, 733, 1⟩, ⟨254, 731, 1⟩, ⟨255, 711, 1⟩] }

/-- The character set `mac_turkish`. -/
def macTurkish : Charset :=
  { names :=
      ["mac_turkish", "macturkish"]
    runs :=
      [⟨0, 0, 128⟩, ⟨128, 196, 2⟩, ⟨130, 199, 1⟩, ⟨131, 201, 1⟩, ⟨132, 209, 1⟩, ⟨133, 214, 1⟩,
       ⟨134, 220, 1⟩, ⟨135, 225, 1⟩, ⟨136, 224, 1⟩, ⟨137, 226, 1⟩, ⟨138, 228, 1⟩, ⟨139, 227, 1⟩,
       ⟨140, 229, 1⟩, ⟨141, 231, 1⟩, ⟨142, 233, 1⟩, ⟨143, 232, 1⟩, ⟨144, 234, 2⟩, ⟨146, 237, 1⟩,
       ⟨147, 236, 1⟩, ⟨148, 238, 2⟩, ⟨150, 241, 1⟩, ⟨151, 243, 1⟩, ⟨152, 242, 1⟩, ⟨153, 244, 1⟩,
       ⟨154, 246, 1⟩, ⟨155, 245, 1⟩, ⟨156, 250, 1⟩, ⟨157, 249, 1⟩, ⟨158, 251, 2⟩, ⟨160, 8224, 1⟩,
       ⟨161, 176, 1⟩, ⟨162, 162, 2⟩, ⟨164, 167, 1⟩, ⟨165, 8226, 1⟩, ⟨166, 182, 1⟩, ⟨167, 223, 1⟩,
       ⟨168, 174, 1⟩, ⟨169, 169, 1⟩, ⟨170, 8482, 1⟩, ⟨171, 180, 1⟩, ⟨172, 168, 1⟩, ⟨173, 8800, 1⟩,
       ⟨174, 198, 1⟩, ⟨175, 216, 1⟩, ⟨176, 8734, 1⟩, ⟨177, 177, 1⟩, ⟨178, 8804, 2⟩, ⟨180, 165, 1⟩,
       ⟨181, 181, 1⟩, ⟨182, 8706, 1⟩, ⟨183, 8721, 1⟩, ⟨184, 8719, 1⟩, ⟨185, 960, 1⟩, ⟨186, 8747, 1⟩,
       ⟨187, 170, 1⟩, ⟨188, 186, 1⟩, ⟨189, 937, 1⟩, ⟨190, 230, 1⟩, ⟨191, 248, 1⟩, ⟨192, 191, 1⟩,
       ⟨193, 161, 1⟩, ⟨194, 172, 1⟩, ⟨195, 8730, 1⟩, ⟨196, 402, 1⟩, ⟨197, 8776, 1⟩, ⟨198, 8710, 1⟩,
       ⟨199, 171, 1⟩, ⟨200, 187, 1⟩, ⟨201, 8230, 1⟩, ⟨202, 160, 1⟩, ⟨203, 192, 1⟩, ⟨204, 195, 1⟩,
       ⟨205, 213, 1⟩, ⟨206, 338, 2⟩, ⟨208, 8211, 2⟩, ⟨210, 8220, 2⟩, ⟨212, 8216, 2⟩, ⟨214, 247, 1⟩,
       ⟨215, 9674, 1⟩, ⟨216, 255, 1⟩, ⟨217, 376, 1⟩, ⟨218, 286, 2⟩, ⟨220, 304, 2⟩, ⟨222, 350, 2⟩,
       ⟨224, 8225, 1⟩, ⟨225, 183, 1⟩, ⟨226, 8218, 1⟩, ⟨227, 8222, 1⟩, ⟨228, 8240, 1⟩, ⟨229, 194, 1⟩,
       ⟨230, 202, 1⟩, ⟨231, 193, 1⟩, ⟨232, 203, 1⟩, ⟨233, 200, 1⟩, ⟨234, 205, 3⟩, ⟨237, 204, 1⟩,
       ⟨238, 211, 2⟩, ⟨240, 63743, 1⟩, ⟨241, 210, 1⟩, ⟨242, 218, 2⟩, ⟨244, 217, 1⟩, ⟨245, 63648, 1⟩,
       ⟨246, 710, 1⟩, ⟨247, 732, 1⟩, ⟨248, 175, 1⟩, ⟨249, 728, 3⟩, ⟨252, 184, 1⟩, ⟨253, 733, 1⟩,
       ⟨254, 731, 1⟩, ⟨255, 711, 1⟩] }

/-- The character set `palmos`. -/
def palmos : Charset :=
  { names :=
      ["palmos"]
    runs :=
      [⟨0, 0, 128⟩, ⟨128, 8364, 1⟩, ⟨129, 129, 1⟩, ⟨130, 8218, 1⟩, ⟨131, 402, 1⟩, ⟨132, 8222, 1⟩,
       ⟨133, 8230, 1⟩, ⟨134, 8224, 2⟩, ⟨136, 710, 1⟩, ⟨137, 8240, 1⟩, ⟨138, 352, 1⟩, ⟨139, 8249, 1⟩,
       ⟨140, 338, 1⟩, ⟨141, 9830, 1⟩, ⟨142, 9827, 1⟩, ⟨143, 9829, 1⟩, ⟨144, 9824, 1⟩,
       ⟨145, 8216, 2⟩, ⟨147, 8220, 2⟩, ⟨149, 8226, 1⟩, ⟨150, 8211, 2⟩, ⟨152, 732, 1⟩,
       ⟨153, 8482, 1⟩, ⟨154, 353, 1⟩, ⟨155, 155, 1⟩, ⟨156, 339, 1⟩, ⟨157, 157, 2⟩, ⟨159, 376, 1⟩,
       ⟨160, 160, 96⟩] }

/-- The character set `ptcp154`. -/
def ptcp154 : Charset :=
  { names :=
      ["cp154", "csptcp154", "cyrillic_asian", "pt154", "ptcp154"]
    runs :=
      [⟨0, 0, 128⟩, ⟨128, 1174, 1⟩, ⟨129, 1170, 1⟩, ⟨130, 1262, 1⟩, ⟨131, 1171, 1⟩, ⟨132, 8222, 1⟩,
       ⟨133, 8230, 1⟩, ⟨134, 1206, 1⟩, ⟨135, 1198, 1⟩, ⟨136, 1202, 1⟩, ⟨137, 1199, 1⟩,
       ⟨138, 1184, 1⟩, ⟨139, 1250, 1⟩, ⟨140, 1186, 1⟩, ⟨141, 1178, 1⟩, ⟨142, 1210, 1⟩,
       ⟨143, 1208, 1⟩, ⟨144, 1175, 1⟩, ⟨145, 8216, 2⟩, ⟨147, 8220, 2⟩, ⟨149, 8226, 1⟩,
       ⟨150, 8211, 2⟩, ⟨152, 1203, 1⟩, ⟨153, 1207, 1⟩, ⟨154, 1185, 1⟩, ⟨155, 1251, 1⟩,
       ⟨156, 1187, 1⟩, ⟨157, 1179, 1⟩, ⟨158, 1211, 1⟩, ⟨159, 1209, 1⟩, ⟨160, 160, 1⟩,
       ⟨161, 1038, 1⟩, ⟨162, 1118, 1⟩, ⟨163, 1032, 1⟩, ⟨164, 1256, 1⟩, ⟨165, 1176, 1⟩,
       ⟨166, 1200, 1⟩, ⟨167, 167, 1⟩, ⟨168, 1025, 1⟩, ⟨169, 169, 1⟩, ⟨170, 1240, 1⟩, ⟨171, 171, 2⟩,
       ⟨173, 1263, 1⟩, ⟨174, 174, 1⟩, ⟨175, 1180, 1⟩, ⟨176, 176, 1⟩, ⟨177, 1201, 1⟩, ⟨178, 1030, 1⟩,
       ⟨179, 1110, 1⟩, ⟨180, 1177, 1⟩, ⟨181, 1257, 1⟩, ⟨182, 182, 2⟩, ⟨184, 1105, 1⟩,
       ⟨185, 8470, 1⟩, ⟨186, 1241, 1⟩, ⟨187, 187, 1⟩, ⟨188, 1112, 1⟩, ⟨189, 1194, 2⟩,
       ⟨191, 1181, 1⟩, ⟨192, 1040, 64⟩] }

/-- The character set `tis_620`. -/
def tis620 : Charset :=
  { names :=
      ["iso_ir_166", "tis620", "tis_620", "tis_620_0", "tis_620_2529_0", "tis_620_2529_1"]
    runs :=
      [⟨0, 0, 160⟩, ⟨161, 3585, 58⟩, ⟨223, 3647, 29⟩] }

/-- All sets. -/
def all : List Charset :=
  [ascii, latin1, cp1006, cp1125, cp1250, cp1251, cp1252, cp1253, cp1254, cp1255, cp1256, cp1257,
   cp1258, cp437, cp720, cp737, cp775, cp850, cp852, cp855, cp856, cp857, cp858, cp860, cp861,
   cp862, cp863, cp865, cp866, cp869, cp874, hpRoman8, hz, iso885910, iso885911, iso885913,
   iso885914, iso885915, iso885916, iso88592, iso88593, iso88594, iso88595, iso88596, iso88597,
   iso88598, iso88599, koi8R, koi8T, koi8U, kz1048, macCroatian, macCyrillic, macGreek, macIceland,
   macLatin2, macRoman, macRomanian, macTurkish, palmos, ptcp154, tis620]

/-- The names of encodings in which a character may take several bytes. -/
def multiByteNames : List String :=
  ["932", "936", "949", "950", "big5", "big5_hkscs", "big5_tw", "big5hkscs", "chinese", "cp1361",
   "cp932", "cp936", "cp949", "cp950", "csbig5", "csiso2022kr", "csiso58gb231280", "csshiftjis",
   "euc_cn", "euc_jis2004", "euc_jis_2004", "euc_jisx0213", "euc_jp", "euc_kr", "euccn",
   "eucgb2312_cn", "eucjis2004", "eucjisx0213", "eucjp", "euckr", "gb18030", "gb18030_2000",
   "gb2312", "gb2312_1980", "gb2312_80", "gbk", "hkscs", "iso2022_kr", "iso2022kr", "iso_2022_kr",
   "iso_ir_58", "jisx0213", "johab", "korean", "ks_c_5601", "ks_c_5601_1987", "ks_x_1001",
   "ksc5601", "ksx1001", "ms1361", "ms932", "ms936", "ms949", "ms950", "ms_kanji", "mskanji",
   "s_jis", "s_jis_2004", "s_jisx0213", "shift_jis", "shift_jis_2004", "shift_jisx0213",
   "shiftjis", "shiftjis2004", "shiftjisx0213", "sjis", "sjis_2004", "sjisx0213", "u16", "u32",
   "u7", "u_jis", "uhc", "ujis", "unicode_1_1_utf_7", "unicodebigunmarked",
   "unicodelittleunmarked", "utf16", "utf32", "utf7", "utf_16", "utf_16_be", "utf_16_le",
   "utf_16be", "utf_16le", "utf_32", "utf_32_be", "utf_32_le", "utf_32be", "utf_32le", "utf_7",
   "x_mac_japanese", "x_mac_korean", "x_mac_simp_chinese", "x_mac_trad_chinese"]

/-- The names of character sets in which a byte below 128 stands for another character than in
`ascii`; a document cannot be written in them. -/
def incompatibleNames : List String :=
  ["037", "1026", "1140", "273", "424", "500", "864", "cp037", "cp1026", "cp1140", "cp273", "cp424",
   "cp500", "cp864", "cp875", "csibm037", "csibm1026", "csibm273", "csibm424", "csibm500",
   "csibm864", "ebcdic_cp_be", "ebcdic_cp_ca", "ebcdic_cp_ch", "ebcdic_cp_he", "ebcdic_cp_nl",
   "ebcdic_cp_us", "ebcdic_cp_wt", "ibm037", "ibm039", "ibm1026", "ibm1140", "ibm273", "ibm424",
   "ibm500", "ibm864", "mac_arabic", "mac_farsi"]

/-- The names of encodings of bytes in bytes, which no text is written in. -/
def byteNames : List String :=
  ["base64", "base64_codec", "base_64", "bz2", "bz2_codec", "hex", "hex_codec", "quopri",
   "quopri_codec", "quoted_printable", "quotedprintable", "rot13", "rot_13", "uu", "uu_codec",
   "zip", "zlib", "zlib_codec"]

end Charset

end SourceAtlas.Xml
