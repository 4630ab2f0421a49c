import RestContract.Text.Charset.MultiByte
import RestContract.Text.Charset.Table
import RestContract.Text.Encoding
import RestContract.Text.Search

/-!
# Character sets

What the bytes of a text stand for, where the text says which character set it is in. Bytes that are
no text are replaced; only a set whose order of bytes has to be marked has no text without the mark.
-/

namespace RestContract.Text

/-- A character set. -/
inductive Charset where
  | unicode
  /-- The same with a mark in front. -/
  | markedUnicode
  | ascii
  /-- One byte for each character. The tail holds the characters of the last bytes. -/
  | bytes (tail : List Char)
  /-- One byte or several for each character. -/
  | multiByte (set : MultiByte)
  /-- Pairs of bytes, the one of more weight first or last. -/
  | pairs (bigEndian : Bool)
  /-- Groups of four bytes, the one of most weight first or last. -/
  | quads (bigEndian : Bool)
  /-- Groups of some bytes after a mark that tells their order. -/
  | marked (size : Nat)
  deriving DecidableEq, Repr

namespace Charset

/-- The sets of more than one byte for each character, and ASCII, by their names. -/
def named : List (String × Charset) :=
  [("utf_8 u8 utf utf8 utf8_ucs2 utf8_ucs4 cp65001", .unicode), ("utf_8_sig", .markedUnicode),
   ("ascii 646 ansi_x3.4_1968 ansi_x3_4_1968 ansi_x3.4_1986 cp367 csascii ibm367 iso646_us " ++
     "iso_646.irv_1991 iso_ir_6 us us_ascii", .ascii),
   ("utf_16_le unicodelittleunmarked utf_16le", .pairs false),
   ("utf_16_be unicodebigunmarked utf_16be", .pairs true),
   ("utf_16 u16 utf16", .marked 2), ("utf_32 u32 utf32", .marked 4),
   ("utf_32_le utf_32le", .quads false), ("utf_32_be utf_32be", .quads true)]

/-- The sets that change between tables by escapes, by their names. A text without escapes is one of
    ASCII there, and escapes are not followed. -/
def escaping : List (String × Charset) :=
  [("utf_7 u7 unicode_1_1_utf_7 utf7 hz hz_gb hz_gb_2312 hzgb iso2022_jp csiso2022jp iso2022jp " ++
     "iso_2022_jp iso2022_jp_1 iso2022jp_1 iso_2022_jp_1 iso2022_jp_2 iso2022jp_2 iso_2022_jp_2 " ++
     "iso2022_jp_3 iso2022jp_3 iso_2022_jp_3 iso2022_jp_ext iso2022jp_ext iso_2022_jp_ext " ++
     "iso2022_jp_2004 iso2022jp_2004 iso_2022_jp_2004 iso2022_kr csiso2022kr iso2022kr " ++
     "iso_2022_kr", .ascii), ("unicode_escape raw_unicode_escape", .bytes [])]

/-- The East Asian sets by their names; later editions of a set are read as the first. -/
def eastAsian : List (String × MultiByte) :=
  [("shift_jis csshiftjis s_jis shiftjis sjis x_mac_japanese shift_jis_2004 s_jis_2004 " ++
     "shiftjis2004 sjis_2004 shift_jisx0213 s_jisx0213 shiftjisx0213 sjisx0213",
     .shiftJis false),
   ("cp932 932 ms932 ms_kanji mskanji", .shiftJis true),
   ("euc_jp eucjp u_jis ujis euc_jis_2004 euc_jis2004 eucjis2004 jisx0213 euc_jisx0213 " ++
     "eucjisx0213", .eucJapanese),
   ("gb2312 chinese csiso58gb231280 euc_cn euccn eucgb2312_cn gb2312_1980 gb2312_80 " ++
     "iso_ir_58 x_mac_simp_chinese", .simplified .national),
   ("gbk 936 cp936 ms936", .simplified .extended),
   ("gb18030 gb18030_2000", .simplified .later),
   ("big5 big5_tw csbig5 x_mac_trad_chinese big5hkscs big5_hkscs hkscs", .traditional false),
   ("cp950 950 ms950", .traditional true),
   ("euc_kr euckr korean ks_c_5601 ks_c_5601_1987 ks_x_1001 ksc5601 ksx1001 x_mac_korean",
     .korean false),
   ("cp949 949 ms949 uhc", .korean true)]

/-- All sets by their names. -/
def all : List (String × Charset) :=
  named ++ escaping ++ eastAsian.map (fun (names, set) => (names, .multiByte set)) ++
    charsetRows.map fun (names, tail) => (names, .bytes (String.join tail).toList)

/-- Whether a character counts in a name. -/
def isNameChar (c : Char) : Bool := c.isAlphanum || c == '.'

/-- A name in small letters, with an underscore between the runs of characters that count. -/
def plainName (gap : Bool) (name : List Char) : List Char → List Char
  | [] => name.reverse
  | c :: rest =>
    if isNameChar c then
      let before := if gap && !name.isEmpty then '_' :: name else name
      plainName false (c.toLower :: before) rest
    else plainName true name rest

/-- Whether a word is one of the words of a text, which blanks separate. -/
def isWordOf (word : List Char) (text : String) : Bool :=
  occursIn (' ' :: word ++ [' ']) (' ' :: text.toList ++ [' '])

/-- The set of a name. -/
def ofName? (name : String) : Option Charset :=
  let word := plainName false [] name.toList
  if word.isEmpty then none
  else (all.find? fun (names, _) => isWordOf word names).map Prod.snd

/-- The character of a byte in a set of one byte for each character. -/
def charOf (tail : List Char) (byte : Nat) : Char :=
  (tail[byte + tail.length - 256]?.filter fun _ => 256 ≤ byte + tail.length).getD (Char.ofNat byte)

/-- The units of two bytes each, and whether a byte is left over. -/
def unitsOf (bigEndian : Bool) : List Nat → List Nat × Bool
  | first :: second :: rest =>
    let (units, isOdd) := unitsOf bigEndian rest
    ((if bigEndian then first * 256 + second else second * 256 + first) :: units, isOdd)
  | [_] => ([], true)
  | [] => ([], false)

/-- Whether a unit is the first or the second of a pair that stands for one character. -/
def isHigh (unit : Nat) : Bool := 0xd800 ≤ unit && unit < 0xdc00
def isLow (unit : Nat) : Bool := 0xdc00 ≤ unit && unit < 0xe000

/-- The characters of units. What is left over of the bytes belongs to a first unit at the end. -/
def charsOfUnits (isOdd : Bool) : List Nat → List Char
  | [] => if isOdd then [replacement] else []
  | [unit] =>
    if isHigh unit then [replacement]
    else (if isLow unit then replacement else Char.ofNat unit) :: charsOfUnits isOdd []
  | first :: second :: rest =>
    if isHigh first then
      if isLow second then
        Char.ofNat (0x10000 + (first - 0xd800) * 0x400 + (second - 0xdc00)) ::
          charsOfUnits isOdd rest
      else replacement :: charsOfUnits isOdd (second :: rest)
    else
      (if isLow first then replacement else Char.ofNat first) :: charsOfUnits isOdd (second :: rest)

/-- A text without the mark in front of it. -/
def dropMark : List Char → List Char
  | '\ufeff' :: text => text
  | text => text

/-- The text of pairs of bytes. -/
def textOfPairs (bigEndian : Bool) (bytes : List Nat) : List Char :=
  let (units, isOdd) := unitsOf bigEndian bytes
  charsOfUnits isOdd units

/-- The character of a code, if there is one. -/
def charOfCode (code : Nat) : Char :=
  if code ≤ 0x10ffff && !isHigh code && !isLow code then Char.ofNat code else replacement

/-- The text of groups of four bytes. What is left over at the end is replaced as a whole. -/
def textOfQuads (bigEndian : Bool) : List Nat → List Char
  | a :: b :: c :: d :: rest =>
    let digits := if bigEndian then [a, b, c, d] else [d, c, b, a]
    charOfCode (numberOfDigits 256 digits) :: textOfQuads bigEndian rest
  | [] => []
  | _ => [replacement]

/-- The text of bytes, if the set has a text for them. Larger groups than pairs have none. -/
def decode? (charset : Charset) (bytes : List Nat) : Option (List Char) :=
  match charset with
  | .unicode => some (decodeAnyway bytes)
  | .markedUnicode => some (dropMark (decodeAnyway bytes))
  | .ascii => some (bytes.map fun byte => if byte < 0x80 then Char.ofNat byte else replacement)
  | .bytes tail => some (bytes.map (charOf tail))
  | .multiByte set => some (set.decode bytes)
  | .quads bigEndian => some (textOfQuads bigEndian bytes)
  | .pairs bigEndian => some (textOfPairs bigEndian bytes)
  | .marked size =>
    match bytes with
    | 0xff :: 0xfe :: rest => if size = 2 then some (textOfPairs false rest) else none
    | 0xfe :: 0xff :: rest => if size = 2 then some (textOfPairs true rest) else none
    | bytes => if bytes.length < size then some (bytes.take 1 |>.map fun _ => replacement) else none

end Charset
end RestContract.Text
