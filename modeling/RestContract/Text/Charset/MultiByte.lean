import RestContract.Text.Charset.Hangul
import RestContract.Text.Charset.Hanzi
import RestContract.Text.Charset.Kanji
import RestContract.Text.Charset.Traditional
import RestContract.Text.Encoding

/-!
# Character sets of several bytes for a character

The East Asian character sets. ASCII has one byte for each character there, and most other
characters have two. Of bytes that are no character only the first is replaced, and the next one is
read afresh; a character that the end of the text cuts off is replaced as a whole.
-/

namespace RestContract.Text

/-- The editions of the simplified Chinese set. -/
inductive HanziEdition where
  | national
  | extended
  | later
  deriving DecidableEq, Repr

/-- A set of several bytes for a character. The extended sets are those of a common system. -/
inductive MultiByte where
  | shiftJis (extended : Bool)
  | eucJapanese
  | simplified (edition : HanziEdition)
  | traditional (extended : Bool)
  | korean (extended : Bool)
  deriving DecidableEq, Repr

namespace MultiByte

/-- The character at a place in runs of characters. -/
def inRuns? (runs : List (Nat × Nat × List String)) (first second : Nat) : Option Char :=
  runs.findSome? fun (lead, start, lines) =>
    if lead = first ∧ start ≤ second then
      ((lines.flatMap String.toList)[second - start]?).filter (· ≠ replacement)
    else none

/-- The Japanese letter of half width that a byte stands for. -/
def narrowKana? (byte : Nat) : Option Char :=
  if 0xa1 ≤ byte ∧ byte ≤ 0xdf then some (Char.ofNat (0xff61 + (byte - 0xa1))) else none

/-- The row and the cell of the Japanese standard that two bytes of Shift JIS stand for. -/
def rowAndCell? (first second : Nat) : Option (Nat × Nat) :=
  let row := (first - (if first < 0xa0 then 0x81 else 0xc1)) * 2 + 1
  if first < 0x81 ∨ (0xa0 ≤ first ∧ first < 0xe0) then none
  else if 0x9f ≤ second ∧ second ≤ 0xfc then some (row + 1, second - 0x9e)
  else if 0x80 ≤ second ∧ second < 0x9f then some (row, second - 0x40)
  else if 0x40 ≤ second ∧ second < 0x7f then some (row, second - 0x3f)
  else none

/-- The character of two bytes of Shift JIS. -/
def shiftJis? (first second : Nat) : Option Char :=
  (rowAndCell? first second).bind fun (row, cell) => inRuns? kanjiRuns row cell

/-- The character for private use that two bytes of the extended Shift JIS stand for. -/
def privateKanji? (first second : Nat) : Option Char :=
  if 0xf0 ≤ first ∧ first ≤ 0xf9 ∧ 0x40 ≤ second ∧ second ≤ 0xfc ∧ second ≠ 0x7f then
    let cell := if second < 0x7f then second - 0x40 else second - 0x41
    some (Char.ofNat (0xe000 + (first - 0xf0) * 188 + cell))
  else none

/-- Whether a code of the extended Chinese set lies in the area of the national one without being
    one of its codes. -/
def isLaterHanzi (code : Nat) : Bool :=
  [(0xa2a1, 0xa2aa), (0xa6e0, 0xa6eb), (0xa6ee, 0xa6f2), (0xa6f4, 0xa6f5), (0xa8bb, 0xa8bb),
    (0xa8bd, 0xa8be), (0xa8c0, 0xa8c0)].any fun (low, high) => low ≤ code && code ≤ high

/-- The character of two bytes of the national Chinese set. -/
def nationalHanzi? (first second : Nat) : Option Char :=
  let code := first * 256 + second
  if code = 0xa1a4 then some '・'
  else if code = 0xa1aa then some '―'
  else if first < 0xa1 ∨ second < 0xa1 ∨ isLaterHanzi code then none
  else inRuns? hanziRuns first second

/-- The character for private use that two bytes of the later Chinese set stand for. -/
def privateHanzi? (first second : Nat) : Option Char :=
  if 0xaa ≤ first ∧ first ≤ 0xaf ∧ 0xa1 ≤ second ∧ second ≤ 0xfe then
    some (Char.ofNat (0xe000 + (first - 0xaa) * 94 + (second - 0xa1)))
  else if 0xf8 ≤ first ∧ first ≤ 0xfe ∧ 0xa1 ≤ second ∧ second ≤ 0xfe then
    some (Char.ofNat (0xe234 + (first - 0xf8) * 94 + (second - 0xa1)))
  else if 0xa1 ≤ first ∧ first ≤ 0xa7 ∧ 0x40 ≤ second ∧ second ≤ 0xa0 ∧ second ≠ 0x7f then
    let cell := if second < 0x7f then second - 0x40 else second - 0x41
    some (Char.ofNat (0xe4c6 + (first - 0xa1) * 96 + cell))
  else none

/-- The character of a single byte. -/
def single? (set : MultiByte) (byte : Nat) : Option Char :=
  if byte < 0x80 then some (Char.ofNat byte)
  else
    match set with
    | .shiftJis false => narrowKana? byte
    | .shiftJis true =>
      if byte = 0x80 then some '\x80'
      else if byte = 0xa0 then some '\uf8f0'
      else if 0xfd ≤ byte then some (Char.ofNat (0xf8f1 + (byte - 0xfd)))
      else narrowKana? byte
    | _ => none

/-- The character of two bytes. -/
def pair? (set : MultiByte) (first second : Nat) : Option Char :=
  match set with
  | .shiftJis false => shiftJis? first second
  | .shiftJis true =>
    ((inRuns? windowsKanjiRuns first second).or (privateKanji? first second)).or
      (shiftJis? first second)
  | .eucJapanese =>
    if first = 0x8e then narrowKana? second
    else if first < 0xa1 ∨ second < 0xa1 then none
    else inRuns? kanjiRuns (first - 0xa0) (second - 0xa0)
  | .simplified .national => nationalHanzi? first second
  | .simplified .extended => inRuns? hanziRuns first second
  | .simplified .later =>
    ((inRuns? laterHanziRuns first second).or (inRuns? hanziRuns first second)).or
      (privateHanzi? first second)
  | .traditional false => inRuns? traditionalRuns first second
  | .traditional true =>
    (inRuns? windowsTraditionalRuns first second).or (inRuns? traditionalRuns first second)
  | .korean false =>
    if first < 0xa1 ∨ second < 0xa1 then none else inRuns? hangulRuns first second
  | .korean true => inRuns? hangulRuns first second

/-- The number of bytes of a character that is no single byte, by its first two bytes. -/
def width (set : MultiByte) (first : Nat) (second : Option Nat) : Nat :=
  match set with
  | .eucJapanese => if first = 0x8f then 3 else 2
  | .simplified .later =>
    if second.any fun byte => 0x30 ≤ byte && byte ≤ 0x39 then 4 else 2
  | _ => 2

/-- The index of a group of four bytes among all such groups with the same first byte or a later
    one, where `start` is the lowest first byte. -/
def quadIndex (start a b c d : Nat) : Nat :=
  (((a - start) * 10 + (b - 0x30)) * 126 + (c - 0x81)) * 10 + (d - 0x30)

/-- The number of characters of four bytes that lie in the first plane. -/
def firstPlaneQuads : Nat := 39420

/-- The character of the first plane with an index among the groups of four bytes. -/
def firstPlaneHanzi? (index : Nat) : Option Char :=
  if index < firstPlaneQuads then
    (laterHanziStarts.takeWhile (·.1 ≤ index)).getLast?.map fun (start, code) =>
      Char.ofNat (code + (index - start))
  else none

/-- The character of four bytes of the later Chinese set. -/
def quad? (a b c d : Nat) : Option Char :=
  if a < 0x81 ∨ c < 0x81 ∨ 0xfe < c ∨ d < 0x30 ∨ 0x39 < d then none
  else if a < 0x85 then firstPlaneHanzi? (quadIndex 0x81 a b c d)
  else if a < 0x90 then none
  else
    let code := 0x10000 + quadIndex 0x90 a b c d
    if code ≤ 0x10ffff then some (Char.ofNat code) else none

/-- The character of a group of bytes. -/
def group? (set : MultiByte) : List Nat → Option Char
  | [first, second] => set.pair? first second
  | [_, first, second] =>
    if first < 0xa1 ∨ second < 0xa1 then none
    else inRuns? kanjiSupplementRuns (first - 0xa0) (second - 0xa0)
  | [a, b, c, d] => quad? a b c d
  | _ => none

/-- The text of bytes, in a number of steps. -/
def decodeIn (set : MultiByte) : Nat → List Nat → List Char
  | 0, _ => []
  | _, [] => []
  | steps + 1, first :: rest =>
    match set.single? first with
    | some c => c :: decodeIn set steps rest
    | none =>
      let size := set.width first rest.head?
      if rest.length + 1 < size then [replacement]
      else
        match set.group? ((first :: rest).take size) with
        | some c => c :: decodeIn set steps (rest.drop (size - 1))
        | none => replacement :: decodeIn set steps rest

/-- The text of bytes. Each step takes at least one of them. -/
def decode (set : MultiByte) (bytes : List Nat) : List Char := decodeIn set bytes.length bytes

end MultiByte
end RestContract.Text
