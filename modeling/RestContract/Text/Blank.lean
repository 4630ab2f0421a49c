/-!
# Blank characters

The characters that count as white space in Unicode, and trimming by them. A text is blank when it
holds nothing else.
-/

namespace RestContract.Text

/-- The ranges of blank characters: the format controls of ASCII from tab to carriage return and
    from file separator to unit separator, the space, and the separators beyond ASCII. -/
def blankRanges : List (Nat × Nat) :=
  [(0x09, 0x0d), (0x1c, 0x20), (0x85, 0x85), (0xa0, 0xa0), (0x1680, 0x1680), (0x2000, 0x200a),
   (0x2028, 0x2029), (0x202f, 0x202f), (0x205f, 0x205f), (0x3000, 0x3000)]

/-- Whether a code point lies in one of the ranges. -/
def inRanges (ranges : List (Nat × Nat)) (code : Nat) : Bool :=
  ranges.any fun (low, high) => low ≤ code && code ≤ high

/-- Whether a character is white space in Unicode. -/
def isBlank (c : Char) : Bool := inRanges blankRanges c.toNat

/-- The ranges of characters that may stand around a number: the blanks other than the four
    separators of ASCII. -/
def paddingRanges : List (Nat × Nat) :=
  [(0x09, 0x0d), (0x20, 0x20), (0x85, 0x85), (0xa0, 0xa0), (0x1680, 0x1680), (0x2000, 0x200a),
   (0x2028, 0x2029), (0x202f, 0x202f), (0x205f, 0x205f), (0x3000, 0x3000)]

/-- Whether a character may stand around a number. -/
def isPadding (c : Char) : Bool := inRanges paddingRanges c.toNat

/-- A text without the characters of a class at its two ends. -/
def trimBy (drops : Char → Bool) (text : List Char) : List Char :=
  ((text.dropWhile drops).reverse.dropWhile drops).reverse

/-- A text without the blanks at its two ends. -/
def trim (text : List Char) : List Char := trimBy isBlank text

/-- Whether a text holds blanks only. -/
def isBlankText (text : String) : Bool := text.toList.all isBlank

end RestContract.Text
