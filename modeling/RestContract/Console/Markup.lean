import RestContract.Console.Symbol
import RestContract.Text.Wrap

/-!
# Marked-up text

Text with tags in brackets that say how a terminal shows it. A backslash before a tag takes the tag
as text, and backslashes there are written twice. What is left of marked-up text where nothing can
be styled is the text without its tags, in which symbols stand in the place of their names.
-/

namespace RestContract.Markup

/-- Whether a tag can start with a character after its bracket. -/
def startsTag (c : Char) : Bool := ('a' ≤ c && c ≤ 'z') || c == '#' || c == '/' || c == '@'

/-- Whether a text closes a bracket before it opens another. -/
def closes : List Char → Bool
  | [] => false
  | c :: rest => c == '\x5d' || (c != '\x5b' && closes rest)

/-- Whether a tag begins with the bracket before a text. -/
def isTag : List Char → Bool
  | [] => false
  | c :: rest => startsTag c && closes rest

def backslashes (count : Nat) : List Char := List.replicate count '\\'

/-- A text in which no tag counts, after some backslashes. -/
def escapeFrom (count : Nat) : List Char → List Char
  | [] => backslashes count
  | c :: rest =>
    if c = '\\' then escapeFrom (count + 1) rest
    else
      let before := if c = '\x5b' && isTag rest then 2 * count + 1 else count
      backslashes before ++ c :: escapeFrom 0 rest

/-- Whether a text ends with a backslash that stands alone. -/
def endsWithBackslash (text : List Char) : Bool :=
  (text.reverse.takeWhile (· == '\\')).length == 1

/-- A text in which no tag counts, so that a tag can follow it. -/
def escape (text : List Char) : List Char :=
  let escaped := escapeFrom 0 text
  if endsWithBackslash escaped then escaped ++ ['\\'] else escaped

/-- Where reading stands: in the text after some backslashes, in a tag that is taken as text, or in
    a tag. -/
inductive Place where
  | text (count : Nat)
  | literalTag
  | tag

/-- The characters of a marked-up text without its tags, and nothing where one of its pieces ends. A
    piece ends at a tag, also at one that is taken as text. A backslash before a bracket that starts
    no tag is dropped. -/
def plainFrom : Place → List Char → List (Option Char)
  | .text count, [] => (backslashes count).map some
  | .literalTag, [] | .tag, [] => []
  | .tag, c :: rest => plainFrom (if c = '\x5d' then .text 0 else .tag) rest
  | .literalTag, c :: rest =>
    if c = '\x5d' then some c :: none :: plainFrom (.text 0) rest
    else some c :: plainFrom .literalTag rest
  | .text count, c :: rest =>
    if c = '\\' then plainFrom (.text (count + 1)) rest
    else if c = '\x5b' then
      if !isTag rest then (backslashes (count - 1)).map some ++ some c :: plainFrom (.text 0) rest
      else
        let before := none :: (backslashes (count / 2)).map some
        if count % 2 = 1 then before ++ none :: some c :: plainFrom .literalTag rest
        else before ++ none :: plainFrom .tag rest
    else (backslashes count).map some ++ some c :: plainFrom (.text 0) rest

/-- A marked-up text without its tags, and with the symbols that are named in it. -/
def plain (text : List Char) : List Char := withSymbols none (plainFrom (.text 0) text)

/-- The characters that would move a terminal. -/
def isControl (c : Char) : Bool := [7, 8, 11, 12, 13].contains c.toNat

/-- The parts of a text between the places where a character stands. -/
def partsBetween (separator : Char) : List Char → List (List Char)
  | [] => [[]]
  | c :: rest =>
    if c = separator then [] :: partsBetween separator rest
    else Text.onFirst [c] (partsBetween separator rest)

/-- Parts with spaces in the place of the tabs between them, each up to the next stop; a stop is at
    every eighth column of the terminal. -/
def joinAtStops (column : Nat) : List (List Char) → List Char
  | [] => []
  | [part] => part
  | part :: rest =>
    let spaced := part ++ [' ']
    let reached := column + Text.columnsOf spaced
    let stop := (reached + 7) / 8 * 8
    spaced ++ List.replicate (stop - reached) ' ' ++ joinAtStops stop rest

/-- The columns of a line. -/
def lineColumns : Nat := 20000

/-- The lines that a line is written in. -/
def renderLine (line : List Char) : List (List Char) :=
  Text.wrap lineColumns (joinAtStops 0 (partsBetween '\t' line))

/-- How a marked-up text is written where nothing can be styled. -/
def render (markup : String) : String :=
  let text := (plain markup.toList).filter (!isControl ·)
  String.ofList (['\n'].intercalate ((partsBetween '\n' text).flatMap renderLine))

/-- A text in which no tag counts. -/
def literal (s : String) : String := String.ofList (escape s.toList)

end RestContract.Markup
