import RestContract.Yaml.Complaint

/-!
# Places in a text

A cursor is a place in a text: what follows it, and how far it has come. Looking past the end gives
the null character, which no text of YAML holds, so the end needs no case of its own.
-/

namespace RestContract.Yaml

/-- What stands for the end of a text. -/
def endMark : Char := '\x00'

/-- The ranges of the characters that a text of YAML can hold. -/
def admittedRanges : List (Nat × Nat) :=
  [(0x09, 0x0a), (0x0d, 0x0d), (0x20, 0x7e), (0x85, 0x85), (0xa0, 0xd7ff), (0xe000, 0xfffd),
   (0x10000, 0x10ffff)]

/-- Whether a text of YAML can hold a character. -/
def isAdmitted (c : Char) : Bool :=
  admittedRanges.any fun (low, high) => low ≤ c.toNat && c.toNat ≤ high

/-- Whether a character breaks lines. -/
def isBreak (c : Char) : Bool :=
  c == '\n' || c == '\r' || c == '\x85' || c == '\u2028' || c == '\u2029'

/-- Whether a line ends at a character. -/
def endsLine (c : Char) : Bool := c == endMark || isBreak c

/-- Whether a line or a word between spaces ends at a character. -/
def endsWord (c : Char) : Bool := c == ' ' || endsLine c

/-- Whether a token ends at a character. -/
def endsToken (c : Char) : Bool := c == '\t' || endsWord c

def isSpaceOrTab (c : Char) : Bool := c == ' ' || c == '\t'

/-- Whether a character can stand in a name. -/
def isNameChar (c : Char) : Bool := c.isAlphanum || c == '-' || c == '_'

/-- A place in a text of some size. Lines and columns count from zero here. -/
structure Cursor where
  rest : List Char
  size : Nat
  index : Nat
  line : Nat
  column : Nat

namespace Cursor

/-- The start of a text. -/
def start (text : List Char) : Cursor := ⟨text, text.length, 0, 0, 0⟩

/-- The character that stands some places ahead. -/
def ahead (cursor : Cursor) (distance : Nat) : Char := cursor.rest[distance]?.getD endMark

/-- The character at the cursor. -/
def peek (cursor : Cursor) : Char := cursor.ahead 0

/-- Whether a line break is complete with the character `c` before `rest`: a carriage return waits
    for the line feed after it. -/
def completesBreak (c : Char) (rest : List Char) : Bool :=
  isBreak c && !(c == '\r' && rest.head? == some '\n')

/-- The cursor one character further. A byte order mark takes no column. -/
def next (cursor : Cursor) : Cursor :=
  match cursor.rest with
  | [] => cursor
  | c :: rest =>
    let moved := { cursor with rest, index := cursor.index + 1 }
    if completesBreak c rest then { moved with line := cursor.line + 1, column := 0 }
    else if c = '\ufeff' then moved
    else { moved with column := cursor.column + 1 }

/-- The cursor some characters further. -/
def skip (cursor : Cursor) : Nat → Cursor
  | 0 => cursor
  | count + 1 => cursor.next.skip count

/-- The characters from the cursor on that satisfy a condition. -/
def run (cursor : Cursor) (p : Char → Bool) : List Char := cursor.rest.takeWhile p

/-- The cursor after all characters that satisfy a condition. -/
def skipWhile (cursor : Cursor) (p : Char → Bool) : Cursor := cursor.skip (cursor.run p).length

/-- The cursor after the spaces at it, at most up to a column. -/
def skipSpacesTo (cursor : Cursor) (column : Nat) : Cursor :=
  let spaces := (cursor.run (· == ' ')).length
  cursor.skip (min spaces (column - cursor.column))

/-- The line break at the cursor as it stands in a value, and the cursor after it. There is none
    unless the cursor is at one. -/
def lineBreak (cursor : Cursor) : List Char × Cursor :=
  match cursor.rest with
  | '\r' :: '\n' :: _ => (['\n'], cursor.skip 2)
  | c :: _ =>
    if c = '\u2028' ∨ c = '\u2029' then ([c], cursor.next)
    else if isBreak c then (['\n'], cursor.next)
    else ([], cursor)
  | [] => ([], cursor)

/-- Whether a mark that separates documents stands at the cursor, wherever that is in its line. -/
def atSeparator (cursor : Cursor) : Bool :=
  let mark := cursor.rest.take 3
  (mark == ['-', '-', '-'] || mark == ['.', '.', '.']) && endsToken (cursor.ahead 3)

/-- The failure for a rule that is broken at the cursor. -/
def failure (cursor : Cursor) (complaint : Complaint) : Failure :=
  .placed complaint (cursor.line + 1) (cursor.column + 1)

/-- Enough steps for any way to read the rest of the text that takes a character with each step. -/
def steps (cursor : Cursor) : Nat := cursor.size - cursor.index + 1

end Cursor

/-- Reads a part of a text from a cursor on, and moves the cursor behind it. -/
abbrev Reading := StateT Cursor (Except Failure)

namespace Reading

/-- Stops reading. -/
def fail {α : Type} (complaint : Complaint) : Reading α := do
  throw ((← get).failure complaint)

/-- Stops reading unless a condition holds. -/
def require (condition : Bool) (complaint : Complaint) : Reading Unit :=
  if condition then pure () else fail complaint

/-- The character some places ahead. -/
def ahead (distance : Nat) : Reading Char := return (← get).ahead distance

/-- The character at the cursor. -/
def peek : Reading Char := ahead 0

/-- Passes over some characters. -/
def skip (count : Nat) : Reading Unit := modify (·.skip count)

/-- Passes over all characters that satisfy a condition. -/
def skipWhile (p : Char → Bool) : Reading Unit := modify (·.skipWhile p)

/-- Reads all characters that satisfy a condition. -/
def takeWhile (p : Char → Bool) : Reading (List Char) := do
  let run := (← get).run p
  skip run.length
  return run

/-- Reads a line break, as it stands in a value, if there is one. -/
def lineBreak : Reading (List Char) := modifyGet (·.lineBreak)

/-- Passes over the spaces before a column. -/
def skipSpacesTo (column : Nat) : Reading Unit := modify (·.skipSpacesTo column)

/-- Passes over spaces. -/
def skipSpaces : Reading Unit := skipWhile (· == ' ')

/-- Passes over a comment and the end of its line, before which there is nothing else. -/
def skipLineEnd (complaint : Complaint) : Reading Unit := do
  skipSpaces
  if (← peek) == '#' then skipWhile (!endsLine ·)
  require (endsLine (← peek)) complaint
  let _ ← lineBreak

/-- Reads by steps, of which there are enough for the rest of the text. -/
def byStep {α : Type} (read : Nat → Reading α) : Reading α := do read (← get).steps

end Reading
end RestContract.Yaml
