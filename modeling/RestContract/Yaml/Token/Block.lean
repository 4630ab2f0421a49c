import RestContract.Text.Digits
import RestContract.Yaml.Token.Quoted

/-!
# Blocks of text

Texts that are set apart by their indentation. In a literal block line breaks are kept; in a folded
one a line break between two lines that do not start with a blank is folded. A header says which of
the two it is, whether the line breaks at the end are kept, and how far the block is indented, if
its first line does not show that.
-/

namespace RestContract.Yaml

open Reading

/-- What becomes of the line breaks at the end of a block. -/
inductive Chomping where
  /-- All are dropped. -/
  | strip
  /-- One is kept. -/
  | clip
  /-- All are kept. -/
  | keep
  deriving DecidableEq, Repr

/-- The header of a block. -/
structure BlockHeader where
  folded : Bool
  chomping : Chomping
  /-- The indentation that the header gives, beyond that of the node around the block. -/
  increment : Option Nat

/-- The mark for the end of a block, if there is one. -/
def readChomping : Reading (Option Chomping) := do
  let c ← peek
  if c == '+' then
    skip 1
    return some .keep
  else if c == '-' then
    skip 1
    return some .strip
  else return none

/-- The indentation, if there is one. It is a digit other than zero. -/
def readIncrement : Reading (Option Nat) := do
  let c ← peek
  if c.isDigit then
    require (c != '0') .badBlockHeader
    skip 1
    return Text.hexValue? c
  else return none

/-- The header of a block, where the two marks can come in either order, with the end of its
    line. -/
def readBlockHeader : Reading BlockHeader := do
  let folded := (← peek) == '>'
  skip 1
  let before ← readChomping
  let increment ← readIncrement
  let after ← if before.isNone && increment.isSome then readChomping else pure none
  require (endsWord (← peek)) .badBlockHeader
  skipLineEnd .badBlockHeader
  return { folded, chomping := (before.or after).getD .clip, increment }

/-- Blank lines before the first line of a block, and the largest number of spaces in front of one
    of them and of the first line. -/
def readLeadingBreaks : Nat → Nat → Reading (List Char × Nat)
  | 0, _ => fail .badBlockHeader
  | steps + 1, width => do
    skipSpaces
    let width := max width (← get).column
    match ← lineBreak with
    | [] => return ([], width)
    | first =>
      let (others, width) ← readLeadingBreaks steps width
      return (first ++ others, width)

/-- Blank lines inside a block of a given indentation, with the indentation of the next line. -/
def readBreaks (indent : Nat) : Nat → Reading (List Char)
  | 0 => fail .badBlockHeader
  | steps + 1 => do
    skipSpacesTo indent
    match ← lineBreak with
    | [] => return []
    | first => return first ++ (← readBreaks indent steps)

/-- The blank lines before a block and its indentation, which lies beyond that of the node around
    it. -/
def readIndentation (header : BlockHeader) (least : Nat) : Reading (List Char × Nat) :=
  match header.increment with
  | some increment => do
    let indent := least + increment - 1
    return (← byStep (readBreaks indent), indent)
  | none => do
    let (breaks, width) ← byStep fun steps => readLeadingBreaks steps 0
    return (breaks, max least width)

/-- Line breaks between two lines of a block. -/
def joinLines (folds : Bool) (first others : List Char) : List Char :=
  if folds && first == ['\n'] then (if others.isEmpty then [' '] else others) else first ++ others

/-- Line breaks at the end of a block. -/
def closeLines (chomping : Chomping) (first others : List Char) : List Char :=
  match chomping with
  | .strip => []
  | .clip => first
  | .keep => first ++ others

/-- Whether the cursor is at a line of a block. -/
def atBlockLine (indent : Nat) : Reading Bool := do
  let cursor ← get
  return cursor.column == indent && cursor.peek != endMark

/-- The lines of a block from a line of it on. -/
def readBlockLines (header : BlockHeader) (indent : Nat) : Nat → Reading (List Char)
  | 0 => fail .badBlockHeader
  | steps + 1 => do
    let indented := isSpaceOrTab (← peek)
    let line ← takeWhile (!endsLine ·)
    let first ← lineBreak
    let others ← byStep (readBreaks indent)
    if ← atBlockLine indent then
      let folds := header.folded && !indented && !isSpaceOrTab (← peek)
      return line ++ joinLines folds first others ++ (← readBlockLines header indent steps)
    else return line ++ closeLines header.chomping first others

/-- A block of text in a node of some indentation. A block without lines consists of the blank lines
    that stand for it. -/
def readBlock (least : Nat) : Reading Token := do
  let header ← readBlockHeader
  let (leading, indent) ← readIndentation header least
  let text ← if ← atBlockLine indent then
      (leading ++ ·) <$> byStep (readBlockLines header indent)
    else pure (closeLines header.chomping [] leading)
  return .scalar (String.ofList text) false

end RestContract.Yaml
