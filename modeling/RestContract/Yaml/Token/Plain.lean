import RestContract.Yaml.Token.Quoted

/-!
# Plain texts

Texts without quotes. They end where a comment, a value or, inside brackets, the next part of the
collection begins, and they can go on over several lines that are indented deeper than the node
around them; the line breaks in between are folded.
-/

namespace RestContract.Yaml

open Reading

/-- Whether a plain text ends at the character `c` before `next`. -/
def endsPlain (inFlow : Bool) (c next : Char) : Bool :=
  endsToken c || (c == ':' && (endsToken next || (inFlow && ",[]\x7b\x7d".contains next))) ||
    (inFlow && ",?[]\x7b\x7d".contains c)

/-- The characters of a plain text up to its end or the next blank. -/
def plainRun (inFlow : Bool) : List Char → List Char
  | [] => []
  | c :: rest =>
    if endsPlain inFlow c (rest.head?.getD endMark) then [] else c :: plainRun inFlow rest

/-- Blank lines inside a plain text; none if a mark that separates documents ends it there. -/
def readPlainBreaks : Nat → Reading (Option (List Char))
  | 0 => fail .unclosedText
  | steps + 1 => do
    if (← get).atSeparator then return none
    skipSpaces
    match ← lineBreak with
    | [] => return some []
    | first => return (← readPlainBreaks steps).map (first ++ ·)

/-- What stands between two parts of a plain text, and whether it holds a line break. There is
    nothing if no further part can follow. -/
def readPlainSpaces : Reading (List Char × Bool) := do
  let spaces ← takeWhile (· == ' ')
  match ← lineBreak with
  | [] => return (spaces, false)
  | first =>
    match ← byStep readPlainBreaks with
    | some others => return (foldBreaks first others, true)
    | none => return ([], true)

/-- The parts of a plain text from the first or from the spaces before a later one on, and whether
    the text goes over a line break. -/
def readPlainParts (inFlow : Bool) (indent : Nat) : Nat → List Char → Reading (List Char × Bool)
  | 0, _ => fail .unclosedText
  | steps + 1, spaces => do
    let part := plainRun inFlow (← get).rest
    if part.isEmpty || (← peek) == '#' then return ([], false)
    skip part.length
    let (between, broken) ← readPlainSpaces
    let isLast := between.isEmpty || (← peek) == '#' || (!inFlow && (← get).column < indent)
    if isLast then return (spaces ++ part, broken)
    let (others, later) ← readPlainParts inFlow indent steps between
    return (spaces ++ part ++ others, if others.isEmpty then broken else later)

/-- A plain text in a node of some indentation, and whether the cursor came to a new line behind
    it. -/
def readPlain (inFlow : Bool) (indent : Nat) : Reading (Token × Bool) := do
  let (text, broken) ← byStep fun steps => readPlainParts inFlow indent steps []
  return (.scalar (String.ofList text) true, broken)

end RestContract.Yaml
