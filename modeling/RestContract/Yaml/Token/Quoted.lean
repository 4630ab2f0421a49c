import RestContract.Text.Digits
import RestContract.Yaml.Cursor
import RestContract.Yaml.Token

/-!
# Quoted texts

Texts between quotes. Between single quotes a quote is written twice, and nothing else is special;
between double quotes a backslash starts an escape. A line break inside, with the blanks around it,
is folded: a single one is a space, and of several the first is dropped.
-/

namespace RestContract.Yaml

open Reading

/-- Line breaks as they stand in a folded text: a single line feed is a space, and of several the
    first is dropped. Other line breaks are kept. -/
def foldBreaks (first others : List Char) : List Char :=
  if first ≠ ['\n'] then first ++ others
  else if others.isEmpty then [' ']
  else others

/-- The character of an escape with one letter. -/
def simpleEscape? : Char → Option Char
  | '0' => some '\x00'
  | 'a' => some '\x07'
  | 'b' => some '\x08'
  | 't' | '\t' => some '\t'
  | 'n' => some '\n'
  | 'v' => some '\x0b'
  | 'f' => some '\x0c'
  | 'r' => some '\r'
  | 'e' => some '\x1b'
  | ' ' => some ' '
  | '"' => some '"'
  | '\\' => some '\\'
  | '/' => some '/'
  | 'N' => some '\x85'
  | '_' => some '\xa0'
  | 'L' => some '\u2028'
  | 'P' => some '\u2029'
  | _ => none

/-- The number of digits of an escape that gives the code of a character. -/
def escapeWidth? : Char → Option Nat
  | 'x' => some 2
  | 'u' => some 4
  | 'U' => some 8
  | _ => none

/-- The character of a code; a surrogate has none and is replaced. -/
def charOfCode (code : Nat) : Char :=
  if 0xd800 ≤ code ∧ code ≤ 0xdfff then '\ufffd' else Char.ofNat code

/-- The fault of a code without a character. Codes from half of the range of eight digits on are too
    large for a code. -/
def codeFault (code : Nat) : Fault := if code < 0x80000000 then .badText else .overflow

/-- The character of an escape that gives its code. -/
def readCode (width : Nat) : Reading Char := do
  let digits := ((← get).rest.take width).filterMap Text.hexValue?
  require (digits.length == width) .badEscape
  let code := Text.numberOfDigits 16 digits
  if code > 0x10ffff then throw (.fault (codeFault code))
  skip width
  return charOfCode code

/-- The line breaks after a first one, with the blanks at the start of each line passed over. The
    end of the document cannot come before the closing quote. -/
def readInnerBreaks : Nat → Reading (List Char)
  | 0 => fail .unclosedText
  | steps + 1 => do
    if (← get).atSeparator then fail .separatorInText
    skipWhile isSpaceOrTab
    match ← lineBreak with
    | [] => return []
    | first => return first ++ (← readInnerBreaks steps)

/-- Blanks inside a text; those around line breaks are not part of it. -/
def readInnerBlanks : Reading (List Char) := do
  let blanks ← takeWhile isSpaceOrTab
  match ← lineBreak with
  | [] => return blanks
  | first => return foldBreaks first (← byStep readInnerBreaks)

/-- What an escape stands for. A line break after the backslash stands for nothing, and neither do
    the blanks after it. -/
def readEscape : Reading (List Char) := do
  skip 1
  let letter ← peek
  match simpleEscape? letter, escapeWidth? letter with
  | some c, _ =>
    skip 1
    return [c]
  | none, some width =>
    skip 1
    return [← readCode width]
  | none, none =>
    match ← lineBreak with
    | [] => fail .badEscape
    | _ => byStep readInnerBreaks

/-- The characters up to the closing quote, and the quote. -/
def readQuotedRest (quote : Char) : Nat → Reading (List Char)
  | 0 => fail .unclosedText
  | steps + 1 => do
    let c ← peek
    if c == endMark then fail .unclosedText
    else if c == quote then
      if quote == '\'' && (← ahead 1) == quote then
        skip 2
        return quote :: (← readQuotedRest quote steps)
      else
        skip 1
        return []
    else if c == '\\' && quote == '"' then return (← readEscape) ++ (← readQuotedRest quote steps)
    else if isSpaceOrTab c || isBreak c then
      return (← readInnerBlanks) ++ (← readQuotedRest quote steps)
    else
      skip 1
      return c :: (← readQuotedRest quote steps)

/-- A text between quotes. -/
def readQuoted : Reading Token := do
  let quote ← peek
  skip 1
  return .scalar (String.ofList (← byStep (readQuotedRest quote))) false

end RestContract.Yaml
