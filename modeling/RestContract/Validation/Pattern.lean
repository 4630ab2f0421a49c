import RestContract.Text.Digits

/-!
# Patterns

A pattern of a schema as a regular expression between slashes: delimiters that the pattern brings
along are taken off, characters that have no place in a source line are escaped, and every slash
inside has a backslash before it.
-/

namespace RestContract.Validation.Pattern

/-- A pattern without the slashes around it. -/
def strip (pattern : List Char) : List Char :=
  match pattern with
  | '/' :: rest => if rest.getLast? = some '/' then rest.dropLast else pattern
  | _ => pattern

/-- Whether a character is written as an escape: a control character or one of the last two code
    points of the first plane. -/
def isEscaped (c : Char) : Bool :=
  c.toNat < 0x20 || (0x7f ≤ c.toNat && c.toNat ≤ 0x9f) || c.toNat == 0xfffe || c.toNat == 0xffff

/-- One character of a pattern. -/
def escapeChar (c : Char) : List Char :=
  if c = '\t' then ['\\', 't']
  else if c = '\n' then ['\\', 'n']
  else if c = '\r' then ['\\', 'r']
  else if isEscaped c then
    if c.toNat ≤ 0xff then '\\' :: 'x' :: (Text.hex 2 c.toNat).toList
    else '\\' :: 'u' :: (Text.hex 4 c.toNat).toList
  else [c]

/-- A text in which every slash has a backslash before it; `previous` is the character before the
    text. -/
def guardSlashes (previous : Option Char) : List Char → List Char
  | [] => []
  | c :: rest =>
    if c = '/' ∧ previous ≠ some '\\' then '\\' :: '/' :: guardSlashes (some c) rest
    else c :: guardSlashes (some c) rest

/-- The characters between the slashes. -/
def body (pattern : List Char) : List Char :=
  guardSlashes none ((strip pattern).flatMap escapeChar)

/-- A pattern as a regular expression. -/
def delimit (pattern : List Char) : List Char := '/' :: (body pattern ++ ['/'])

/-- A pattern as a regular expression. -/
def sanitize (pattern : String) : String := String.ofList (delimit pattern.toList)

end RestContract.Validation.Pattern
