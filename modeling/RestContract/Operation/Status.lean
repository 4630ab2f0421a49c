/-!
# Status codes of responses

The keys under which an operation lists its responses: a code, a family of codes that share their
first digit, or the default for all codes that are not listed.
-/

namespace RestContract

/-- The forms of a key of a response. -/
inductive StatusKind where
  | exact
  | range
  | default
  deriving DecidableEq, Repr

namespace StatusKind

def name : StatusKind → String
  | .exact => "exact"
  | .range => "range"
  | .default => "default"

/-- Whether a code can start with a character. -/
def isFamily (c : Char) : Bool := '1' ≤ c && c ≤ '5'

/-- Whether a character stands for any digit of a code. -/
def isWild (c : Char) : Bool := c == 'X' || c == 'x'

/-- A text without the line break at its end, if it has one. -/
def dropBreak (text : List Char) : List Char :=
  if text.getLast? = some '\n' then text.dropLast else text

/-- The form of a key, if it has one. A line break at the end of a code is passed over. -/
def ofChars? (text : List Char) : Option StatusKind :=
  if text = "default".toList then some .default
  else
    match dropBreak text with
    | [a, b, c] =>
      if isFamily a && isWild b && isWild c then some .range
      else if isFamily a && b.isDigit && c.isDigit then some .exact
      else none
    | _ => none

/-- The form of a key, if it has one. -/
def ofKey? (key : String) : Option StatusKind := ofChars? key.toList

end StatusKind
end RestContract
