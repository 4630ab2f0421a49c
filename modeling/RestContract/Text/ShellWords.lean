/-!
# Words of a command line

A command line as its words, which are separated by blanks. Quotes and backslashes take characters
literally: everything between single quotes, between double quotes everything but a backslash before
a double quote or a backslash, and elsewhere the character after a backslash.
-/

namespace RestContract.Text

/-- Where reading stands in a command line. -/
inductive ShellState where
  /-- Between two words. -/
  | between
  /-- In a word. -/
  | word
  /-- Between single or double quotes in a word. -/
  | quoted (mark : Char)
  /-- After a backslash in a word. -/
  | escaped
  /-- After a backslash between double quotes. -/
  | quotedEscape
  deriving DecidableEq, Repr

def isShellBlank (c : Char) : Bool := c == ' ' || c == '\t' || c == '\r' || c == '\n'

/-- The state after a character that starts or continues a word, and the characters that it adds. -/
def shellStep (c : Char) : ShellState × List Char :=
  if c = '\\' then (.escaped, [])
  else if c = '"' ∨ c = '\'' then (.quoted c, [])
  else (.word, [c])

/-- The words of a command line from a state on, where `word` holds the characters of the word so
    far. There are none if the line ends between quotes or after a backslash. -/
def shellWordsFrom (state : ShellState) (word : List Char) : List Char → Option (List (List Char))
  | [] =>
    match state with
    | .between => some []
    | .word => some [word]
    | _ => none
  | c :: rest =>
    match state with
    | .between =>
      if isShellBlank c then shellWordsFrom .between [] rest
      else
        let (next, added) := shellStep c
        shellWordsFrom next added rest
    | .word =>
      if isShellBlank c then (shellWordsFrom .between [] rest).map (word :: ·)
      else
        let (next, added) := shellStep c
        shellWordsFrom next (word ++ added) rest
    | .quoted mark =>
      if c = mark then shellWordsFrom .word word rest
      else if c = '\\' ∧ mark = '"' then shellWordsFrom .quotedEscape word rest
      else shellWordsFrom (.quoted mark) (word ++ [c]) rest
    | .escaped => shellWordsFrom .word (word ++ [c]) rest
    | .quotedEscape =>
      let kept := if c = '"' ∨ c = '\\' then [c] else ['\\', c]
      shellWordsFrom (.quoted '"') (word ++ kept) rest

/-- The words of a command line, if all its quotes are closed and its last character is not taken
    literally by a backslash alone. -/
def shellWords? (line : String) : Option (List String) :=
  (shellWordsFrom .between [] line.toList).map (·.map String.ofList)

end RestContract.Text
