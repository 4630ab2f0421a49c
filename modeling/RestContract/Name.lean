/-!
# Names

The names of a generated module. A schema keeps the name of its component, with every character
replaced that no identifier may hold. An operation takes the words of its own name or of its path,
written as one word in which every word but the first starts with a capital letter. Words are made
of ASCII letters and digits; all other characters only separate them.
-/

namespace RestContract.Name

/-- Whether a character belongs to a word. -/
def isWordChar (c : Char) : Bool := c.isAlpha || c.isDigit

/-- Whether the character `d` continues the word of the character `c` before it, where `next` stands
    after `d`. Digits stay together, small letters stay together, and a capital letter goes with
    the small letters after it; a run of capitals is a word up to the last one that does not. -/
def joins (c d : Char) (next : Option Char) : Bool :=
  (c.isDigit && d.isDigit) || (c.isLower && d.isLower) || (c.isUpper && d.isLower) ||
    (c.isUpper && d.isUpper && !(next.any Char.isLower))

/-- Whether the word of `c` goes on with the first character of `rest`. -/
def joinsNext (c : Char) (rest : List Char) : Bool :=
  match rest with
  | [] => false
  | d :: more => joins c d more.head?

/-- The first word with one more letter in front. -/
def pushFront (c : Char) : List (List Char) → List (List Char)
  | [] => [[c]]
  | word :: words => (c :: word) :: words

/-- The words of a text. -/
def words : List Char → List (List Char)
  | [] => []
  | c :: rest =>
    if isWordChar c then
      if joinsNext c rest then pushFront c (words rest) else [c] :: words rest
    else words rest

/-- A word in small letters. -/
def lower (word : List Char) : List Char := word.map Char.toLower

/-- A word in small letters but for a capital letter at its start. -/
def capitalize : List Char → List Char
  | [] => []
  | c :: rest => c.toUpper :: lower rest

/-- The words of a text as one word, the first one in small letters and the others capitalized. -/
def camelChars (text : List Char) : List Char :=
  match words text with
  | [] => []
  | first :: rest => lower first ++ rest.flatMap capitalize

/-- The words of a text as one word. -/
def camelCase (text : String) : String := String.ofList (camelChars text.toList)

/-- The characters of a path in which the start of a parameter separates words like a slash or a
    point does, and its end does not. -/
def pathChars (path : List Char) : List Char :=
  (path.map fun c => if c = '/' ∨ c = '.' ∨ c = '\x7b' then '-' else c).filter (· != '\x7d')

/-- The name that a path gives. -/
def ofPath (path : String) : String := String.ofList (camelChars (pathChars path.toList))

/-- Whether a character may stand in an identifier. -/
def isIdentifierChar (c : Char) : Bool := c.isAlpha || c.isDigit || c == '_' || c == '$'

/-- Whether an identifier may start with a character. -/
def isIdentifierStart (c : Char) : Bool := c.isAlpha || c == '_' || c == '$'

/-- A text with an underscore in the place of every character that no identifier may hold, and one
    more in front where no identifier may start. -/
def identifierChars (text : List Char) : List Char :=
  let replaced := text.map fun c => if isIdentifierChar c then c else '_'
  if replaced.head?.any isIdentifierStart then replaced else '_' :: replaced

/-- The identifier that a name gives. -/
def identifier (name : String) : String := String.ofList (identifierChars name.toList)

end RestContract.Name
