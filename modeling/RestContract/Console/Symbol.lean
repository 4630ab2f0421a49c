import RestContract.Console.Symbol.Table
import RestContract.Text.Blank

/-!
# Named symbols

Symbols that a marked-up text can name: a name between two colons stands for the symbol, in any case
of letters. A name that ends with `-text` or `-emoji` asks for the symbol in one of its two shapes.
Other names stand for themselves.
-/

namespace RestContract.Markup

/-- A text in words, which single blanks separate. -/
def wordsOf (text : List Char) : List (List Char) :=
  text.foldr (fun c words =>
    match words with
    | word :: others => if c = ' ' then [] :: word :: others else (c :: word) :: others
    | [] => if c = ' ' then [[], []] else [[c]]) [[]]

/-- Words in pairs. -/
def inPairs : List (List Char) → List (List Char × List Char)
  | name :: symbol :: rest => (name, symbol) :: inPairs rest
  | _ => []

/-- The symbols of rows, by name. -/
def symbolsOf (rows : List String) : List (List Char × List Char) :=
  rows.flatMap fun row => inPairs (wordsOf row.toList)

/-- The symbols of one look, and those that come in several tones. -/
def shown : List (List Char × List Char) := symbolsOf shownRows
def toned : List (List Char × List Char) := symbolsOf tonedRows

/-- The tones of a skin, by the ends of the names that ask for them. -/
def tones : List (String × Char) :=
  [("_light_skin_tone", '🏻'), ("_medium-light_skin_tone", '🏼'), ("_medium_skin_tone", '🏽'),
   ("_medium-dark_skin_tone", '🏾'), ("_dark_skin_tone", '🏿')]

/-- A symbol in a tone, which follows its first character in the place of a choice of shape. -/
def withTone (tone : Char) : List Char → List Char
  | first :: '\ufe0f' :: rest => first :: tone :: rest
  | first :: rest => first :: tone :: rest
  | [] => []

/-- A name without its end, if it has this end. -/
def dropEnd? (ending name : List Char) : Option (List Char) :=
  if ending.isSuffixOf name then some (name.take (name.length - ending.length)) else none

/-- The symbol of a name that asks for a tone. -/
def tonedSymbol? (name : List Char) : Option (List Char) :=
  tones.findSome? fun (ending, tone) =>
    ((dropEnd? ending.toList name).bind fun base => List.lookup base toned).map (withTone tone)

/-- The symbol of a name. -/
def symbol? (name : List Char) : Option (List Char) :=
  ((List.lookup name shown).or (List.lookup name toned)).or (tonedSymbol? name)

/-- The letters beyond ASCII that occur in names, by their capital forms. The signs of two units
    look like letters and count as such. -/
def capitals : List (Char × Char) :=
  [('Ã', 'ã'), ('Å', 'å'), ('Ç', 'ç'), ('É', 'é'), ('Í', 'í'), ('Ô', 'ô'), ('\u212a', 'k'),
   ('\u212b', 'å')]

/-- A letter of a name in its small form. -/
def smallLetter (c : Char) : Char := (List.lookup c capitals).getD c.toLower

/-- The shapes that a name can ask for, by its end, and the characters that choose them. -/
def shapes : List (String × String) := [("-text", "\ufe0e"), ("-emoji", "\ufe0f")]

/-- A name without the end that asks for a shape, and the character that chooses it. -/
def splitShape (name : List Char) : List Char × List Char :=
  let asked := shapes.findSome? fun (ending, shape) =>
    (dropEnd? ending.toList name).map (·, shape.toList)
  asked.getD (name, [])

/-- What a name between two colons stands for. -/
def namedSymbol (name : List Char) : List Char :=
  let (base, shape) := splitShape name
  match symbol? (base.map smallLetter) with
  | some symbol => symbol ++ shape
  | none => ':' :: name ++ [':']

/-- A text with the symbols that are named in it, where nothing marks the end of a piece: a name
    lies in one piece and has no blanks. `name` holds the characters after the last colon, the last
    one first, if they may still be a name. -/
def withSymbols : Option (List Char) → List (Option Char) → List Char
  | none, [] => []
  | some name, [] => ':' :: name.reverse
  | none, none :: rest => withSymbols none rest
  | some name, none :: rest => ':' :: name.reverse ++ withSymbols none rest
  | none, some c :: rest =>
    if c = ':' then withSymbols (some []) rest else c :: withSymbols none rest
  | some name, some c :: rest =>
    if c = ':' then namedSymbol name.reverse ++ withSymbols none rest
    else if Text.isBlank c then ':' :: name.reverse ++ c :: withSymbols none rest
    else withSymbols (some (c :: name)) rest

end RestContract.Markup
