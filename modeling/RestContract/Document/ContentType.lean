import RestContract.Text.Blank
import RestContract.Text.Charset

/-!
# Content types

What comes with an address says of its content: a type, and parameters behind it, of which one names
the character set. Semicolons separate the parts, and one between quotes separates nothing.
-/

namespace RestContract.Document.ContentType

/-- The parts of a content type. `quoted` tells whether a quote is open, and `escaped` whether the
    last character was a backslash. -/
def partsFrom (quoted escaped : Bool) : List Char → List (List Char)
  | [] => [[]]
  | c :: rest =>
    let turned := quoted != (c == '"' && !escaped)
    let others := partsFrom (if c = ';' && !quoted then false else turned) (c == '\\') rest
    if c = ';' && !quoted then [] :: others
    else
      match others with
      | part :: more => (c :: part) :: more
      | [] => [[c]]

/-- A part before its first equals sign, and what follows the sign. -/
def nameAndValue (part : List Char) : List Char × List Char :=
  match part.span (· != '=') with
  | (name, _ :: value) => ((Text.trim name).map Char.toLower, Text.trim value)
  | (name, []) => ((Text.trim name).map Char.toLower, [])

/-- A text without the quotes or the angles around it. -/
def unquote (text : List Char) : List Char :=
  match text, text.getLast? with
  | '"' :: _ :: _, some '"' => text.drop 1 |>.dropLast
  | '<' :: _ :: _, some '>' => text.drop 1 |>.dropLast
  | text, _ => text

/-- The value of a parameter. -/
def parameter? (contentType name : String) : Option String :=
  let parameters := (partsFrom false false contentType.toList).map nameAndValue
  (parameters.lookup name.toList).map fun value => String.ofList (unquote value)

/-- The character set that a content type names, if it is known. -/
def charset? (contentType : String) : Option Text.Charset :=
  (parameter? contentType "charset").bind Text.Charset.ofName?

end RestContract.Document.ContentType
