import RestContract.Text.Encoding
import RestContract.Yaml.Cursor
import RestContract.Yaml.Token

/-!
# Directives and properties

How directives, anchors, aliases and tags are written.
-/

namespace RestContract.Yaml

open Reading

/-- A name, which has at least one character. -/
def readName (complaint : Complaint) : Reading String := do
  let name ← takeWhile isNameChar
  require (!name.isEmpty) complaint
  return String.ofList name

/-- What may follow an anchor or an alias. -/
def endsAnchor (c : Char) : Bool := endsToken c || "?:,]\x7d%@\x60".contains c

/-- The name of an anchor or an alias with the mark before it. -/
def readAnchor : Reading String := do
  skip 1
  let name ← readName .badName
  require (endsAnchor (← peek)) .badName
  return name

/-- Whether a character can stand in a tag as it is. -/
def isTagChar (c : Char) : Bool := c.isAlphanum || "-;/?:@&=+$,_.!~*'()[]".contains c

/-- The bytes that escapes of a tag stand for. -/
def readTagBytes : Nat → Reading (List Nat)
  | 0 => fail .badTag
  | steps + 1 => do
    if (← peek) != '%' then return []
    match Text.hexValue? (← ahead 1), Text.hexValue? (← ahead 2) with
    | some high, some low =>
      skip 3
      return (high * 16 + low) :: (← readTagBytes steps)
    | _, _ => fail .badTag

/-- The characters that escapes of a tag stand for: the escaped bytes are the encoding of a text. -/
def readTagEscapes : Reading (List Char) := do
  match Text.decode (← byStep readTagBytes) with
  | .ok text => return text
  | .error _ => fail .badTag

/-- The characters of a tag. -/
def readTagChars : Nat → Reading (List Char)
  | 0 => fail .badTag
  | steps + 1 => do
    let c ← peek
    if isTagChar c then
      skip 1
      return c :: (← readTagChars steps)
    else if c == '%' then return (← readTagEscapes) ++ (← readTagChars steps)
    else return []

/-- The text of a tag after its handle, which has at least one character. -/
def readTagText : Reading String := do
  let text ← byStep readTagChars
  require (!text.isEmpty) .badTag
  return String.ofList text

/-- A handle: exclamation marks around a name that may be missing, or a single one before a
    space. -/
def readHandle : Reading String := do
  require ((← peek) == '!') .badTag
  skip 1
  if (← peek) == ' ' then return "!"
  let name ← takeWhile isNameChar
  require ((← peek) == '!') .badTag
  skip 1
  return String.ofList ('!' :: name ++ ['!'])

/-- The handle that is a single mark. -/
def readMark : Reading String := do
  skip 1
  return "!"

/-- A tag in its short form. It has a handle with a name if there is a second mark in its word. -/
def readShortTag : Reading Token := do
  let word := (← get).next.run (!endsWord ·)
  let handle ← if word.contains '!' then readHandle else readMark
  return .tag (some handle) (← readTagText)

/-- A tag that is given in full, between angle brackets. -/
def readFullTag : Reading Token := do
  skip 2
  let tag ← readTagText
  require ((← peek) == '>') .badTag
  skip 1
  return .tag none tag

/-- The mark of a tag that stands alone, which is a tag too. -/
def readLoneTag : Reading Token := return .tag none (← readMark)

/-- A tag. -/
def readTag : Reading Token := do
  let first ← ahead 1
  let tag ← if first == '<' then readFullTag
    else if endsToken first then readLoneTag
    else readShortTag
  require (endsWord (← peek)) .badTag
  return tag

/-- A number of a version. -/
def readVersionNumber : Reading Nat := do
  let digits ← takeWhile Char.isDigit
  require (!digits.isEmpty) .badDirective
  if digits.length > Text.maxDigits then throw (.fault .badText)
  return Text.naturalOf digits

/-- The two numbers of a version. -/
def readVersion : Reading Directive := do
  skipSpaces
  let major ← readVersionNumber
  require ((← peek) == '.') .badDirective
  skip 1
  let minor ← readVersionNumber
  require (endsWord (← peek)) .badDirective
  return .version major minor

/-- A handle and what it stands for. -/
def readHandleDirective : Reading Directive := do
  skipSpaces
  let handle ← readHandle
  require ((← peek) == ' ') .badDirective
  skipSpaces
  let expansion ← readTagText
  require (endsWord (← peek)) .badDirective
  return .handle handle expansion

/-- A directive without a meaning here. -/
def readOtherDirective : Reading Directive := do
  skipWhile (!endsLine ·)
  return .other

/-- A directive with the end of its line. -/
def readDirective : Reading Token := do
  skip 1
  let name ← readName .badDirective
  require (endsWord (← peek)) .badDirective
  let directive ← if name == "YAML" then readVersion
    else if name == "TAG" then readHandleDirective
    else readOtherDirective
  skipLineEnd .badDirective
  return .directive directive

end RestContract.Yaml
