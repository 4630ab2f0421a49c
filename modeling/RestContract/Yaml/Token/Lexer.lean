import RestContract.Yaml.Token.Block
import RestContract.Yaml.Token.Plain
import RestContract.Yaml.Token.Property

/-!
# Tokens of a text

The row of tokens that a text is made of. A key is only recognized by the colon after it, so the
place of everything that could be a key is kept for a while, and the tokens that mark it as one are
put there afterwards. A possible key stays on its line and is not longer than 1024 characters.
-/

namespace RestContract.Yaml

/-- The place of something that may turn out to be a key. -/
structure PossibleKey where
  /-- The number of tokens before it. -/
  position : Nat
  /-- Whether nothing but a key can stand there. -/
  required : Bool
  index : Nat
  line : Nat
  column : Nat

/-- The reading of tokens at some place. -/
structure Lexer where
  cursor : Cursor
  /-- The tokens so far, the last one first, and their number. -/
  tokens : List Placed
  count : Nat
  /-- The possible key of the innermost collection. -/
  key : Option PossibleKey
  /-- The possible keys of the collections around each open bracket, the innermost first. -/
  outer : List (Option PossibleKey)
  /-- The column of the innermost open collection in block form, and those of the ones around it. -/
  indent : Int
  indents : List Int
  /-- Whether a key without its own mark can start at the cursor. -/
  keyAllowed : Bool

namespace Lexer

/-- The start of a text. -/
def start (text : List Char) : Lexer :=
  { cursor := Cursor.start text, tokens := [], count := 0, key := none, outer := [], indent := -1,
    indents := [], keyAllowed := true }

/-- Whether a bracket is open. -/
def inFlow (lexer : Lexer) : Bool := !lexer.outer.isEmpty

/-- The column of the cursor. -/
def column (lexer : Lexer) : Int := lexer.cursor.column

/-- The lexer with one more token, which starts at the cursor. -/
def emit (lexer : Lexer) (token : Token) : Lexer :=
  { lexer with
    tokens := ⟨token, lexer.cursor.line, lexer.cursor.column⟩ :: lexer.tokens
    count := lexer.count + 1 }

/-- The lexer with one more token at the place of a possible key. -/
def emitAt (lexer : Lexer) (key : PossibleKey) (token : Token) : Lexer :=
  let later := lexer.count - key.position
  { lexer with
    tokens := lexer.tokens.take later ++ ⟨token, key.line, key.column⟩ :: lexer.tokens.drop later
    count := lexer.count + 1 }

/-- The lexer with a token read at the cursor, which moves behind it. -/
def take (lexer : Lexer) (read : Reading Token) : Except Failure Lexer := do
  let (token, cursor) ← read.run lexer.cursor
  return { lexer.emit token with cursor }

/-- The lexer with a token of some characters. -/
def takeMark (lexer : Lexer) (token : Token) (length : Nat) : Lexer :=
  { lexer.emit token with cursor := lexer.cursor.skip length }

/-- Gives up the possible key of the innermost collection. -/
def dropKey (lexer : Lexer) : Except Failure Lexer :=
  if lexer.key.any (·.required) then .error (lexer.cursor.failure .missingColon)
  else .ok { lexer with key := none }

/-- Keeps the place of the cursor as that of a possible key. -/
def offerKey (lexer : Lexer) : Except Failure Lexer := do
  if !lexer.keyAllowed then return lexer
  let lexer ← lexer.dropKey
  return { lexer with
    key := some {
      position := lexer.count, required := !lexer.inFlow && lexer.indent == lexer.column
      index := lexer.cursor.index, line := lexer.cursor.line, column := lexer.cursor.column } }

/-- Whether something can no longer be a key when the cursor has come to a place. -/
def PossibleKey.isStale (key : PossibleKey) (cursor : Cursor) : Bool :=
  key.line != cursor.line || cursor.index - key.index > 1024

/-- Gives up a possible key that can no longer be one. -/
def refresh (cursor : Cursor) : Option PossibleKey → Except Failure (Option PossibleKey)
  | none => .ok none
  | some key =>
    if PossibleKey.isStale key cursor then
      if key.required then .error (cursor.failure .missingColon) else .ok none
    else .ok (some key)

/-- Gives up all possible keys that can no longer be ones. -/
def dropStale (lexer : Lexer) : Except Failure Lexer := do
  return { lexer with
    key := ← refresh lexer.cursor lexer.key
    outer := ← lexer.outer.mapM (refresh lexer.cursor) }

/-- Closes the collections in block form that are indented deeper than a column, of those in
    `indents`. -/
def closeDeeper (column : Int) (lexer : Lexer) : List Int → Lexer
  | [] => lexer
  | outside :: others =>
    if lexer.indent > column then
      closeDeeper column { lexer.emit .blockEnd with indent := outside, indents := others } others
    else lexer

/-- Closes the collections in block form that are indented deeper than a column, unless a bracket is
    open. -/
def closeBlocks (lexer : Lexer) (column : Int) : Lexer :=
  if lexer.inFlow then lexer else closeDeeper column lexer lexer.indents

/-- Opens a collection at a column with the given function, if it is indented deeper than the one
    around it. -/
def openBlock (lexer : Lexer) (column : Int) (emit : Lexer → Lexer) : Lexer :=
  if lexer.indent < column then
    { emit lexer with indent := column, indents := lexer.indent :: lexer.indents }
  else lexer

/-- The lexer after the blanks and comments at the cursor. A key can start on a new line, but inside
    brackets a line break means nothing. -/
def skipBlanks : Nat → Lexer → Lexer
  | 0, lexer => lexer
  | steps + 1, lexer =>
    let spaced := lexer.cursor.skipWhile (· == ' ')
    let cursor := if spaced.peek = '#' then spaced.skipWhile (!endsLine ·) else spaced
    match cursor.lineBreak with
    | ([], _) => { lexer with cursor }
    | (_, cursor) =>
      skipBlanks steps { lexer with cursor, keyAllowed := lexer.keyAllowed || !lexer.inFlow }

/-- The lexer before the next token. A byte order mark at the start of the text is passed over. -/
def toNext (lexer : Lexer) : Except Failure Lexer := do
  let cursor := lexer.cursor
  let marked := cursor.index == 0 && cursor.peek == '\ufeff'
  let lexer := { lexer with cursor := if marked then cursor.next else cursor }
  let lexer ← (skipBlanks lexer.cursor.steps lexer).dropStale
  return lexer.closeBlocks lexer.column

/-- Ends everything that is open before something that stands outside all documents. -/
def leaveDocument (lexer : Lexer) : Except Failure Lexer := do
  let lexer ← (lexer.closeBlocks (-1)).dropKey
  return { lexer with keyAllowed := false }

/-- A mark that opens a collection in brackets. -/
def takeOpening (lexer : Lexer) (token : Token) : Except Failure Lexer := do
  let lexer ← lexer.offerKey
  let inner := { lexer with outer := lexer.key :: lexer.outer, key := none, keyAllowed := true }
  return inner.takeMark token 1

/-- A mark that closes a collection in brackets. -/
def takeClosing (lexer : Lexer) (token : Token) : Except Failure Lexer := do
  let lexer ← lexer.dropKey
  let around := { lexer with
    key := lexer.outer.head?.getD none, outer := lexer.outer.tail, keyAllowed := false }
  return around.takeMark token 1

/-- A comma inside brackets. -/
def takeComma (lexer : Lexer) : Except Failure Lexer := do
  let lexer ← { lexer with keyAllowed := true }.dropKey
  return lexer.takeMark .flowEntry 1

/-- The lexer in a collection of block form that a mark at the cursor belongs to. Outside brackets
    such a mark stands where a key could. -/
def enterBlock (lexer : Lexer) (start : Token) (complaint : Complaint) : Except Failure Lexer :=
  if lexer.inFlow then .ok lexer
  else if !lexer.keyAllowed then .error (lexer.cursor.failure complaint)
  else .ok (lexer.openBlock lexer.column (·.emit start))

/-- The mark of an item of a sequence in block form. -/
def takeEntry (lexer : Lexer) : Except Failure Lexer := do
  let lexer ← lexer.enterBlock .blockSequenceStart .misplacedEntry
  let lexer ← { lexer with keyAllowed := true }.dropKey
  return lexer.takeMark .blockEntry 1

/-- The mark of a key. -/
def takeKey (lexer : Lexer) : Except Failure Lexer := do
  let lexer ← lexer.enterBlock .blockMappingStart .misplacedKey
  let lexer ← { lexer with keyAllowed := !lexer.inFlow }.dropKey
  return lexer.takeMark .key 1

/-- The lexer in which a possible key is a key. -/
def confirm (lexer : Lexer) (key : PossibleKey) : Lexer :=
  let lexer := { lexer with key := none, keyAllowed := false }.emitAt key .key
  if lexer.inFlow then lexer
  else lexer.openBlock key.column (·.emitAt key .blockMappingStart)

/-- The mark of a value. Its key is the possible key, or else one with a mark of its own. -/
def takeValue (lexer : Lexer) : Except Failure Lexer := do
  match lexer.key with
  | some key => return (lexer.confirm key).takeMark .value 1
  | none =>
    let lexer ← lexer.enterBlock .blockMappingStart .misplacedValue
    let lexer ← { lexer with keyAllowed := !lexer.inFlow }.dropKey
    return lexer.takeMark .value 1

/-- A token that can be the start of a key. -/
def takePart (lexer : Lexer) (read : Reading Token) : Except Failure Lexer := do
  let lexer ← lexer.offerKey
  { lexer with keyAllowed := false }.take read

/-- A block of text. A key can follow it. -/
def takeBlock (lexer : Lexer) : Except Failure Lexer := do
  let lexer ← { lexer with keyAllowed := true }.dropKey
  lexer.take (readBlock (max 1 (lexer.indent + 1)).toNat)

/-- A plain text. A key can follow it on a new line. -/
def takePlain (lexer : Lexer) : Except Failure Lexer := do
  let lexer ← lexer.offerKey
  let ((token, broken), cursor) ←
    (readPlain lexer.inFlow (lexer.indent + 1).toNat).run lexer.cursor
  return { lexer.emit token with cursor, keyAllowed := broken }

/-- A mark or a directive that stands outside all documents. -/
def takeOutside (lexer : Lexer) (read : Reading Token) : Except Failure Lexer := do
  (← lexer.leaveDocument).take read

/-- Reads a mark that separates documents. -/
def readSeparator (token : Token) : Reading Token := do
  Reading.skip 3
  return token

def readAliasToken : Reading Token := return .aliasOf (← readAnchor)

def readAnchorToken : Reading Token := return .anchor (← readAnchor)

/-- Whether a plain text can start with the character `c` before `next`. -/
def startsPlain (inFlow : Bool) (c next : Char) : Bool :=
  !(endsToken c || "-?:,[]\x7b\x7d#&*!|>'\"%@\x60".contains c) ||
    (!endsToken next && (c == '-' || (!inFlow && (c == '?' || c == ':'))))

/-- The lexer after the next token, which starts at the cursor. -/
def takeToken (lexer : Lexer) : Except Failure Lexer :=
  let c := lexer.cursor.peek
  let next := lexer.cursor.ahead 1
  let lineStart := lexer.cursor.column == 0
  let apart := lexer.inFlow || endsToken next
  if lineStart && c == '%' then lexer.takeOutside readDirective
  else if lineStart && lexer.cursor.atSeparator then
    lexer.takeOutside (readSeparator (if c = '-' then .documentStart else .documentEnd))
  else if c = '\x5b' then lexer.takeOpening .flowSequenceStart
  else if c = '\x7b' then lexer.takeOpening .flowMappingStart
  else if c = '\x5d' then lexer.takeClosing .flowSequenceEnd
  else if c = '\x7d' then lexer.takeClosing .flowMappingEnd
  else if c = ',' then lexer.takeComma
  else if c = '-' ∧ endsToken next then lexer.takeEntry
  else if c = '?' ∧ apart then lexer.takeKey
  else if c = ':' ∧ apart then lexer.takeValue
  else if c = '*' then lexer.takePart readAliasToken
  else if c = '&' then lexer.takePart readAnchorToken
  else if c = '!' then lexer.takePart readTag
  else if (c = '|' ∨ c = '>') ∧ !lexer.inFlow then lexer.takeBlock
  else if c = '\'' ∨ c = '"' then lexer.takePart readQuoted
  else if startsPlain lexer.inFlow c next then lexer.takePlain
  else .error (lexer.cursor.failure .strayCharacter)

/-- The tokens of a lexer in their order. -/
def allTokens (lexer : Lexer) : List Placed := lexer.tokens.reverse

/-- The earliest place of a possible key. -/
def earliestKey? (lexer : Lexer) : Option PossibleKey :=
  ((lexer.key :: lexer.outer).filterMap id).getLast?

/-- The tokens of a lexer and the failure that ended them. What follows the earliest place of a
    possible key depends on the text behind it, so the failure stands there. -/
def failed (lexer : Lexer) (failure : Failure) : List Placed :=
  match lexer.earliestKey? with
  | some key => (lexer.emitAt key (.failed failure)).allTokens
  | none => (lexer.emit (.failed failure)).allTokens

/-- All tokens from a place on. The steps bound the number of tokens. -/
def run : Nat → Lexer → List Placed
  | 0, lexer => lexer.failed (lexer.cursor.failure .strayCharacter)
  | steps + 1, lexer =>
    match lexer.toNext with
    | .error e => lexer.failed e
    | .ok lexer =>
      if lexer.cursor.peek = endMark then
        match lexer.leaveDocument with
        | .error e => lexer.failed e
        | .ok lexer => lexer.allTokens
      else
        match lexer.takeToken with
        | .error e => lexer.failed e
        | .ok lexer => run steps lexer

end Lexer

/-- The tokens of a text. A text that breaks a rule has the tokens before the place where it does,
    and a last one that says so. -/
def Token.ofText (text : List Char) : List Placed :=
  let lexer := Lexer.start text
  let admitted := lexer.cursor.skipWhile isAdmitted
  if admitted.rest.isEmpty then Lexer.run (lexer.cursor.steps + 1) lexer
  else lexer.failed (admitted.failure .forbiddenCharacter)

end RestContract.Yaml
