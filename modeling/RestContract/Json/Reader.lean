import RestContract.Error
import RestContract.Number.Decimal
import RestContract.Value.Basic

/-!
# Reading JSON

A reader for JSON texts that says where and why it stops. Besides the standard it takes the words
for infinite numbers and for the result that is no number. Of two fields with one name the later
value takes the earlier place. A number with a fraction or an exponent is a floating-point number,
any other is a whole number, of which no more than `Text.maxDigits` digits are read. Lists and maps
may stand inside each other as deep as there is room for.
-/

namespace RestContract.Json

/-- Why a text is not JSON. -/
inductive Complaint where
  | expectedValue
  | expectedName
  | expectedColon
  | expectedComma
  | extraData
  | unterminatedText
  | controlCharacter
  | badEscape
  | badCodeEscape
  | byteOrderMark
  | tooManyDigits
  | tooDeep
  deriving DecidableEq, Repr

def Complaint.message : Complaint → String
  | .expectedValue => "Expecting value"
  | .expectedName => "Expecting property name enclosed in double quotes"
  | .expectedColon => "Expecting ':' delimiter"
  | .expectedComma => "Expecting ',' delimiter"
  | .extraData => "Extra data"
  | .unterminatedText => "Unterminated string starting at"
  | .controlCharacter => "Invalid control character at"
  | .badEscape => "Invalid \\escape"
  | .badCodeEscape => "Invalid \\uXXXX escape"
  | .byteOrderMark => "Unexpected UTF-8 BOM (decode using utf-8-sig)"
  | .tooManyDigits => "Too many digits in a whole number"
  | .tooDeep => "Too many lists and maps inside each other"

/-- Where and why reading stopped. Lines and columns count from one, the position from zero. -/
structure Error where
  complaint : Complaint
  line : Nat
  column : Nat
  position : Nat
  deriving DecidableEq, Repr

def Error.message (e : Error) : String :=
  e.complaint.message ++ ": line " ++ toString e.line ++ " column " ++ toString e.column ++
    " (char " ++ toString e.position ++ ")"

/-- The fault of a text that may well be JSON, but goes over a limit of this reader. -/
def Error.fault? (e : Error) : Option Fault :=
  match e.complaint with
  | .tooManyDigits => some .badText
  | .tooDeep => some .endlessNesting
  | _ => none

/-- The error at a position of a text. -/
def Error.locate (text : List Char) (complaint : Complaint) (position : Nat) : Error :=
  let before := text.take position
  { complaint, line := before.count '\n' + 1,
    column := (before.reverse.takeWhile (· != '\n')).length + 1, position }

/-- A part of the text that was read and the rest of it, or the complaint and the text from where it
    arose. -/
abbrev Reading (α : Type) := Except (Complaint × List Char) (α × List Char)

/-- Whether a character may stand between the parts of a text. -/
def isSpace (c : Char) : Bool := c == ' ' || c == '\t' || c == '\n' || c == '\r'

def skipSpace (text : List Char) : List Char := text.dropWhile isSpace

/-- The code unit of an escape with four digits of base sixteen. -/
def codeUnit? (a b c d : Char) : Option Nat :=
  match Text.hexValue? a, Text.hexValue? b, Text.hexValue? c, Text.hexValue? d with
  | some a, some b, some c, some d => some (Text.numberOfDigits 16 [a, b, c, d])
  | _, _, _, _ => none

def isHighSurrogate (code : Nat) : Bool := 0xd800 ≤ code && code ≤ 0xdbff
def isLowSurrogate (code : Nat) : Bool := 0xdc00 ≤ code && code ≤ 0xdfff

/-- The character of two surrogates. -/
def joinSurrogates (high low : Nat) : Char :=
  Char.ofNat (0x10000 + (high - 0xd800) * 0x400 + (low - 0xdc00))

/-- The character of a code unit; a surrogate that stands alone has none and is replaced. -/
def charOfUnit (code : Nat) : Char :=
  if isHighSurrogate code || isLowSurrogate code then '\ufffd' else Char.ofNat code

/-- The character of an escape with one letter. -/
def simpleEscape? : Char → Option Char
  | '"' => some '"'
  | '\\' => some '\\'
  | '/' => some '/'
  | 'b' => some '\x08'
  | 'f' => some '\x0c'
  | 'n' => some '\n'
  | 'r' => some '\r'
  | 't' => some '\t'
  | _ => none

/-- The rest of a text up to its closing quote. `opening` is the text from the opening quote on, and
    `done` holds the characters so far, the last one first. -/
def readText (opening done : List Char) : List Char → Reading String
  | [] => .error (.unterminatedText, opening)
  | '"' :: rest => .ok (String.ofList done.reverse, rest)
  | '\\' :: [] => .error (.unterminatedText, opening)
  | '\\' :: 'u' :: rest =>
    match rest with
    | a :: b :: c :: d :: next =>
      match codeUnit? a b c d with
      | none => .error (.badCodeEscape, 'u' :: rest)
      | some high =>
        match next with
        | [] => .error (.badCodeEscape, 'u' :: rest)
        | '\\' :: 'u' :: e :: f :: g :: h :: after =>
          if isHighSurrogate high ∧ after ≠ [] then
            match codeUnit? e f g h with
            | none => .error (.badCodeEscape, 'u' :: e :: f :: g :: h :: after)
            | some low =>
              if isLowSurrogate low then readText opening (joinSurrogates high low :: done) after
              else readText opening (charOfUnit high :: done)
                ('\\' :: 'u' :: e :: f :: g :: h :: after)
          else readText opening (charOfUnit high :: done)
            ('\\' :: 'u' :: e :: f :: g :: h :: after)
        | plain => readText opening (charOfUnit high :: done) plain
    | _ => .error (.badCodeEscape, 'u' :: rest)
  | '\\' :: letter :: rest =>
    match simpleEscape? letter with
    | some c => readText opening (c :: done) rest
    | none => .error (.badEscape, '\\' :: letter :: rest)
  | c :: rest =>
    if c.toNat < 0x20 then .error (.controlCharacter, c :: rest)
    else readText opening (c :: done) rest
  termination_by text => text.length

/-- The digits of the whole part of a number: a zero, or digits that start with another. -/
def wholeDigits : List Char → List Char × List Char
  | '0' :: rest => (['0'], rest)
  | text => text.span Char.isDigit

/-- The digits after a point, if there is a point with a digit after it. -/
def fractionDigits : List Char → List Char × List Char
  | '.' :: digit :: rest =>
    if digit.isDigit then (digit :: rest).span Char.isDigit else ([], '.' :: digit :: rest)
  | text => ([], text)

/-- The exponent of a number, if its mark is followed by digits with or without a sign. -/
def exponentPart (text : List Char) : Option Int × List Char :=
  match text with
  | mark :: rest =>
    if mark = 'e' ∨ mark = 'E' then
      let (negative, digits) := Text.splitSign rest
      match digits.span Char.isDigit with
      | ([], _) => (none, text)
      | (digits, after) => (some (Double.signed negative (Text.naturalOf digits)), after)
    else (none, text)
  | [] => (none, text)

/-- A number without its sign, where `left` is the text from its sign on. -/
def readUnsigned (left : List Char) (negative : Bool) (text : List Char) : Reading Scalar :=
  match wholeDigits text with
  | ([], _) => .error (.expectedValue, left)
  | (whole, rest) =>
    let (fraction, rest) := fractionDigits rest
    let (exponent, rest) := exponentPart rest
    if fraction.isEmpty && exponent.isNone then
      if whole.length > Text.maxDigits then .error (.tooManyDigits, left)
      else .ok (.int (Double.signed negative (Text.naturalOf whole)), rest)
    else
      .ok (.double (Double.ofDecimal negative (Text.naturalOf (whole ++ fraction))
        (exponent.getD 0 - fraction.length)), rest)

/-- The words that stand for values. -/
def words : List (List Char × Scalar) :=
  [("null".toList, .null), ("true".toList, .bool true), ("false".toList, .bool false),
   ("NaN".toList, .double (.nan 0)), ("Infinity".toList, .double (.infinite false)),
   ("-Infinity".toList, .double (.infinite true))]

/-- A word or a number. -/
def readScalar (text : List Char) : Reading Scalar :=
  match words.find? fun (word, _) => word.isPrefixOf text with
  | some (word, s) => .ok (s, text.drop word.length)
  | none =>
    match text with
    | '-' :: rest => readUnsigned text true rest
    | text => readUnsigned text false text

mutual
/-- A value, in which lists and maps may stand inside each other to a depth. The fuel bounds the
    number of steps; two for each character suffice. -/
def readValue : Nat → Nat → List Char → Reading Value
  | 0, _, text => .error (.expectedValue, text)
  | fuel + 1, depth, text =>
    match text, depth with
    | '"' :: rest, _ =>
      match readText ('"' :: rest) [] rest with
      | .ok (s, rest) => .ok (.text s, rest)
      | .error e => .error e
    | '\x5b' :: rest, depth + 1 =>
      match skipSpace rest with
      | '\x5d' :: after => .ok (.ofItems [], after)
      | rest => readItems fuel depth [] rest
    | '\x7b' :: rest, depth + 1 =>
      match skipSpace rest with
      | '\x7d' :: after => .ok (.ofFields [], after)
      | rest => readFields fuel depth [] rest
    | '\x5b' :: _, 0 | '\x7b' :: _, 0 => .error (.tooDeep, text)
    | text, _ =>
      match readScalar text with
      | .ok (s, rest) => .ok (.scalar s, rest)
      | .error e => .error e

/-- The items of a list up to its closing bracket, after the items so far. -/
def readItems : Nat → Nat → List Value → List Char → Reading Value
  | 0, _, _, text => .error (.expectedValue, text)
  | fuel + 1, depth, items, text =>
    match readValue fuel depth text with
    | .error e => .error e
    | .ok (item, rest) =>
      match skipSpace rest with
      | '\x5d' :: after => .ok (.ofItems (items ++ [item]), after)
      | ',' :: after => readItems fuel depth (items ++ [item]) (skipSpace after)
      | rest => .error (.expectedComma, rest)

/-- The fields of a map up to its closing brace, after the fields so far. -/
def readFields : Nat → Nat → Fields → List Char → Reading Value
  | 0, _, _, text => .error (.expectedName, text)
  | fuel + 1, depth, fields, text =>
    match text with
    | '"' :: rest =>
      match readText ('"' :: rest) [] rest with
      | .error e => .error e
      | .ok (name, rest) =>
        match skipSpace rest with
        | ':' :: rest =>
          match readValue fuel depth (skipSpace rest) with
          | .error e => .error e
          | .ok (value, rest) =>
            match skipSpace rest with
            | '\x7d' :: after => .ok (.ofFields (fields.put name value), after)
            | ',' :: after => readFields fuel depth (fields.put name value) (skipSpace after)
            | rest => .error (.expectedComma, rest)
        | rest => .error (.expectedColon, rest)
    | text => .error (.expectedName, text)
end

/-- The value that a whole text stands for, in which lists and maps may stand inside each other to a
    depth. -/
def readAll (depth : Nat) (text : List Char) : Except (Complaint × List Char) Value :=
  if text.head? = some '\ufeff' then .error (.byteOrderMark, text)
  else
    match readValue (2 * text.length + 2) depth (skipSpace text) with
    | .error e => .error e
    | .ok (value, rest) =>
      match skipSpace rest with
      | [] => .ok value
      | rest => .error (.extraData, rest)

/-- The value that a JSON text stands for, or where and why it is no JSON. -/
def readIn (room : Nat) (s : String) : Except Error Value :=
  let text := s.toList
  match readAll room text with
  | .ok value => .ok value
  | .error (complaint, left) => .error (.locate text complaint (text.length - left.length))

/-- Reading in the usual room. -/
def read : String → Except Error Value := readIn usualRoom

end RestContract.Json
