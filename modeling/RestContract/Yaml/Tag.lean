import RestContract.Yaml.Timestamp

/-!
# Tags

What kind of value a node stands for. A tag that is not written follows from the form of the node,
and for a plain text from the text itself.
-/

namespace RestContract.Yaml

/-- The kinds of values that a node can stand for. -/
inductive Tag where
  | null
  | bool
  | int
  | float
  | binary
  | timestamp
  | text
  | sequence
  | mapping
  /-- A sequence of pairs, each of them a mapping of its own, whose keys are to differ. -/
  | orderedMap
  /-- A sequence of pairs, each of them a mapping of its own. -/
  | pairs
  /-- A mapping whose values do not count. -/
  | set
  /-- The key of mappings that are merged into the one around it. -/
  | merge
  /-- The key of the value that a mapping stands for where a text is wanted. -/
  | value
  /-- One without a meaning here. -/
  | unknown (name : String)
  deriving DecidableEq, Repr

namespace Tag

/-- What the full names of the common tags start with. -/
def commonStart : String := "tag:yaml.org,2002:"

/-- The common tags by the rest of their names. -/
def common : List (String × Tag) :=
  [("null", .null), ("bool", .bool), ("int", .int), ("float", .float), ("binary", .binary),
   ("timestamp", .timestamp), ("str", .text), ("seq", .sequence), ("map", .mapping),
   ("omap", .orderedMap), ("pairs", .pairs), ("set", .set), ("merge", .merge),
   ("value", .value)]

/-- The tag of a full name. -/
def ofName (name : String) : Tag :=
  ((common.find? fun (rest, _) => commonStart ++ rest == name).map Prod.snd).getD (.unknown name)

/-- Whether the tag is that of a collection. -/
def isCollection : Tag → Bool
  | .sequence | .mapping | .orderedMap | .pairs | .set => true
  | _ => false

/-! ## Plain texts -/

def isDecimalChar (c : Char) : Bool := c.isDigit || c == '_'

/-- A text without a sign in front. -/
def unsigned : List Char → List Char
  | '-' :: rest => rest
  | '+' :: rest => rest
  | rest => rest

/-- A run of digits and underscores that starts with a digit, and what follows it. -/
def splitNumber (text : List Char) : Option (List Char) :=
  match text with
  | first :: _ => if first.isDigit then some (text.dropWhile isDecimalChar) else none
  | [] => none

/-- What follows a part of a number in the base sixty: a colon and a number below sixty. -/
def splitSixtieth : List Char → Option (List Char)
  | ':' :: a :: b :: rest =>
    if '0' ≤ a ∧ a ≤ '5' ∧ b.isDigit then some rest
    else if a.isDigit then some (b :: rest)
    else none
  | [':', a] => if a.isDigit then some [] else none
  | _ => none

/-- What follows all further parts of a number in the base sixty. -/
def afterSixtieths : Nat → List Char → List Char
  | 0, digits => digits
  | steps + 1, digits =>
    match splitSixtieth digits with
    | some rest => afterSixtieths steps rest
    | none => digits

/-- What follows the further parts of a number in the base sixty, of which there is at least one. -/
def sixtieths? (text : List Char) : Option (List Char) :=
  (splitSixtieth text).map fun rest => afterSixtieths rest.length rest

/-- Whether a text is empty or the exponent of a number, which has a sign. -/
def isExponent : List Char → Bool
  | [] => true
  | mark :: sign :: digits =>
    (mark == 'e' || mark == 'E') && (sign == '-' || sign == '+') && !digits.isEmpty &&
      digits.all Char.isDigit
  | _ => false

/-- Whether a text is what follows the whole part of a number with a fraction. -/
def isFraction : List Char → Bool
  | '.' :: rest => isExponent (rest.dropWhile isDecimalChar)
  | _ => false

/-- Whether a text is a run of some characters. -/
def isRun (p : Char → Bool) (text : List Char) : Bool := !text.isEmpty && text.all p

def isHexChar (c : Char) : Bool := c.isDigit || ('a' ≤ c && c ≤ 'f') || ('A' ≤ c && c ≤ 'F')

/-- Whether a text reads as a whole number: with a mark of the base two, eight or sixteen, in the
    base ten, or in parts of the base sixty. -/
def isInt (text : List Char) : Bool :=
  match unsigned text with
  | '0' :: 'b' :: digits => isRun (fun c => c == '0' || c == '1' || c == '_') digits
  | '0' :: 'x' :: digits => isRun (fun c => isHexChar c || c == '_') digits
  | '0' :: digits => digits.all fun c => ('0' ≤ c && c ≤ '7') || c == '_'
  | digits =>
    match splitNumber digits with
    | some [] => true
    | some rest => sixtieths? rest == some []
    | none => false

/-- The spellings of a word: in small letters, with a capital letter first, and in capital
    letters. -/
def spellings (word : String) : List String :=
  let chars := word.toList
  [word, String.ofList (chars.take 1 |>.map Char.toUpper) ++ String.ofList (chars.drop 1),
   String.ofList (chars.map Char.toUpper)]

/-- Whether a text is a point and a spelling of a word for a number that is not finite. -/
def isPointWord (words : List String) : List Char → Bool
  | '.' :: word => words.contains (String.ofList word)
  | _ => false

/-- Whether a text reads as a number with a point. A number that starts with the point has no
    sign. -/
def isFloat (text : List Char) : Bool :=
  isPointWord (spellings "inf") (unsigned text) ||
    isPointWord ["nan", "NaN", "NAN"] text ||
    (match text with
      | '.' :: digit :: _ => digit.isDigit && isFraction text
      | _ => false) ||
    match splitNumber (unsigned text) with
    | some rest =>
      isFraction rest ||
        match sixtieths? rest with
        | some ('.' :: fraction) => fraction.all isDecimalChar
        | _ => false
    | none => false

/-- The words for truth values. -/
def truthWords : List (String × Bool) :=
  [("yes", true), ("no", false), ("true", true), ("false", false), ("on", true), ("off", false)]

/-- Whether a text is a spelling of a truth value. -/
def isBool (text : List Char) : Bool :=
  truthWords.any fun (word, _) => (spellings word).contains (String.ofList text)

/-- Whether a text stands for nothing. -/
def isNull (text : List Char) : Bool :=
  text == [] || text == ['~'] || (spellings "null").contains (String.ofList text)

/-- A text without a line feed at its end. -/
def dropBreak (text : List Char) : List Char :=
  if text.getLast? = some '\n' then text.dropLast else text

/-- The tag that a plain text reads as, where a line feed at its end is passed over. -/
def ofPlain (text : List Char) : Tag :=
  let word := dropBreak text
  if text = ['\n'] then .text
  else if isBool word then .bool
  else if isFloat word then .float
  else if isInt word then .int
  else if word = ['<', '<'] then .merge
  else if isNull word then .null
  else if Timestamp.isPlain word then .timestamp
  else if word = ['='] then .value
  else if [['!'], ['&'], ['*']].contains word then .unknown "yaml"
  else .text

end Tag
end RestContract.Yaml
