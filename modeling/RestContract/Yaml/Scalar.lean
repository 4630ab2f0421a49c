import RestContract.Number.Decimal
import RestContract.Yaml.Complaint
import RestContract.Yaml.Tag

/-!
# Values of texts

What the text of a node stands for, by its tag. A tag can be given to any text, so a text may have
no value of the kind, and how it is refused depends on where reading it gets stuck.
-/

namespace RestContract.Yaml

/-- The mark of a base in front of a number. -/
def isBaseMark (base : Nat) (c : Char) : Bool :=
  (base == 2 && (c == 'b' || c == 'B')) || (base == 8 && (c == 'o' || c == 'O')) ||
    (base == 16 && (c == 'x' || c == 'X'))

/-- A number without its sign and without the mark of its base. -/
def dropBaseMark (base : Nat) : List Char → List Char
  | '0' :: mark :: digits => if isBaseMark base mark then digits else '0' :: mark :: digits
  | digits => digits

/-- The value of a digit in a base, of any script, or a letter. -/
def digitIn? (base : Nat) (c : Char) : Option Nat :=
  ((Text.digitValue? c).or (Text.hexValue? c)).filter (· < base)

/-- The whole number in a base that a text stands for, with blanks around it, a sign, and the mark
    of the base. -/
def wholeNumber? (base : Nat) (text : List Char) : Option Int :=
  let (negative, rest) := Text.splitSign (Text.trimBy Text.isPadding text)
  match (dropBaseMark base rest).mapM (digitIn? base) with
  | none | some [] => none
  | some digits =>
    if base = 10 ∧ digits.length > Text.maxDigits then none
    else some (Double.signed negative (Text.numberOfDigits base digits))

/-- A text in parts that are separated by colons. -/
def splitColons (text : List Char) : List (List Char) :=
  text.foldr (fun c parts =>
    match parts with
    | part :: others => if c = ':' then [] :: part :: others else (c :: part) :: others
    | [] => [[c]]) [[]]

/-- A text without underscores. -/
def dropUnderscores (text : List Char) : List Char := text.filter (· != '_')

/-- The value that a text has to have. -/
def need {α : Type} (value : Option α) : Except Fault α :=
  match value with
  | some value => .ok value
  | none => .error .badText

/-- The sign of a text that is not empty, and the rest. -/
def takeSign (text : List Char) : Except Fault (Bool × List Char) :=
  if text.isEmpty then .error .outOfRange else .ok (Text.splitSign text)

/-- The number that parts in the base sixty stand for. -/
def sixtieths (parts : List Int) : Int := parts.foldl (fun number part => number * 60 + part) 0

/-- A whole number without its sign. -/
def unsignedInt (text : List Char) : Except Fault Int :=
  match text with
  | ['0'] => .ok 0
  | '0' :: 'b' :: digits => need (wholeNumber? 2 digits)
  | '0' :: 'x' :: digits => need (wholeNumber? 16 digits)
  | '0' :: digits => need (wholeNumber? 8 ('0' :: digits))
  | [] => .error .outOfRange
  | text =>
    if text.contains ':' then
      need (((splitColons text).mapM (wholeNumber? 10)).map sixtieths)
    else need (wholeNumber? 10 text)

/-- The whole number that a text stands for. -/
def intOf (text : List Char) : Except Fault Int := do
  let (negative, rest) ← takeSign (dropUnderscores text)
  let n ← unsignedInt rest
  return if negative then -n else n

/-- The sum of parts in the base sixty, the last one first, where `unit` is what the next is worth.
    Each step is rounded. -/
def sumSixtieths (sum : Double) (unit : Nat) : List Double → Except Fault Double
  | [] => .ok sum
  | part :: rest =>
    let weight := Double.ofInt unit
    if weight.isFinite then sumSixtieths (sum.add (part.mul weight)) (unit * 60) rest
    else .error .overflow

/-- A floating-point number without its sign. The word for no number stands for one result only, and
    every other text that is no number for one of its own. -/
def unsignedFloat (origin : Nat) (text : List Char) : Except Fault Double := do
  if text = ".inf".toList then return .infinite false
  else if text = ".nan".toList then return .nan 0
  else if text.contains ':' then
    let parts ← need ((splitColons text).mapM Text.number?)
    return (← sumSixtieths (.zero false) 1 parts.reverse).withOrigin origin
  else return (← need (Text.number? text)).withOrigin origin

/-- The floating-point number that a text stands for. -/
def floatOf (origin : Nat) (text : List Char) : Except Fault Double := do
  let (negative, rest) ← takeSign ((dropUnderscores text).map Char.toLower)
  let x ← unsignedFloat origin rest
  return if negative then x.negate else x

/-- The truth value that a word stands for, in any case of letters. -/
def boolOf (text : String) : Except Fault Bool :=
  match Tag.truthWords.lookup (text.map Char.toLower) with
  | some b => .ok b
  | none => .error .missingField

/-- The date or moment that a text stands for. -/
def timestampOf (text : List Char) : Except Fault Scalar :=
  match Timestamp.ofText? (Tag.dropBreak text) with
  | some stamp => need stamp.scalar?
  | none => .error .noSuchPart

/-! ## Binary data -/

/-- The letters for six bits, by their value. -/
def sixBitLetters : String := "ABCDEFGHIJKLMNOPQRSTUVWXYZabcdefghijklmnopqrstuvwxyz0123456789+/"

/-- The six bits that a letter stands for. -/
def sixBits? (c : Char) : Option Nat := sixBitLetters.toList.idxOf? c

/-- The bytes that letters stand for, where `group` holds what the letters of an unfinished group
    stand for and `padding` counts the padding after it. Other characters are passed over, and
    nothing is read behind a group that padding has filled. A group of too few letters has no
    value. -/
def bytesOf? (group : List Nat) (padding : Nat) : List Char → Option (List Nat)
  | [] => if group.isEmpty then some [] else none
  | c :: rest =>
    if c = '=' then
      match group with
      | [_, _] => if padding + 1 ≥ 2 then some [] else bytesOf? group (padding + 1) rest
      | [_, _, _] => some []
      | group => bytesOf? group padding rest
    else
      match sixBits? c, group with
      | none, group => bytesOf? group padding rest
      | some d, [] => bytesOf? [d] 0 rest
      | some d, [a] => (bytesOf? [a, d] 0 rest).map ((a * 4 + d / 16) :: ·)
      | some d, [a, b] => (bytesOf? [a, b, d] 0 rest).map ((b % 16 * 16 + d / 4) :: ·)
      | some d, group =>
        (bytesOf? [] 0 rest).map (((group.getLast?.getD 0) % 4 * 64 + d) :: ·)

/-- The bytes that a text stands for, which holds ASCII characters only. -/
def binaryOf (text : List Char) : Except Failure (List Nat) :=
  match if text.all (·.toNat < 0x80) then bytesOf? [] 0 text else none with
  | some bytes => .ok bytes
  | none => .error (.unplaced .badBinary)

end RestContract.Yaml
