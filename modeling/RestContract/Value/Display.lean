import RestContract.Error
import RestContract.Number.Decimal
import RestContract.Text.Quoted
import RestContract.Value.Basic

/-!
# Values in messages

How a value is shown in a message: a text stands as it is at the top and between quotes inside a
list or map, and the other values have the same form everywhere.
-/

namespace RestContract

/-- The distance of a moment from universal time, as days and seconds of which only the days can be
    negative. -/
def Moment.zoneText (offset : Int) : String :=
  if offset = 0 then "datetime.timezone.utc"
  else
    let seconds := offset * 60
    let days := seconds / 86400
    let dayPart := if days = 0 then "" else "days=" ++ toString days ++ ", "
    "datetime.timezone(datetime.timedelta(" ++ dayPart ++ "seconds=" ++
      toString (seconds % 86400) ++ "))"

/-- The numbers of a date, in the order of their weight. -/
def Date.numbers (date : Date) : List Nat := [date.year, date.month, date.day]

/-- The numbers of a moment; seconds are left out when they are zero and nothing smaller follows. -/
def Moment.numbers (moment : Moment) : List Nat :=
  moment.date.numbers ++ [moment.hour, moment.minute] ++
    (if moment.microsecond ≠ 0 then [moment.second, moment.microsecond]
      else if moment.second ≠ 0 then [moment.second] else [])

namespace Scalar

/-- A scalar as it stands in a message. -/
def display : Scalar → String
  | .null => "None"
  | .bool true => "True"
  | .bool false => "False"
  | .int n => toString n
  | .double x => x.text
  | .text s => s
  | .date d => d.text
  | .moment m => m.text
  | .bytes b => Text.quotedBytes b

/-- A scalar as it stands inside a list or map of a message. -/
def inspect : Scalar → String
  | .text s => Text.quoted s
  | .date d => "datetime.date(" ++ ", ".intercalate (d.numbers.map toString) ++ ")"
  | .moment m =>
    let zone := match m.offset with
      | some offset => ", tzinfo=" ++ Moment.zoneText offset
      | none => ""
    "datetime.datetime(" ++ ", ".intercalate (m.numbers.map toString) ++ zone ++ ")"
  | s => s.display

end Scalar

/-- A number with more digits is not written. -/
def Scalar.isShowable : Scalar → Bool
  | .int n => n.natAbs.log2 < 3 * Text.maxDigits || n.natAbs < Nat.pow 10 Text.maxDigits
  | _ => true

namespace Value

/-- Whether a list or map with a mark is inside itself, where `opened` holds the marks around it. -/
def isInside (opened : List Nat) (mark : Option Nat) : Bool := mark.any opened.contains

mutual
/-- A value as it stands inside a list or map of a message, where `opened` holds the marks around
    it. What is inside itself is left out. -/
def inspectIn (opened : List Nat) : Value → String
  | .scalar s => s.inspect
  | .list items mark =>
    if isInside opened mark then "[...]"
    else "[" ++ ", ".intercalate (inspectItems (mark.toList ++ opened) items) ++ "]"
  | .map fields mark =>
    if isInside opened mark then "\x7b...\x7d"
    else "\x7b" ++ ", ".intercalate (inspectFields (mark.toList ++ opened) fields) ++ "\x7d"
  | .pair first second => "(" ++ first.inspectIn opened ++ ", " ++ second.inspectIn opened ++ ")"
  | .set [] => "set()"
  | .set (first :: rest) =>
    "\x7b" ++ ", ".intercalate ((first :: rest).map Scalar.inspect) ++ "\x7d"

def inspectItems (opened : List Nat) : List Value → List String
  | [] => []
  | item :: rest => item.inspectIn opened :: inspectItems opened rest

def inspectFields (opened : List Nat) : List (Scalar × Value) → List String
  | [] => []
  | (key, value) :: rest =>
    (key.inspect ++ ": " ++ value.inspectIn opened) :: inspectFields opened rest
end

/-- A value as it stands inside a list or map of a message. -/
def inspect (value : Value) : String := value.inspectIn []

/-- A value as it stands in a message. -/
def display : Value → String
  | .scalar s => s.display
  | value => value.inspect

mutual
/-- Whether all numbers that a message with the value shows can be written. -/
def isShowableIn (opened : List Nat) : Value → Bool
  | .scalar s => s.isShowable
  | .list items mark =>
    isInside opened mark || areShowable (mark.toList ++ opened) items
  | .map fields mark =>
    isInside opened mark || fieldsShowable (mark.toList ++ opened) fields
  | .pair first second => first.isShowableIn opened && second.isShowableIn opened
  | .set members => members.all Scalar.isShowable

def areShowable (opened : List Nat) : List Value → Bool
  | [] => true
  | item :: rest => item.isShowableIn opened && areShowable opened rest

def fieldsShowable (opened : List Nat) : List (Scalar × Value) → Bool
  | [] => true
  | (key, value) :: rest =>
    key.isShowable && value.isShowableIn opened && fieldsShowable opened rest
end

/-- A value as it stands in a message, if all its numbers can be written. -/
def shown (value : Value) : Except Error String :=
  if value.isShowableIn [] then .ok value.display else .error (.fault .badText)

end Value

/-- A scalar as it stands in a message, if it can be written. -/
def Scalar.shown (s : Scalar) : Except Error String := (Value.scalar s).shown

end RestContract
