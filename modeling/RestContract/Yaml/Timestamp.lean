import RestContract.Text.Digits
import RestContract.Value.Basic

/-!
# Written dates and moments

A day is written with dashes; a time can follow it, and a distance from universal time the time.
-/

namespace RestContract.Yaml

/-- The parts of a written time. -/
structure WrittenTime where
  hour : Nat
  minute : Nat
  second : Nat
  microsecond : Nat
  offset : Option Int

/-- The parts of a written date, and its time if it has one. -/
structure Timestamp where
  date : Date
  time : Option WrittenTime
  /-- Whether the month and the day have two digits each. -/
  padded : Bool

/-- A part that was read, and the rest of the text. -/
abbrev Part (α : Type) := Option (α × List Char)

/-- A number of two digits. -/
def twoDigits? : List Char → Part Nat
  | a :: b :: rest => if a.isDigit ∧ b.isDigit then some (Text.naturalOf [a, b], rest) else none
  | _ => none

/-- A number of one or two digits. -/
def oneOrTwoDigits? (text : List Char) : Part Nat :=
  match twoDigits? text, text with
  | some part, _ => some part
  | none, a :: rest => if a.isDigit then some (Text.naturalOf [a], rest) else none
  | none, [] => none

/-- A character. -/
def mark? (mark : Char) : List Char → Option (List Char)
  | c :: rest => if c = mark then some rest else none
  | [] => none

/-- The millionths that the digits of a fraction stand for; further digits are dropped. -/
def microseconds (digits : List Char) : Nat :=
  Text.naturalOf ((digits ++ List.replicate 6 '0').take 6)

/-- A fraction of a second. There may be no digit after the point, and no point. -/
def splitFraction : List Char → Nat × List Char
  | '.' :: rest => (microseconds (rest.takeWhile Char.isDigit), rest.dropWhile Char.isDigit)
  | rest => (0, rest)

def isSpacing (c : Char) : Bool := c == ' ' || c == '\t'

/-- A distance from universal time in minutes, up to the end of the text. -/
def offset? (negative : Bool) (text : List Char) : Option Int := do
  let (hours, rest) ← oneOrTwoDigits? text
  let sign : Int := if negative then -1 else 1
  match rest with
  | [] => some (sign * (hours * 60))
  | ':' :: rest =>
    match twoDigits? rest with
    | some (minutes, []) => some (sign * (hours * 60 + minutes))
    | _ => none
  | _ => none

/-- What follows a time, up to the end of the text: nothing, or a distance from universal time. -/
def zone? (text : List Char) : Option (Option Int) :=
  match text, text.dropWhile isSpacing with
  | [], _ => some none
  | _, ['Z'] => some (some 0)
  | _, '+' :: rest => (offset? false rest).map some
  | _, '-' :: rest => (offset? true rest).map some
  | _, _ => none

/-- A time up to the end of the text. -/
def time? (text : List Char) : Option WrittenTime := do
  let (hour, rest) ← oneOrTwoDigits? text
  let (minute, rest) ← twoDigits? (← mark? ':' rest)
  let (second, rest) ← twoDigits? (← mark? ':' rest)
  let (microsecond, rest) := splitFraction rest
  return { hour, minute, second, microsecond, offset := ← zone? rest }

/-- What follows a date, up to the end of the text: nothing, or a letter or blanks and a time. -/
def afterDate? : List Char → Option (Option WrittenTime)
  | [] => some none
  | c :: rest =>
    if c = 'T' ∨ c = 't' then (time? rest).map some
    else if isSpacing c then (time? (rest.dropWhile isSpacing)).map some
    else none

/-- The parts of a date, with a time or without. -/
def Timestamp.ofText? (text : List Char) : Option Timestamp := do
  let (century, rest) ← twoDigits? text
  let (year, rest) ← twoDigits? rest
  let afterYear ← mark? '-' rest
  let (month, rest) ← oneOrTwoDigits? afterYear
  let afterMonth ← mark? '-' rest
  let (day, rest) ← oneOrTwoDigits? afterMonth
  return {
    date := ⟨century * 100 + year, month, day⟩, time := ← afterDate? rest
    padded := (twoDigits? afterYear).isSome && (twoDigits? afterMonth).isSome }

/-- Whether a plain text is a date or a moment: a date alone has two digits for month and day. -/
def Timestamp.isPlain (text : List Char) : Bool :=
  (Timestamp.ofText? text).any fun stamp => stamp.padded || stamp.time.isSome

/-- The day or the moment, if it exists. -/
def Timestamp.scalar? (stamp : Timestamp) : Option Scalar :=
  match stamp.time with
  | none => if stamp.date.exists? then some (.date stamp.date) else none
  | some time =>
    let moment : Moment := ⟨stamp.date, time.hour, time.minute, time.second, time.microsecond,
      time.offset⟩
    if moment.exists? then some (.moment moment) else none

end RestContract.Yaml
