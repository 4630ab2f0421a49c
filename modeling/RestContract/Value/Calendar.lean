import RestContract.Text.Digits

/-!
# Dates and moments

Calendar values that a document can hold: a day, and a moment with or without a distance from
universal time. Both are written as the international standard has them.
-/

namespace RestContract

/-- A day of the Gregorian calendar. -/
structure Date where
  year : Nat
  month : Nat
  day : Nat
  deriving DecidableEq, Repr

namespace Date

def isLeap (year : Nat) : Bool := year % 4 == 0 && (year % 100 != 0 || year % 400 == 0)

/-- The number of days of a month. -/
def monthLength (year month : Nat) : Nat :=
  if month = 2 then (if isLeap year then 29 else 28)
  else if [4, 6, 9, 11].contains month then 30
  else 31

/-- Whether the day exists; years run from 1 to 9999. -/
def exists? (date : Date) : Bool :=
  1 ≤ date.year && date.year ≤ 9999 && 1 ≤ date.month && date.month ≤ 12 &&
    1 ≤ date.day && date.day ≤ monthLength date.year date.month

/-- The number of days from the first day of year 1 to this day. -/
def ordinal (date : Date) : Nat :=
  let past := date.year - 1
  let months := (List.range (date.month - 1)).foldl
    (fun days index => days + monthLength date.year (index + 1)) 0
  past * 365 + past / 4 - past / 100 + past / 400 + months + date.day

end Date

/-- A number with leading zeros up to a width. -/
def padded (width n : Nat) : String :=
  let digits := Nat.toDigits 10 n
  String.ofList (List.replicate (width - digits.length) '0' ++ digits)

def Date.text (date : Date) : String :=
  padded 4 date.year ++ "-" ++ padded 2 date.month ++ "-" ++ padded 2 date.day

/-- A moment of a day. `offset` is the distance from universal time in minutes, if it is known. -/
structure Moment where
  date : Date
  hour : Nat
  minute : Nat
  second : Nat
  microsecond : Nat
  offset : Option Int
  deriving DecidableEq, Repr

namespace Moment

/-- Whether the day exists, the time is one of its times, and the distance from universal time is
    less than a day. -/
def exists? (moment : Moment) : Bool :=
  moment.date.exists? && moment.hour < 24 && moment.minute < 60 && moment.second < 60 &&
    moment.microsecond < 1000000 && (moment.offset.getD 0).natAbs < 1440

/-- The distance from universal time as hours and minutes with a sign. -/
def offsetText (offset : Int) : String :=
  (if offset < 0 then "-" else "+") ++ padded 2 (offset.natAbs / 60) ++ ":" ++
    padded 2 (offset.natAbs % 60)

def text (moment : Moment) : String :=
  moment.date.text ++ " " ++ padded 2 moment.hour ++ ":" ++ padded 2 moment.minute ++ ":" ++
    padded 2 moment.second ++
    (if moment.microsecond = 0 then "" else "." ++ padded 6 moment.microsecond) ++
    (moment.offset.map offsetText).getD ""

/-- The seconds from the first day of year 1, in universal time when the offset is known. -/
def seconds (moment : Moment) : Int :=
  (((moment.date.ordinal * 24 + moment.hour) * 60 + moment.minute : Int) -
    moment.offset.getD 0) * 60 + moment.second

/-- Whether two moments are the same point in time. One with a known offset is never the same as one
    without. -/
def same (a b : Moment) : Bool :=
  a.offset.isSome == b.offset.isSome && a.seconds == b.seconds && a.microsecond == b.microsecond

end Moment
end RestContract
