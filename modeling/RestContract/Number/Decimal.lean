import RestContract.Number.Shortest
import RestContract.Text.Blank
import RestContract.Text.Digits

/-!
# Decimal texts of numbers

How a number is written: the shortest decimal that reads back, positional for decimal exponents from
-4 to 15 and scientific otherwise. A whole number keeps one place after the point, and an exponent
has a sign and at least two digits. And how numbers are read from texts that people write.
-/

namespace RestContract

namespace Double

/-- The exponents that are written positionally. -/
def isPositional (exponent : Int) : Bool := -4 ≤ exponent && exponent < 16

/-- Digits with the point after the first `point` of them. -/
def positional (digits : List Char) (point : Int) : List Char :=
  if point ≤ 0 then '0' :: '.' :: (List.replicate (-point).toNat '0' ++ digits)
  else
    let whole := digits.take point.toNat
    let fraction := digits.drop point.toNat
    let padding := List.replicate (point.toNat - digits.length) '0'
    whole ++ padding ++ '.' :: (if fraction.isEmpty then ['0'] else fraction)

/-- Digits with the point after the first of them, and an exponent. -/
def scientific (digits : List Char) (exponent : Int) : List Char :=
  let size := Nat.toDigits 10 exponent.natAbs
  let power := (if exponent < 0 then '-' else '+') ::
    (List.replicate (2 - size.length) '0' ++ size)
  match digits with
  | [] => []
  | [digit] => digit :: 'e' :: power
  | digit :: rest => digit :: '.' :: (rest ++ 'e' :: power)

/-- The written form of a decimal. -/
def Decimal.written (decimal : Decimal) : List Char :=
  let digits := Nat.toDigits 10 decimal.digits
  let point := decimal.exponent + digits.length
  if isPositional (point - 1) then positional digits point else scientific digits (point - 1)

/-- The written form of a number. -/
def text : Double → String
  | .nan _ => "nan"
  | .infinite false => "inf"
  | .infinite true => "-inf"
  | .finite negative significand exponent _ =>
    let digits := if significand = 0 then "0.0"
      else String.ofList (shortest significand exponent).written
    if negative then "-" ++ digits else digits

end Double

namespace Text

/-- A leading sign, which is negative for a minus, and the rest. -/
def splitSign : List Char → Bool × List Char
  | '-' :: rest => (true, rest)
  | '+' :: rest => (false, rest)
  | rest => (false, rest)

/-- A run of decimal digits of any script, in which single underscores may stand between two
    digits, and the rest. -/
def splitDigits : List Char → List Nat × List Char
  | [] => ([], [])
  | c :: rest =>
    match digitValue? c, rest with
    | none, _ => ([], c :: rest)
    | some digit, '_' :: next :: more =>
      if (digitValue? next).isSome then
        let (digits, after) := splitDigits (next :: more)
        (digit :: digits, after)
      else ([digit], rest)
    | some digit, rest =>
      let (digits, after) := splitDigits rest
      (digit :: digits, after)
  termination_by text => text.length

/-- The exponent of a decimal literal: `e` or `E`, a sign and digits, or nothing. -/
def exponent? : List Char → Option Int
  | [] => some 0
  | mark :: rest =>
    if mark = 'e' ∨ mark = 'E' then
      let (negative, digits) := splitSign rest
      match splitDigits digits with
      | ([], _) => none
      | (digits, []) => some (Double.signed negative (numberOfDigits 10 digits))
      | _ => none
    else none

/-- The digits before and after the point of a decimal literal and what follows them. -/
def splitPoint (text : List Char) : List Nat × List Nat × List Char :=
  let (whole, rest) := splitDigits text
  match rest with
  | '.' :: rest =>
    let (fraction, rest) := splitDigits rest
    (whole, fraction, rest)
  | rest => (whole, [], rest)

/-- An unsigned decimal literal with a fraction and an exponent, each of which may be missing. -/
def unsignedDecimal? (negative : Bool) (text : List Char) : Option Double :=
  let (whole, fraction, rest) := splitPoint text
  if whole.isEmpty && fraction.isEmpty then none
  else
    (exponent? rest).map fun exponent =>
      Double.ofDecimal negative (numberOfDigits 10 (whole ++ fraction))
        (exponent - fraction.length)

/-- A number as people write it: blanks around it, a sign, and a decimal literal or a word for
    infinity or for no number, in any case of letters. -/
def number? (text : List Char) : Option Double :=
  let (negative, rest) := splitSign (trimBy isPadding text)
  let word := String.ofList (rest.map Char.toLower)
  if word = "inf" ∨ word = "infinity" then some (.infinite negative)
  else if word = "nan" then some (.nan 0)
  else unsignedDecimal? negative rest

end Text
end RestContract
