import RestContract.Expr.Basic
import RestContract.Json.Writer
import RestContract.Error

/-!
# Printing expressions

The text of an expression, all on one line. Texts are written as JSON writes them. A whole number
has all its digits and neither point nor exponent, whether it is a whole number or a floating-point
number; any other number has the fewest digits that read back. The key of a property is written as
JSON as well. A key without a JSON form, or a whole number with too many digits, leaves the whole
expression without a text.
-/

namespace RestContract

/-- The text of a floating-point number. -/
def Literal.doubleText (x : Double) : String :=
  match x.toInt? with
  | some n => toString n
  | none => Json.number x

def Literal.print : Literal → String
  | .null => "null"
  | .bool true => "true"
  | .bool false => "false"
  | .int n => toString n
  | .double x => doubleText x
  | .text s => Json.quote s

/-- The key of a property, with nothing in the place of one without a written form. -/
def Expr.keyText (key : Value) : String := (Json.writeWith Json.quote [] key).toOption.getD ""

namespace Expr

mutual
/-- The text of an expression. -/
def print : Expr → String
  | .identifier name => name
  | .literal l => l.print
  | .regex source => source
  | .array elements => "[" ++ ", ".intercalate (printAll elements) ++ "]"
  | .object [] => "\x7b\x7d"
  | .object (first :: rest) =>
    "\x7b " ++ ", ".intercalate (printProperties (first :: rest)) ++ " \x7d"
  | .chained base calls => print base ++ String.join (printCalls calls)

def printAll : List Expr → List String
  | [] => []
  | e :: rest => print e :: printAll rest

def printProperties : List Property → List String
  | [] => []
  | p :: rest => printProperty p :: printProperties rest

def printProperty : Property → String
  | .shorthand name => name
  | .valued key value => keyText key ++ ": " ++ print value

def printCalls : List Call → List String
  | [] => []
  | first :: rest => printCall first :: printCalls rest

def printCall : Call → String
  | .call method args => "." ++ method ++ "(" ++ ", ".intercalate (printAll args) ++ ")"
end

/-- Checks that a constant has a text. A number with too many digits has none. -/
def checkLiteral : Literal → Except Fault Unit
  | .int n => if (Scalar.int n).isShowable then .ok () else .error .badText
  | _ => .ok ()

mutual
/-- Checks that all parts of an expression have a text, in the order in which they are printed. -/
def checkText : Expr → Except Fault Unit
  | .identifier _ | .regex _ => .ok ()
  | .literal l => checkLiteral l
  | .array elements => checkTexts elements
  | .object properties => checkProperties properties
  | .chained base calls => do
    checkText base
    checkCalls calls

def checkTexts : List Expr → Except Fault Unit
  | [] => .ok ()
  | e :: rest => do
    checkText e
    checkTexts rest

def checkProperties : List Property → Except Fault Unit
  | [] => .ok ()
  | .shorthand _ :: rest => checkProperties rest
  | .valued key value :: rest => do
    let _ ← Json.writeWith Json.quote [] key
    checkText value
    checkProperties rest

def checkCalls : List Call → Except Fault Unit
  | [] => .ok ()
  | .call _ args :: rest => do
    checkTexts args
    checkCalls rest
end

/-- The text of an expression, if it has one. -/
def render (e : Expr) : Except Error String :=
  match checkText e with
  | .ok _ => .ok e.print
  | .error fault => .error (.fault fault)

end Expr
end RestContract
