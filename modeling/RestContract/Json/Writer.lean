import RestContract.Value.Display

/-!
# Writing JSON

Texts are written between double quotes, with the quote, the backslash and the control characters
escaped; everything beyond ASCII either stays as it is or is escaped too. Values are written on one
line, with a blank after every comma and colon; a pair is written as a list. Dates, bytes and sets
have no JSON form.
-/

namespace RestContract.Json

/-- The escape of a UTF-16 code unit. -/
def escapeUnit (code : Nat) : List Char := '\\' :: 'u' :: (Text.hex 4 code).toList

/-- One character of a text. -/
def quotedChar (c : Char) : List Char :=
  if c = '"' then ['\\', '"']
  else if c = '\\' then ['\\', '\\']
  else if c = '\n' then ['\\', 'n']
  else if c = '\r' then ['\\', 'r']
  else if c = '\t' then ['\\', 't']
  else if c = '\x08' then ['\\', 'b']
  else if c = '\x0c' then ['\\', 'f']
  else if c.toNat < 0x20 then escapeUnit c.toNat
  else [c]

/-- One character of a text that stays within ASCII; one beyond the first plane takes two
    escapes. -/
def asciiChar (c : Char) : List Char :=
  if c.toNat < 0x7f then quotedChar c
  else if c.toNat < 0x10000 then escapeUnit c.toNat
  else
    let rest := c.toNat - 0x10000
    escapeUnit (0xd800 + rest / 0x400) ++ escapeUnit (0xdc00 + rest % 0x400)

/-- A text between quotes. -/
def quote (s : String) : String :=
  String.ofList ('"' :: (s.toList.flatMap quotedChar ++ ['"']))

/-- A text between quotes, within ASCII. -/
def quoteAscii (s : String) : String :=
  String.ofList ('"' :: (s.toList.flatMap asciiChar ++ ['"']))

/-- A floating-point number; those that are not finite are written as words. -/
def number (x : Double) : String :=
  match x with
  | .nan _ => "NaN"
  | .infinite false => "Infinity"
  | .infinite true => "-Infinity"
  | x => x.text

/-- A scalar, if it has a JSON form, with texts written by `quote`. -/
def scalar (quote : String → String) (s : Scalar) : Except Fault String :=
  match s with
  | .null => .ok "null"
  | .bool true => .ok "true"
  | .bool false => .ok "false"
  | .int n => if s.isShowable then .ok (toString n) else .error .badText
  | .double x => .ok (number x)
  | .text s => .ok (quote s)
  | .date _ | .moment _ | .bytes _ => .error .wrongKind

/-- The key of a field: a text, or the JSON form of another scalar taken as a text. -/
def key (quote : String → String) : Scalar → Except Fault String
  | .text s => .ok (quote s)
  | key => (scalar quote key).map quote

mutual
/-- A value, if all its parts have a JSON form, with texts written by `quote`. A list or map that
    holds itself has none; `opened` holds the marks of those around the value. -/
def writeWith (quote : String → String) (opened : List Nat) : Value → Except Fault String
  | .scalar s => scalar quote s
  | .list items mark =>
    if Value.isInside opened mark then .error .badText
    else (writeItems quote (mark.toList ++ opened) items).map fun parts =>
      "[" ++ ", ".intercalate parts ++ "]"
  | .map fields mark =>
    if Value.isInside opened mark then .error .badText
    else (writeFields quote (mark.toList ++ opened) fields).map fun parts =>
      "\x7b" ++ ", ".intercalate parts ++ "\x7d"
  | .pair first second => do
    let first ← writeWith quote opened first
    return "[" ++ first ++ ", " ++ (← writeWith quote opened second) ++ "]"
  | .set _ => .error .wrongKind

def writeItems (quote : String → String) (opened : List Nat) :
    List Value → Except Fault (List String)
  | [] => .ok []
  | item :: rest => do
    let first ← writeWith quote opened item
    return first :: (← writeItems quote opened rest)

def writeFields (quote : String → String) (opened : List Nat) :
    List (Scalar × Value) → Except Fault (List String)
  | [] => .ok []
  | (name, value) :: rest => do
    let name ← key quote name
    let first ← writeWith quote opened value
    return (name ++ ": " ++ first) :: (← writeFields quote opened rest)
end

/-- A value within ASCII, if it has a JSON form. -/
def write (value : Value) : Except Fault String := writeWith quoteAscii [] value

end RestContract.Json
