import RestContract.Text.Printable
import RestContract.Text.Digits

/-!
# Quoted texts

How a text is shown inside a message: between quotes, with everything unprintable written as an
escape. Single quotes are the rule; double quotes are taken for a text that holds single quotes and
no double ones, so that a backslash before a quote is needed only when both occur.
-/

namespace RestContract.Text

/-- The escape for a code point without a printable form, by its size. -/
def escapeCode (code : Nat) : String :=
  if code ≤ 0xff then "\\x" ++ hex 2 code
  else if code ≤ 0xffff then "\\u" ++ hex 4 code
  else "\\U" ++ hex 8 code

/-- One character of a text between `quote`s. -/
def quotedChar (quote c : Char) : String :=
  if c = quote ∨ c = '\\' then String.ofList ['\\', c]
  else if c = '\t' then "\\t"
  else if c = '\n' then "\\n"
  else if c = '\r' then "\\r"
  else if isPrintable c then String.singleton c
  else escapeCode c.toNat

/-- The quote that a text is shown with. -/
def quoteFor (text : List Char) : Char :=
  if text.contains '\'' ∧ ¬ text.contains '"' then '"' else '\''

/-- A text between quotes. -/
def quoted (text : String) : String :=
  let quote := quoteFor text.toList
  String.singleton quote ++ String.join (text.toList.map (quotedChar quote)) ++
    String.singleton quote

/-- A sequence of bytes, shown as a text of ASCII characters whose other bytes are escaped. -/
def quotedBytes (bytes : List Nat) : String :=
  let chars := bytes.map Char.ofNat
  let quote := quoteFor chars
  let body := chars.map fun c => if c.toNat < 0x7f then quotedChar quote c else escapeCode c.toNat
  "b" ++ String.singleton quote ++ String.join body ++ String.singleton quote

end RestContract.Text
