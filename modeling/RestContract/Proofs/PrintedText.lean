import Mathlib.Data.Nat.Digits.Defs
import RestContract.Expr.Printer
import RestContract.Json.Reader

/-!
# The characters of printed texts

The printer puts texts together; what is proved about its output goes character by character. A text
between quotes and a whole number are read back as they were, whatever stands behind them, so they
tell where they end.
-/

namespace RestContract

/-! ## Texts between quotes -/

namespace Json

variable {opening done rest : List Char}

theorem readText_quote :
    readText opening done ('"' :: rest) = .ok (String.ofList done.reverse, rest) := by
  rw [readText]

theorem readText_simpleEscape {letter c : Char} (hu : letter ≠ 'u')
    (h : simpleEscape? letter = some c) :
    readText opening done ('\\' :: letter :: rest) = readText opening (c :: done) rest := by
  rw [readText]
  · simp only [h]
  · exact fun heq => hu heq

theorem readText_plain {c : Char} (hq : c ≠ '"') (hb : c ≠ '\\') (h : 0x20 ≤ c.toNat) :
    readText opening done (c :: rest) = readText opening (c :: done) rest := by
  rw [readText]
  · rw [if_neg (by omega)]
  all_goals simp_all

/-- The digits of the escape of a control character stand for it. -/
theorem hex_control : ∀ code < 0x20,
    (Text.hex 4 code).toList = ['0', '0', Nat.digitChar (code / 16), Nat.digitChar (code % 16)] ∧
      codeUnit? '0' '0' (Nat.digitChar (code / 16)) (Nat.digitChar (code % 16)) = some code := by
  decide

theorem readText_escapeUnit {code : Nat} (h : code < 0x20) (hr : rest ≠ []) :
    readText opening done (escapeUnit code ++ rest) =
      readText opening (Char.ofNat code :: done) rest := by
  obtain ⟨heq, hcode⟩ := hex_control code h
  have hhigh : isHighSurrogate code = false := by
    simp only [isHighSurrogate, Bool.and_eq_false_imp, decide_eq_true_eq]
    omega
  have hlow : isLowSurrogate code = false := by
    simp only [isLowSurrogate, Bool.and_eq_false_imp, decide_eq_true_eq]
    omega
  have hchar : charOfUnit code = Char.ofNat code := by simp [charOfUnit, hhigh, hlow]
  rw [escapeUnit, heq, List.cons_append, List.cons_append, List.cons_append, List.cons_append,
    List.cons_append, List.cons_append, List.nil_append, readText]
  simp only [hcode]
  -- what follows is never taken for the second half of a character
  split
  · exact absurd rfl hr
  · rw [if_neg (by simp [hhigh]), hchar]
  · rw [hchar]

/-- One character of a text between quotes is read as it was. -/
theorem readText_quotedChar (c : Char) (hr : rest ≠ []) :
    readText opening done (quotedChar c ++ rest) = readText opening (c :: done) rest := by
  unfold quotedChar
  split
  · next hc => exact readText_simpleEscape (by decide) (by rw [hc]; rfl)
  split
  · next hc => exact readText_simpleEscape (by decide) (by rw [hc]; rfl)
  split
  · next hc => exact readText_simpleEscape (by decide) (by rw [hc]; rfl)
  split
  · next hc => exact readText_simpleEscape (by decide) (by rw [hc]; rfl)
  split
  · next hc => exact readText_simpleEscape (by decide) (by rw [hc]; rfl)
  split
  · next hc => exact readText_simpleEscape (by decide) (by rw [hc]; rfl)
  split
  · next hc => exact readText_simpleEscape (by decide) (by rw [hc]; rfl)
  split
  · next h => rw [readText_escapeUnit h hr, Char.ofNat_toNat]
  · next hq hb _ _ _ _ _ h => exact readText_plain hq hb (by omega)

theorem readText_quotedChars (text : List Char) :
    readText opening done (text.flatMap quotedChar ++ '"' :: rest) =
      .ok (String.ofList (done.reverse ++ text), rest) := by
  induction text generalizing done with
  | nil => simp [readText_quote]
  | cons c text ih =>
    rw [List.flatMap_cons, List.append_assoc, readText_quotedChar c (by simp), ih]
    simp

/-- A text between quotes is read as it was, up to the closing quote. -/
theorem readText_quoted (s : String) :
    readText opening [] (s.toList.flatMap quotedChar ++ '"' :: rest) = .ok (s, rest) := by
  rw [readText_quotedChars, List.reverse_nil, List.nil_append, String.ofList_toList]

theorem toList_quote (s : String) :
    (quote s).toList = '"' :: (s.toList.flatMap quotedChar ++ ['"']) := by
  rw [quote, String.toList_ofList]

/-- A text between quotes tells what it was made of and where it ends. -/
theorem eq_of_quote_append {s t : String} {other : List Char}
    (h : (quote s).toList ++ rest = (quote t).toList ++ other) : s = t ∧ rest = other := by
  simp only [toList_quote, List.cons_append, List.append_assoc, List.nil_append,
    List.cons.injEq, true_and] at h
  have hread := congrArg (readText [] []) h
  rw [readText_quoted, readText_quoted] at hread
  simpa using hread

end Json

/-! ## Whole numbers -/

/-- The digits of a whole number, behind a minus sign if it is negative. -/
theorem toList_toString_int (n : Int) :
    (toString n).toList = (if n < 0 then ['-'] else []) ++ Nat.toDigits 10 n.natAbs := by
  cases n with
  | ofNat m =>
    have hn : ¬ Int.ofNat m < 0 := Int.not_lt.2 (Int.natCast_nonneg m)
    rw [if_neg hn]
    show (toString m).toList = _
    rw [Nat.toString_eq_ofList_toDigits, String.toList_ofList]
    rfl
  | negSucc m =>
    rw [if_pos (Int.negSucc_lt_zero m), Int.natAbs_negSucc]
    show ("-" ++ toString m.succ).toList = _
    rw [Nat.toString_eq_ofList_toDigits]
    simp

/-- The digits of a number stand for it. -/
theorem naturalOf_toDigits (n : Nat) : Text.naturalOf (Nat.toDigits 10 n) = n := by
  conv_rhs => rw [← Nat.ofDigitChars_ten_toDigits (n := n), Nat.ofDigitChars_eq_foldl]
  rw [Text.naturalOf, Text.numberOfDigits, List.foldl_map]
  congr 1
  funext number c
  rw [Nat.mul_comm]

/-! ## Parts of expressions -/

/-- Parts with a comma and a blank between them. -/
def listed (parts : List (List Char)) : List Char := [',', ' '].intercalate parts

@[simp] theorem listed_nil : listed [] = [] := rfl

@[simp] theorem listed_singleton (part : List Char) : listed [part] = part := by simp [listed]

theorem listed_cons_of_ne_nil (part : List Char) {rest : List (List Char)} (h : rest ≠ []) :
    listed (part :: rest) = part ++ ',' :: ' ' :: listed rest := by
  obtain ⟨next, rest, rfl⟩ := List.exists_cons_of_ne_nil h
  simp [listed, List.intercalate_cons_cons]

theorem listed_cons (part : List Char) (rest : List (List Char)) :
    listed (part :: rest) = part ++ rest.flatMap fun other => ',' :: ' ' :: other := by
  induction rest generalizing part with
  | nil => simp
  | cons next rest ih => rw [listed_cons_of_ne_nil part (by simp), ih, List.flatMap_cons]; simp

namespace Expr

/-- The characters of the text of an expression. -/
def chars (e : Expr) : List Char := (print e).toList

end Expr

open Expr

/-- The characters of the text of a property. -/
def Property.chars : Property → List Char
  | .shorthand name => name.toList
  | .valued key e => (keyText key).toList ++ ':' :: ' ' :: e.chars

/-- The characters of the text of a call. -/
def Call.chars : Call → List Char
  | .call method args => '.' :: (method.toList ++ '(' :: (listed (args.map Expr.chars) ++ [')']))

namespace Expr

theorem map_toList_printAll (es : List Expr) :
    (printAll es).map String.toList = es.map chars := by
  induction es with
  | nil => rfl
  | cons e rest ih => rw [printAll, List.map_cons, ih, List.map_cons, chars]

theorem toList_printProperty (p : Property) : (printProperty p).toList = p.chars := by
  cases p with
  | shorthand name => rfl
  | valued key e => simp [printProperty, Property.chars, chars]

theorem map_toList_printProperties (properties : List Property) :
    (printProperties properties).map String.toList = properties.map Property.chars := by
  induction properties with
  | nil => rfl
  | cons p rest ih =>
    rw [printProperties, List.map_cons, ih, List.map_cons, toList_printProperty]

theorem toList_printCall (call : Call) : (printCall call).toList = call.chars := by
  obtain ⟨method, args⟩ := call
  simp [printCall, Call.chars, listed, map_toList_printAll]

theorem flatMap_toList_printCalls (calls : List Call) :
    (printCalls calls).flatMap String.toList = calls.flatMap Call.chars := by
  induction calls with
  | nil => rfl
  | cons call rest ih =>
    rw [printCalls, List.flatMap_cons, ih, List.flatMap_cons, toList_printCall]

@[simp] theorem chars_identifier (name : String) : chars (.identifier name) = name.toList := rfl

@[simp] theorem chars_literal (l : Literal) : chars (.literal l) = l.print.toList := rfl

theorem chars_text (s : String) : chars (.text s) = (Json.quote s).toList := rfl

@[simp] theorem chars_regex (source : String) : chars (.regex source) = source.toList := rfl

@[simp] theorem chars_array (es : List Expr) :
    chars (.array es) = '[' :: (listed (es.map chars) ++ [']']) := by
  simp [chars, print, listed, map_toList_printAll]

@[simp] theorem chars_object_nil : chars (.object []) = ['\x7b', '\x7d'] := rfl

theorem chars_object_of_ne_nil {properties : List Property} (h : properties ≠ []) :
    chars (.object properties) =
      '\x7b' :: ' ' :: (listed (properties.map Property.chars) ++ [' ', '\x7d']) := by
  cases properties with
  | nil => exact absurd rfl h
  | cons first rest => simp [chars, print, listed, map_toList_printProperties]

@[simp] theorem chars_chained (base : Expr) (calls : List Call) :
    chars (.chained base calls) = chars base ++ calls.flatMap Call.chars := by
  rw [chars, print, String.toList_append, String.toList_join, flatMap_toList_printCalls, chars]

end Expr
end RestContract
