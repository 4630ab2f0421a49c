import RestContract.Proofs.ModuleBindings
import RestContract.Proofs.NormalForm
import RestContract.Validation.Pattern

/-!
# The characters that expressions are printed with

Whatever a document says, the texts, numbers, keys and patterns of an expression are printed without
control characters. The names in it are printed as they are. So the characters of an expression
belong to any alphabet that has all other characters and those of its names.
-/

namespace RestContract

/-- No character of a text is one of the first thirty-two, which are control characters. -/
def IsVisible (text : List Char) : Prop := ∀ c ∈ text, 0x20 ≤ c.toNat

instance : DecidablePred IsVisible := fun text =>
  List.decidableBAll (fun c : Char => 0x20 ≤ c.toNat) text

namespace IsVisible

variable {text other : List Char} {c : Char}

theorem nil : IsVisible [] := by simp [IsVisible]

theorem cons (hc : 0x20 ≤ c.toNat) (h : IsVisible text) : IsVisible (c :: text) :=
  List.forall_mem_cons.2 ⟨hc, h⟩

theorem append (h : IsVisible text) (ho : IsVisible other) : IsVisible (text ++ other) :=
  List.forall_mem_append.2 ⟨h, ho⟩

theorem flatMap {α : Type} {f : α → List Char} {xs : List α} (h : ∀ x ∈ xs, IsVisible (f x)) :
    IsVisible (xs.flatMap f) := by
  intro c hc
  obtain ⟨x, hx, hc⟩ := List.mem_flatMap.1 hc
  exact h x hx c hc

theorem of_subset (h : IsVisible text) (hs : ∀ c ∈ other, c ∈ text) : IsVisible other :=
  fun c hc => h c (hs c hc)

theorem replicate (hc : 0x20 ≤ c.toNat) (n : Nat) : IsVisible (List.replicate n c) := by
  intro d hd
  rwa [List.eq_of_mem_replicate hd]

end IsVisible

/-- What holds of all characters of some parts, and of a comma and a blank, holds of all characters
    of their list. -/
theorem forall_mem_listed {P : Char → Prop} (hcomma : P ',') (hblank : P ' ')
    {parts : List (List Char)} (h : ∀ part ∈ parts, ∀ c ∈ part, P c) : ∀ c ∈ listed parts, P c := by
  cases parts with
  | nil => simp
  | cons part rest =>
    obtain ⟨hpart, hrest⟩ := List.forall_mem_cons.1 h
    rw [listed_cons]
    refine List.forall_mem_append.2 ⟨hpart, fun c hc => ?_⟩
    obtain ⟨other, ho, hc⟩ := List.mem_flatMap.1 hc
    simp only [List.mem_cons] at hc
    rcases hc with rfl | rfl | hc
    · exact hcomma
    · exact hblank
    · exact hrest other ho c hc

/-! ## Numbers -/

/-- What holds of all digits holds of all characters of a number. -/
theorem forall_mem_toDigits {P : Char → Prop} {base : Nat} (hb : 1 < base)
    (h : ∀ d < base, P (Nat.digitChar d)) (n : Nat) : ∀ c ∈ Nat.toDigits base n, P c := by
  induction n using Nat.strongRecOn with
  | ind n ih =>
    by_cases hn : n < base
    · rw [Nat.toDigits_of_lt_base hn]
      exact List.forall_mem_singleton.2 (h n hn)
    · have hpos : 0 < n := by omega
      have hlast : n % base < base := Nat.mod_lt _ (by omega)
      rw [Nat.toDigits_of_base_le hb (by omega)]
      exact List.forall_mem_append.2
        ⟨ih _ (Nat.div_lt_self hpos hb), List.forall_mem_singleton.2 (h _ hlast)⟩

theorem isVisible_toDigits {base : Nat} (hb : 1 < base) (hle : base ≤ 16) (n : Nat) :
    IsVisible (Nat.toDigits base n) := by
  have hdigit : ∀ d < 16, 0x20 ≤ (Nat.digitChar d).toNat := by decide
  exact forall_mem_toDigits hb (fun d hd => hdigit d (Nat.lt_of_lt_of_le hd hle)) n

theorem isVisible_int (n : Int) : IsVisible (toString n).toList := by
  rw [toList_toString_int]
  refine .append ?_ (isVisible_toDigits (by decide) (by decide) _)
  split
  · exact .cons (by decide) .nil
  · exact .nil

theorem forall_mem_hex {P : Char → Prop} (h : ∀ d < 16, P (Nat.digitChar d)) (width n : Nat) :
    ∀ c ∈ (Text.hex width n).toList, P c := by
  rw [Text.hex, String.toList_ofList]
  refine List.forall_mem_append.2 ⟨fun c hc => ?_, forall_mem_toDigits (by decide) h n⟩
  rw [List.eq_of_mem_replicate hc]
  exact h 0 (by decide)

theorem isVisible_hex (width n : Nat) : IsVisible (Text.hex width n).toList :=
  forall_mem_hex (by decide) width n

namespace Double

theorem isVisible_positional {digits : List Char} (h : IsVisible digits) (point : Int) :
    IsVisible (positional digits point) := by
  have hzeros := IsVisible.replicate (c := '0') (by decide)
  unfold positional
  split
  · exact .cons (by decide) (.cons (by decide) ((hzeros _).append h))
  · refine .append (.append (h.of_subset fun c => List.mem_of_mem_take) (hzeros _))
      (.cons (by decide) ?_)
    split
    · exact .cons (by decide) .nil
    · exact h.of_subset fun c => List.mem_of_mem_drop

theorem isVisible_scientific {digits : List Char} (h : IsVisible digits) (exponent : Int) :
    IsVisible (scientific digits exponent) := by
  have hpower : IsVisible ((if exponent < 0 then '-' else '+') ::
      (List.replicate (2 - (Nat.toDigits 10 exponent.natAbs).length) '0' ++
        Nat.toDigits 10 exponent.natAbs)) := by
    refine .cons (by split <;> decide) (.append (.replicate (by decide) _) ?_)
    exact isVisible_toDigits (by decide) (by decide) _
  unfold scientific
  dsimp only
  split
  · exact .nil
  · exact .cons (h _ List.mem_cons_self) (.cons (by decide) hpower)
  · next digit rest _ =>
    obtain ⟨hdigit, hrest⟩ := List.forall_mem_cons.1 h
    exact .cons hdigit (.cons (by decide) (.append hrest (.cons (by decide) hpower)))

theorem isVisible_written (decimal : Decimal) : IsVisible decimal.written := by
  have hdigits : IsVisible (Nat.toDigits 10 decimal.digits) :=
    isVisible_toDigits (by decide) (by decide) _
  unfold Decimal.written
  dsimp only
  split
  · exact isVisible_positional hdigits _
  · exact isVisible_scientific hdigits _

theorem isVisible_text (x : Double) : IsVisible x.text.toList := by
  cases x with
  | nan =>
    show IsVisible "nan".toList
    decide
  | infinite negative => cases negative <;> decide
  | finite negative significand exponent =>
    have hdigits : IsVisible (if significand = 0 then "0.0"
        else String.ofList (shortest significand exponent).written).toList := by
      split
      · decide
      · rw [String.toList_ofList]
        exact isVisible_written _
    unfold text
    dsimp only
    split
    · rw [String.toList_append]
      exact .append (by decide) hdigits
    · exact hdigits

end Double

/-! ## Texts and keys -/

namespace Json

theorem isVisible_number (x : Double) : IsVisible (number x).toList := by
  unfold number
  split
  · decide
  · decide
  · decide
  · exact x.isVisible_text

theorem isVisible_quotedChar (c : Char) : IsVisible (quotedChar c) := by
  unfold quotedChar
  repeat' split
  all_goals first | decide | skip
  · exact .cons (by decide) (.cons (by decide) (isVisible_hex 4 _))
  · exact .cons (by omega) .nil

theorem isVisible_quote (s : String) : IsVisible (quote s).toList := by
  rw [toList_quote]
  refine .cons (by decide) (.append (.flatMap fun c _ => isVisible_quotedChar c) (by decide))

theorem isVisible_scalar {s : Scalar} {text : String} (h : scalar quote s = .ok text) :
    IsVisible text.toList := by
  unfold scalar at h
  split at h
  · cases h
    decide
  · cases h
    decide
  · cases h
    decide
  · split at h
    · cases h
      exact isVisible_int _
    · cases h
  · cases h
    exact isVisible_number _
  · cases h
    exact isVisible_quote _
  all_goals cases h

theorem exists_of_map_eq_ok {α β : Type} {x : Except Fault α} {f : α → β} {b : β}
    (h : x.map f = .ok b) : ∃ a, x = .ok a ∧ f a = b := by
  cases x with
  | error fault => cases h
  | ok a =>
    cases h
    exact ⟨a, rfl, rfl⟩

theorem isVisible_key {s : Scalar} {text : String} (h : key quote s = .ok text) :
    IsVisible text.toList := by
  unfold key at h
  split at h
  · cases h
    exact isVisible_quote _
  · obtain ⟨inner, -, rfl⟩ := exists_of_map_eq_ok h
    exact isVisible_quote inner

theorem isVisible_intercalate {parts : List String} (h : ∀ part ∈ parts, IsVisible part.toList) :
    IsVisible (", ".intercalate parts).toList := by
  rw [String.toList_intercalate]
  refine forall_mem_listed (by decide) (by decide) fun part hp => ?_
  obtain ⟨s, hs, rfl⟩ := List.mem_map.1 hp
  exact h s hs

mutual
theorem isVisible_writeWith {opened : List Nat} {value : Value} {text : String}
    (h : writeWith quote opened value = .ok text) : IsVisible text.toList := by
  cases value with
  | scalar s => exact isVisible_scalar h
  | list items mark =>
    rw [writeWith] at h
    split at h
    · cases h
    · obtain ⟨parts, hp, rfl⟩ := exists_of_map_eq_ok h
      rw [String.toList_append, String.toList_append]
      exact .append (.append (by decide) (isVisible_intercalate (isVisible_writeItems hp)))
        (by decide)
  | map fields mark =>
    rw [writeWith] at h
    split at h
    · cases h
    · obtain ⟨parts, hp, rfl⟩ := exists_of_map_eq_ok h
      rw [String.toList_append, String.toList_append]
      exact .append (.append (by decide) (isVisible_intercalate (isVisible_writeFields hp)))
        (by decide)
  | pair first second =>
    obtain ⟨one, hone, h⟩ := exists_of_bind_eq_ok h
    obtain ⟨two, htwo, h⟩ := exists_of_bind_eq_ok h
    cases h
    rw [String.toList_append, String.toList_append, String.toList_append, String.toList_append]
    exact .append (.append (.append (.append (by decide) (isVisible_writeWith hone)) (by decide))
      (isVisible_writeWith htwo)) (by decide)
  | set members => cases h

theorem isVisible_writeItems {opened : List Nat} {items : List Value} {parts : List String}
    (h : writeItems quote opened items = .ok parts) : ∀ part ∈ parts, IsVisible part.toList := by
  cases items with
  | nil =>
    cases h
    simp
  | cons item rest =>
    obtain ⟨first, hfirst, h⟩ := exists_of_bind_eq_ok h
    obtain ⟨others, hothers, h⟩ := exists_of_bind_eq_ok h
    cases h
    exact List.forall_mem_cons.2 ⟨isVisible_writeWith hfirst, isVisible_writeItems hothers⟩

theorem isVisible_writeFields {opened : List Nat} {fields : List (Scalar × Value)}
    {parts : List String} (h : writeFields quote opened fields = .ok parts) :
    ∀ part ∈ parts, IsVisible part.toList := by
  cases fields with
  | nil =>
    cases h
    simp
  | cons field rest =>
    obtain ⟨name, value⟩ := field
    obtain ⟨label, hlabel, h⟩ := exists_of_bind_eq_ok h
    obtain ⟨first, hfirst, h⟩ := exists_of_bind_eq_ok h
    obtain ⟨others, hothers, h⟩ := exists_of_bind_eq_ok h
    cases h
    refine List.forall_mem_cons.2 ⟨?_, isVisible_writeFields hothers⟩
    rw [String.toList_append, String.toList_append]
    exact .append (.append (isVisible_key hlabel) (by decide)) (isVisible_writeWith hfirst)
end

end Json

/-! ## Patterns and names -/

namespace Validation.Pattern

theorem isVisible_escapeChar (c : Char) : IsVisible (escapeChar c) := by
  unfold escapeChar
  split
  · decide
  split
  · decide
  split
  · decide
  split
  · split
    · exact .cons (by decide) (.cons (by decide) (isVisible_hex 2 _))
    · exact .cons (by decide) (.cons (by decide) (isVisible_hex 4 _))
  · next h =>
    simp only [isEscaped, Bool.or_eq_true, decide_eq_true_eq, not_or] at h
    exact .cons (by omega) .nil

theorem isVisible_guardSlashes {text : List Char} (h : IsVisible text) (previous : Option Char) :
    IsVisible (guardSlashes previous text) := by
  induction text generalizing previous with
  | nil => exact .nil
  | cons c rest ih =>
    obtain ⟨hc, hrest⟩ := List.forall_mem_cons.1 h
    unfold guardSlashes
    split
    · exact .cons (by decide) (.cons (by decide) (ih hrest _))
    · exact .cons hc (ih hrest _)

theorem isVisible_sanitize (pattern : String) : IsVisible (sanitize pattern).toList := by
  rw [sanitize, String.toList_ofList, delimit, body]
  exact .cons (by decide) (.append (isVisible_guardSlashes
    (.flatMap fun c _ => isVisible_escapeChar c) none) (by decide))

end Validation.Pattern

theorem Name.isVisible_identifier (name : String) : IsVisible (identifier name).toList := by
  intro c hc
  have h := isIdentifierChar_of_mem_identifier hc
  by_contra hlow
  have hall : ∀ code < 0x20, isIdentifierChar (Char.ofNat code) = false := by decide
  rw [← Char.ofNat_toNat c, hall _ (by omega)] at h
  cases h

/-! ## Alphabets -/

/-- A set of characters with all those that are no control characters. -/
structure Alphabet where
  has : Char → Prop
  has_of_visible : ∀ c : Char, 0x20 ≤ c.toNat → has c

namespace Alphabet

/-- The characters that are no control characters. -/
def visible : Alphabet where
  has c := 0x20 ≤ c.toNat
  has_of_visible _ h := h

/-- All characters. -/
def full : Alphabet where
  has _ := True
  has_of_visible _ _ := trivial

/-- All characters of a text are of the alphabet. -/
def Spells (A : Alphabet) (text : List Char) : Prop := ∀ c ∈ text, A.has c

theorem spells_of_isVisible (A : Alphabet) {text : List Char} (h : IsVisible text) :
    A.Spells text :=
  fun c hc => A.has_of_visible c (h c hc)

variable {A : Alphabet}

theorem Spells.append {text other : List Char} (h : A.Spells text) (ho : A.Spells other) :
    A.Spells (text ++ other) :=
  List.forall_mem_append.2 ⟨h, ho⟩

theorem Spells.cons {c : Char} {text : List Char} (hc : 0x20 ≤ c.toNat) (h : A.Spells text) :
    A.Spells (c :: text) :=
  List.forall_mem_cons.2 ⟨A.has_of_visible c hc, h⟩

theorem Spells.listed {parts : List (List Char)} (h : ∀ part ∈ parts, A.Spells part) :
    A.Spells (RestContract.listed parts) :=
  forall_mem_listed (A.has_of_visible _ (by decide)) (A.has_of_visible _ (by decide)) h

end Alphabet

open Expr

/-- All characters of the text of an expression are of an alphabet. -/
def Expr.IsOver (A : Alphabet) (e : Expr) : Prop := A.Spells e.chars

/-- All characters of the text of a property are of an alphabet. -/
def Property.IsOver (A : Alphabet) (p : Property) : Prop := A.Spells p.chars

/-- All characters of the text of a call are of an alphabet. -/
def Call.IsOver (A : Alphabet) (call : Call) : Prop := A.Spells call.chars

namespace Expr

variable {A : Alphabet}

theorem isOver_identifier {name : String} (h : A.Spells name.toList) :
    (identifier name).IsOver A := h

theorem isVisible_literal (l : Literal) : IsVisible l.print.toList := by
  unfold Literal.print
  split
  · decide
  · decide
  · decide
  · exact isVisible_int _
  · unfold Literal.doubleText
    split
    · exact isVisible_int _
    · exact Json.isVisible_number _
  · exact Json.isVisible_quote _

theorem isOver_literal (l : Literal) : (literal l).IsOver A :=
  A.spells_of_isVisible (isVisible_literal l)

theorem isOver_text (s : String) : (text s).IsOver A := isOver_literal _

theorem isOver_pattern (pattern : String) :
    (regex (Validation.Pattern.sanitize pattern)).IsOver A :=
  A.spells_of_isVisible (Validation.Pattern.isVisible_sanitize pattern)

theorem isOver_array {es : List Expr} (h : ∀ e ∈ es, e.IsOver A) : (array es).IsOver A := by
  rw [IsOver, chars_array]
  refine .cons (by decide) (.append (.listed fun part hp => ?_) (A.spells_of_isVisible (by decide)))
  obtain ⟨e, he, rfl⟩ := List.mem_map.1 hp
  exact h e he

theorem isOver_object {properties : List Property} (h : ∀ p ∈ properties, p.IsOver A) :
    (object properties).IsOver A := by
  rcases eq_or_ne properties [] with rfl | hne
  · exact A.spells_of_isVisible (by decide)
  · rw [IsOver, chars_object_of_ne_nil hne]
    refine .cons (by decide) (.cons (by decide) (.append (.listed fun part hp => ?_)
      (A.spells_of_isVisible (by decide))))
    obtain ⟨p, hm, rfl⟩ := List.mem_map.1 hp
    exact h p hm

theorem isOver_valued {e : Expr} (key : Value) (h : e.IsOver A) :
    (Property.valued key e).IsOver A := by
  refine .append (A.spells_of_isVisible ?_) (.cons (by decide) (.cons (by decide) h))
  rw [keyText]
  cases hk : Json.writeWith Json.quote [] key with
  | error fault => exact .nil
  | ok text => exact Json.isVisible_writeWith hk

theorem isOver_property {e : Expr} (key : String) (h : e.IsOver A) :
    (property key e).IsOver A :=
  isOver_valued _ h

theorem isOver_shorthand {name : String} (h : A.Spells name.toList) :
    (Property.shorthand name).IsOver A := h

theorem isOver_call {method : String} {args : List Expr} (hm : IsVisible method.toList)
    (h : ∀ e ∈ args, e.IsOver A) : (Call.call method args).IsOver A := by
  refine .cons (by decide) (.append (A.spells_of_isVisible hm) (.cons (by decide)
    (.append (.listed fun part hp => ?_) (A.spells_of_isVisible (by decide)))))
  obtain ⟨e, he, rfl⟩ := List.mem_map.1 hp
  exact h e he

theorem spells_calls {calls : List Call} (h : ∀ call ∈ calls, call.IsOver A) :
    A.Spells (calls.flatMap Call.chars) := by
  intro c hc
  obtain ⟨call, hcall, hc⟩ := List.mem_flatMap.1 hc
  exact h call hcall c hc

theorem isOver_chain {base : Expr} {calls : List Call} (hb : base.IsOver A)
    (hc : ∀ call ∈ calls, call.IsOver A) : (chain base calls).IsOver A := by
  rw [IsOver, chars_chain]
  exact .append hb (spells_calls hc)

theorem isOver_z {method : String} {args : List Expr} (hm : IsVisible method.toList)
    (h : ∀ e ∈ args, e.IsOver A) : (z method args).IsOver A := by
  rw [IsOver, z, chars_chained]
  refine .append (A.spells_of_isVisible (by decide)) (spells_calls ?_)
  simpa using isOver_call hm h

theorem isOver_c {method : String} {args : List Expr} (hm : IsVisible method.toList)
    (h : ∀ e ∈ args, e.IsOver A) : (c method args).IsOver A := by
  rw [IsOver, c, chars_chained]
  refine .append (A.spells_of_isVisible (by decide)) (spells_calls ?_)
  simpa using isOver_call hm h

mutual
/-- Constants are printed without control characters. -/
theorem isOver_ofValue (value : Value) : (ofValue value).IsOver A := by
  cases value with
  | scalar s => cases s <;> exact isOver_literal _
  | list items mark => exact isOver_array (isOver_ofItems items)
  | map fields mark => exact isOver_object (isOver_ofFields fields)
  | pair first second =>
    refine isOver_array ?_
    simpa using ⟨isOver_ofValue first, isOver_ofValue second⟩
  | set members => exact isOver_literal _

theorem isOver_ofItems (items : List Value) : ∀ e ∈ ofItems items, e.IsOver A := by
  cases items with
  | nil => simp [ofItems]
  | cons item rest => exact List.forall_mem_cons.2 ⟨isOver_ofValue item, isOver_ofItems rest⟩

theorem isOver_ofFields (fields : List (Scalar × Value)) : ∀ p ∈ ofFields fields, p.IsOver A := by
  cases fields with
  | nil => simp [ofFields]
  | cons field rest =>
    obtain ⟨key, value⟩ := field
    exact List.forall_mem_cons.2 ⟨isOver_property _ (isOver_ofValue value), isOver_ofFields rest⟩
end

end Expr
end RestContract
