import Mathlib.Data.List.TakeDrop
import RestContract.Proofs.Compilable
import RestContract.Proofs.ForeseenRuns
import RestContract.Proofs.UnambiguousText

/-!
# Reading printed constants

A value of JSON without floating-point numbers is printed as a JSON text, and the reader gives the
value back, with the fields of its maps in their order. The reader is followed through the text of
the value with anything behind it that can stand behind a part of an expression.
-/

namespace RestContract

/-! ## Exact values -/

/-- A value without floating-point numbers whose whole numbers all have a property, whose maps have
    texts as keys, no two of them the same, and which does not hold itself. -/
inductive IsExact (P : Int → Prop) : Value → Prop where
  | null : IsExact P .null
  | bool (b : Bool) : IsExact P (.bool b)
  | int {n : Int} (h : P n) : IsExact P (.int n)
  | text (s : String) : IsExact P (.text s)
  | list {items : List Value} (h : ∀ item ∈ items, IsExact P item) : IsExact P (.ofItems items)
  | map {fields : Fields} (hk : fields.hasTextKeys = true) (hn : (fields.map Prod.fst).Nodup)
    (hv : ∀ field ∈ fields, IsExact P field.2) : IsExact P (.ofFields fields)

/-- A whole number with no more digits than are read and written. -/
def IsShort (n : Int) : Prop := n.natAbs < 10 ^ Text.maxDigits

theorem lt_pow_of_log2_lt {n m : Nat} (h : n.log2 < 3 * m) : n < 10 ^ m := by
  have hlog : n < 2 ^ (3 * m) := by
    by_cases hz : n = 0
    · rw [hz]
      exact Nat.two_pow_pos _
    · exact (Nat.log2_lt hz).1 h
  refine Nat.lt_of_lt_of_le hlog ?_
  rw [Nat.pow_mul]
  exact Nat.pow_le_pow_left (by decide) m

theorem isShowable_int_iff (n : Int) : (Scalar.int n).isShowable = true ↔ IsShort n := by
  rw [Scalar.isShowable, Bool.or_eq_true, decide_eq_true_eq, decide_eq_true_eq, Nat.pow_eq, IsShort]
  -- the power is never computed
  generalize Text.maxDigits = m
  exact or_iff_right_of_imp lt_pow_of_log2_lt

namespace Json

open Expr

variable {rest : List Char}

/-! ## Numbers and words -/

theorem head_toDigits_ne_zero {n : Nat} (h : 0 < n) : (Nat.toDigits 10 n).head? ≠ some '0' := by
  have hdigit : ∀ n < 10, 0 < n → [n.digitChar].head? ≠ some '0' := by decide
  induction n using Nat.strongRecOn with
  | ind n ih =>
    by_cases hn : n < 10
    · rw [Nat.toDigits_of_lt_base hn]
      exact hdigit n hn h
    · rw [Nat.toDigits_of_base_le (by decide) (by omega),
        List.head?_append_of_ne_nil _ Nat.toDigits_ne_nil]
      exact ih (n / 10) (by omega) (by omega)

theorem span_digits {digits : List Char} (hd : ∀ c ∈ digits, c.isDigit = true) (hr : Ends rest) :
    (digits ++ rest).span Char.isDigit = (digits, rest) := by
  have hrest : rest.takeWhile Char.isDigit = [] ∧ rest.dropWhile Char.isDigit = rest := by
    cases rest with
    | nil => exact ⟨rfl, rfl⟩
    | cons c rest =>
      have hclosers : closers.any Char.isDigit = false := by decide
      have hc := List.any_eq_false.1 hclosers c (hr c rfl)
      simp [hc]
  rw [List.span_eq_takeWhile_dropWhile, List.takeWhile_append_of_pos hd,
    List.dropWhile_append_of_pos hd, hrest.1, hrest.2, List.append_nil]

theorem wholeDigits_toDigits (n : Nat) (hr : Ends rest) :
    wholeDigits (Nat.toDigits 10 n ++ rest) = (Nat.toDigits 10 n, rest) := by
  rcases Nat.eq_zero_or_pos n with rfl | hpos
  · rfl
  · unfold wholeDigits
    split
    · next heq =>
      have hhead : (Nat.toDigits 10 n ++ rest).head? = (Nat.toDigits 10 n).head? :=
        List.head?_append_of_ne_nil _ Nat.toDigits_ne_nil
      rw [heq] at hhead
      exact absurd hhead.symm (head_toDigits_ne_zero hpos)
    · exact span_digits (fun _ => Nat.isDigit_of_mem_toDigits (by decide) (by decide)) hr

theorem fractionDigits_of_ends (h : Ends rest) : fractionDigits rest = ([], rest) := by
  unfold fractionDigits
  split
  · exact absurd (h _ rfl) (by decide)
  · rfl

theorem exponentPart_of_ends (h : Ends rest) : exponentPart rest = (none, rest) := by
  cases rest with
  | nil => rfl
  | cons c rest =>
    have hmark : ¬ (c = 'e' ∨ c = 'E') := by
      rintro (rfl | rfl) <;> exact absurd (h _ rfl) (by decide)
    rw [exponentPart, if_neg hmark]

theorem readUnsigned_toDigits {left : List Char} {negative : Bool} {n : Nat}
    (hn : n < 10 ^ Text.maxDigits) (hr : Ends rest) :
    readUnsigned left negative (Nat.toDigits 10 n ++ rest) =
      .ok (.int (Double.signed negative n), rest) := by
  have hlength : ¬ (Nat.toDigits 10 n).length > Text.maxDigits :=
    Nat.not_lt.2 ((Nat.length_toDigits_le_iff (by decide) (by decide)).2 hn)
  unfold readUnsigned
  rw [wholeDigits_toDigits n hr]
  cases hdigits : Nat.toDigits 10 n with
  | nil => exact absurd hdigits Nat.toDigits_ne_nil
  | cons first others =>
    rw [← hdigits]
    simp [fractionDigits_of_ends hr, exponentPart_of_ends hr, hlength, naturalOf_toDigits]

/-- A digit, with a sign in front of it or not, starts a number and none of the words. -/
theorem readScalar_of_isDigit {c : Char} (h : c.isDigit = true) (text : List Char) :
    readScalar (c :: text) = readUnsigned (c :: text) false (c :: text) ∧
      readScalar ('-' :: c :: text) = readUnsigned ('-' :: c :: text) true (c :: text) := by
  have hne : ∀ d : Char, d.isDigit = false → (d == c) = false := by
    intro d hd
    rw [beq_eq_false_iff_ne]
    rintro rfl
    rw [hd] at h
    cases h
  constructor
  · rw [readScalar]
    · simp [words, List.isPrefixOf, hne 'n' rfl, hne 't' rfl, hne 'f' rfl, hne 'N' rfl, hne 'I' rfl,
        hne '-' rfl]
    · rintro rest heq
      cases heq
      cases h
  · rw [readScalar]
    simp [words, List.isPrefixOf, hne 'I' rfl]

theorem readScalar_int {n : Int} (hn : IsShort n) (hr : Ends rest) :
    readScalar (chars (.literal (.int n)) ++ rest) = .ok (.int n, rest) := by
  have hread := fun left negative =>
    @readUnsigned_toDigits rest left negative n.natAbs hn hr
  obtain ⟨c, digits, hdigits⟩ :=
    List.exists_cons_of_ne_nil (Nat.toDigits_ne_nil (n := n.natAbs) (b := 10))
  have hc : c.isDigit = true := Nat.isDigit_of_mem_toDigits (by decide) (by decide)
    (hdigits ▸ List.mem_cons_self)
  obtain ⟨hplain, hminus⟩ := readScalar_of_isDigit hc (digits ++ rest)
  rw [hdigits, List.cons_append] at hread
  rw [chars_literal, Literal.print, toList_toString_int, hdigits]
  split_ifs with hneg
  · rw [List.singleton_append, List.cons_append, List.cons_append, hminus, hread, Double.signed,
      if_pos rfl]
    congr
    omega
  · rw [List.nil_append, List.cons_append, hplain, hread, Double.signed, if_neg (by decide)]
    congr
    omega

/-! ## Lists and maps -/

theorem skipSpace_blank (text : List Char) : skipSpace (' ' :: text) = skipSpace text := rfl

theorem skipSpace_of_not {c : Char} (h : isSpace c = false) (text : List Char) :
    skipSpace (c :: text) = c :: text := by
  rw [skipSpace, List.dropWhile_cons_of_neg (by simp [h])]

/-- What the text of a value does not start with. -/
theorem head_chars_ofValue {P : Int → Prop} {v : Value} (h : IsExact P v) :
    ∃ c more, chars (ofValue v) = c :: more ∧ isSpace c = false ∧ c ≠ '\x5d' ∧ c ≠ '\ufeff' := by
  cases h with
  | null => exact ⟨_, _, rfl, rfl, by decide⟩
  | bool b => cases b <;> exact ⟨_, _, rfl, rfl, by decide⟩
  | @int n =>
    obtain ⟨c, more, heq⟩ := List.exists_cons_of_ne_nil (isWord_int n).ne_nil
    have hword := (isWord_int n).isWordChar c (by rw [heq]; exact List.mem_cons_self)
    have hne : ∀ d, isWordChar d = false → c ≠ d := by
      rintro d hd rfl
      rw [hword] at hd
      cases hd
    refine ⟨c, more, heq, ?_, hne _ rfl, hne _ rfl⟩
    simp [isSpace, hne ' ' rfl, hne '\t' rfl, hne '\n' rfl, hne '\r' rfl]
  | text s => exact ⟨_, _, toList_quote s, rfl, by decide⟩
  | list => exact ⟨_, _, chars_array _, rfl, by decide⟩
  | map =>
    obtain ⟨more, hmore⟩ := exists_chars_object (ofFields _)
    exact ⟨_, _, hmore, rfl, by decide⟩

section Steps

variable {fuel depth : Nat} {items : List Value} {fields : Fields} {item value : Value}
  {name : String} {text after : List Char}

/-- An item is the last one, or there are more, as stands behind it. -/
theorem readItems_item (h : readValue fuel depth text = .ok (item, after)) :
    (∀ rest, skipSpace after = '\x5d' :: rest →
      readItems (fuel + 1) depth items text = .ok (.ofItems (items ++ [item]), rest)) ∧
    ∀ rest, skipSpace after = ',' :: rest →
      readItems (fuel + 1) depth items text =
        readItems fuel depth (items ++ [item]) (skipSpace rest) := by
  rw [readItems, h]
  constructor <;> intro rest hr <;> simp only [hr]

/-- A field is the last one, or there are more, as stands behind its value. -/
theorem readFields_field (h : readValue fuel depth (skipSpace text) = .ok (value, after)) :
    (∀ rest, skipSpace after = '\x7d' :: rest →
      readFields (fuel + 1) depth fields ((quote name).toList ++ ':' :: ' ' :: text) =
        .ok (.ofFields (fields.put name value), rest)) ∧
    ∀ rest, skipSpace after = ',' :: rest →
      readFields (fuel + 1) depth fields ((quote name).toList ++ ':' :: ' ' :: text) =
        readFields fuel depth (fields.put name value) (skipSpace rest) := by
  rw [toList_quote, List.cons_append, List.append_assoc, List.singleton_append, readFields,
    readText_quoted]
  simp only [skipSpace_of_not (c := ':') rfl, skipSpace_blank, h]
  constructor <;> intro rest hr <;> simp only [hr]

end Steps

theorem skipSpace_chars {P : Int → Prop} {v : Value} (h : IsExact P v) (rest : List Char) :
    skipSpace (chars (ofValue v) ++ rest) = chars (ofValue v) ++ rest := by
  obtain ⟨c, more, heq, hc, -, -⟩ := head_chars_ofValue h
  rw [heq, List.cons_append, skipSpace_of_not hc]

theorem put_eq_append {fields : Fields} {name : String} (h : .text name ∉ fields.map Prod.fst)
    (value : Value) : fields.put name value = fields ++ [(.text name, value)] := by
  induction fields with
  | nil => rfl
  | cons field rest ih =>
    obtain ⟨key, old⟩ := field
    rw [List.map_cons, List.mem_cons, not_or] at h
    rw [Fields.put, if_neg (Ne.symm h.1), ih h.2, List.cons_append]

/-- The reader gets the value back from its text, with as much fuel as the text has characters. -/
def IsReadAt (depth : Nat) (v : Value) : Prop :=
  ∀ fuel rest, (chars (ofValue v)).length ≤ fuel → Ends rest →
    readValue fuel depth (chars (ofValue v) ++ rest) = .ok (v, rest)

variable {P : Int → Prop} {depth : Nat} {v : Value} {items : List Value} {fields : Fields}

theorem skipSpace_items (hexact : ∀ item ∈ items, IsExact P item) (hne : items ≠ [])
    (rest : List Char) :
    skipSpace (listed ((ofItems items).map chars) ++ rest) =
      listed ((ofItems items).map chars) ++ rest := by
  obtain ⟨item, others, rfl⟩ := List.exists_cons_of_ne_nil hne
  rw [ofItems, List.map_cons, listed_cons, List.append_assoc,
    skipSpace_chars (hexact item List.mem_cons_self)]

theorem readItems_listed (hne : items ≠ []) (hexact : ∀ item ∈ items, IsExact P item)
    (hread : ∀ item ∈ items, IsReadAt depth item) (fuel : Nat) (done : List Value)
    (hfuel : (listed ((ofItems items).map chars)).length < fuel) :
    readItems fuel depth done (listed ((ofItems items).map chars) ++ '\x5d' :: rest) =
      .ok (.ofItems (done ++ items), rest) := by
  induction items generalizing fuel done with
  | nil => exact absurd rfl hne
  | cons item others ih =>
    obtain ⟨fuel, rfl⟩ : ∃ n, fuel = n + 1 := ⟨fuel - 1, by omega⟩
    obtain ⟨-, hexact⟩ := List.forall_mem_cons.1 hexact
    obtain ⟨hitem, hread⟩ := List.forall_mem_cons.1 hread
    rw [ofItems, List.map_cons] at hfuel ⊢
    rcases eq_or_ne others [] with rfl | hothers
    · rw [ofItems, List.map_nil, listed_singleton] at hfuel ⊢
      exact (readItems_item (hitem fuel _ (by omega) (ends_cons (by decide) _))).1 _ rfl
    · have hmore : (ofItems others).map chars ≠ [] := by
        obtain ⟨next, others, rfl⟩ := List.exists_cons_of_ne_nil hothers
        simp [ofItems]
      rw [listed_cons_of_ne_nil _ hmore] at hfuel ⊢
      simp only [List.length_append, List.length_cons] at hfuel
      simp only [List.append_assoc, List.cons_append]
      rw [(readItems_item (hitem fuel _ (by omega) (ends_cons (by decide) _))).2 _ rfl,
        skipSpace_blank, skipSpace_items hexact hothers, ih hothers hexact hread fuel _ (by omega),
        List.append_assoc, List.singleton_append]

theorem chars_property (name : String) (v : Value) :
    (property (Scalar.text name).display (ofValue v)).chars =
      (quote name).toList ++ ':' :: ' ' :: chars (ofValue v) := rfl

theorem skipSpace_fields (hk : fields.hasTextKeys = true) (hne : fields ≠ []) (rest : List Char) :
    skipSpace (listed ((ofFields fields).map Property.chars) ++ rest) =
      listed ((ofFields fields).map Property.chars) ++ rest := by
  obtain ⟨⟨key, v⟩, others, rfl⟩ := List.exists_cons_of_ne_nil hne
  obtain ⟨name, rfl⟩ := exists_text_of_hasTextKeys hk List.mem_cons_self
  rw [ofFields, List.map_cons, listed_cons, chars_property, toList_quote, List.cons_append,
    List.cons_append, List.cons_append, skipSpace_of_not rfl]

theorem readFields_listed (hne : fields ≠ []) (hk : fields.hasTextKeys = true)
    (hexact : ∀ field ∈ fields, IsExact P field.2)
    (hread : ∀ field ∈ fields, IsReadAt depth field.2) (fuel : Nat) (done : Fields)
    (hn : ((done ++ fields).map Prod.fst).Nodup)
    (hfuel : (listed ((ofFields fields).map Property.chars)).length < fuel) :
    readFields fuel depth done
        (listed ((ofFields fields).map Property.chars) ++ ' ' :: '\x7d' :: rest) =
      .ok (.ofFields (done ++ fields), rest) := by
  induction fields generalizing fuel done with
  | nil => exact absurd rfl hne
  | cons field others ih =>
    obtain ⟨fuel, rfl⟩ : ∃ n, fuel = n + 1 := ⟨fuel - 1, by omega⟩
    obtain ⟨key, v⟩ := field
    obtain ⟨name, rfl⟩ := exists_text_of_hasTextKeys hk List.mem_cons_self
    have hkeys : Fields.hasTextKeys others = true := by simpa [Fields.hasTextKeys] using hk
    obtain ⟨hv, hexact⟩ := List.forall_mem_cons.1 hexact
    obtain ⟨hreadv : IsReadAt depth v, hread⟩ := List.forall_mem_cons.1 hread
    -- The keys are distinct, so a field is put behind those that have been read.
    have hput : done.put name v = done ++ [(.text name, v)] := by
      rw [List.map_append, List.map_cons] at hn
      exact put_eq_append (fun hm => List.disjoint_of_nodup_append hn hm List.mem_cons_self) v
    rw [ofFields, List.map_cons, chars_property] at hfuel ⊢
    rcases eq_or_ne others [] with rfl | hothers
    · rw [ofFields, List.map_nil, listed_singleton] at hfuel ⊢
      simp only [List.length_append, List.length_cons] at hfuel
      have hread := hreadv fuel (' ' :: '\x7d' :: rest) (by omega) (ends_cons (by decide) _)
      rw [← skipSpace_chars hv] at hread
      simp only [List.append_assoc, List.cons_append]
      rw [(readFields_field hread).1 _ rfl, hput]
    · have hmore : (ofFields others).map Property.chars ≠ [] := by
        obtain ⟨next, others, rfl⟩ := List.exists_cons_of_ne_nil hothers
        simp [ofFields]
      rw [listed_cons_of_ne_nil _ hmore] at hfuel ⊢
      simp only [List.length_append, List.length_cons] at hfuel
      have hfirst := hreadv fuel (',' :: ' ' :: (listed ((ofFields others).map Property.chars) ++
        ' ' :: '\x7d' :: rest)) (by omega) (ends_cons (by decide) _)
      rw [← skipSpace_chars hv] at hfirst
      simp only [List.append_assoc, List.cons_append]
      rw [(readFields_field hfirst).2 _ rfl, hput, skipSpace_blank,
        skipSpace_fields hkeys hothers,
        ih hothers hkeys hexact hread fuel _ (by rwa [List.append_assoc]) (by omega),
        List.append_assoc, List.singleton_append]

theorem readValue_scalar {c : Char} {text : List Char} {s : Scalar} (hq : c ≠ '"')
    (hb : c ≠ '\x5b') (hc : c ≠ '\x7b') (h : readScalar (c :: text) = .ok (s, rest)) (fuel : Nat) :
    readValue (fuel + 1) depth (c :: text) = .ok (.scalar s, rest) := by
  rw [readValue]
  · rw [h]
  all_goals simp [hq, hb, hc]

theorem isReadAt_int {n : Int} (h : IsShort n) : IsReadAt depth (.int n) := by
  intro fuel rest hfuel hr
  have hread := readScalar_int h hr
  obtain ⟨c, more, heq⟩ := List.exists_cons_of_ne_nil (isWord_int n).ne_nil
  have hword := (isWord_int n).isWordChar c (by rw [heq]; exact List.mem_cons_self)
  rw [ofValue, heq] at hfuel ⊢
  rw [heq] at hread
  obtain ⟨fuel, rfl⟩ : ∃ m, fuel = m + 1 := ⟨fuel - 1, by rw [List.length_cons] at hfuel; omega⟩
  refine readValue_scalar ?_ ?_ ?_ hread fuel
  all_goals
    rintro rfl
    cases hword

theorem isReadAt_text (s : String) : IsReadAt depth (.text s) := by
  intro fuel rest hfuel hr
  rw [ofValue, ← text, chars_text, toList_quote] at hfuel ⊢
  obtain ⟨fuel, rfl⟩ : ∃ m, fuel = m + 1 := ⟨fuel - 1, by rw [List.length_cons] at hfuel; omega⟩
  rw [List.cons_append, List.append_assoc, List.singleton_append, readValue, readText_quoted]

theorem isReadAt_list (hexact : ∀ item ∈ items, IsExact P item)
    (hread : ∀ item ∈ items, IsReadAt depth item) : IsReadAt (depth + 1) (.ofItems items) := by
  intro fuel rest hfuel hr
  rw [ofValue, chars_array] at hfuel ⊢
  simp only [List.length_cons, List.length_append, List.length_nil] at hfuel
  obtain ⟨fuel, rfl⟩ : ∃ m, fuel = m + 1 := ⟨fuel - 1, by omega⟩
  rcases eq_or_ne items [] with rfl | hne
  · rfl
  · rw [List.cons_append, List.append_assoc, List.singleton_append, readValue,
      skipSpace_items hexact hne]
    split
    · next heq =>
      -- the text of the first item does not start like the closing bracket
      obtain ⟨item, others, rfl⟩ := List.exists_cons_of_ne_nil hne
      obtain ⟨c, more, hc, -, hclose, -⟩ := head_chars_ofValue (hexact item List.mem_cons_self)
      rw [ofItems, List.map_cons, listed_cons, hc] at heq
      exact absurd (List.cons.inj heq).1 hclose
    · exact readItems_listed hne hexact hread fuel [] (by omega)

theorem isReadAt_map (hk : fields.hasTextKeys = true) (hn : (fields.map Prod.fst).Nodup)
    (hexact : ∀ field ∈ fields, IsExact P field.2)
    (hread : ∀ field ∈ fields, IsReadAt depth field.2) : IsReadAt (depth + 1) (.ofFields fields) := by
  intro fuel rest hfuel hr
  rw [ofValue] at hfuel ⊢
  rcases eq_or_ne fields [] with rfl | hne
  · obtain ⟨fuel, rfl⟩ : ∃ m, fuel = m + 1 := ⟨fuel - 1, by simp [ofFields] at hfuel; omega⟩
    rfl
  · have hproperties : ofFields fields ≠ [] := by
      obtain ⟨field, others, rfl⟩ := List.exists_cons_of_ne_nil hne
      simp [ofFields]
    rw [chars_object_of_ne_nil hproperties] at hfuel ⊢
    simp only [List.length_cons, List.length_append] at hfuel
    obtain ⟨fuel, rfl⟩ : ∃ m, fuel = m + 1 := ⟨fuel - 1, by omega⟩
    simp only [List.cons_append, List.append_assoc, List.nil_append]
    rw [readValue, skipSpace_blank, skipSpace_fields hk hne]
    split
    · next heq =>
      -- the text of the first key does not start like the closing brace
      obtain ⟨⟨key, v⟩, others, rfl⟩ := List.exists_cons_of_ne_nil hne
      obtain ⟨name, rfl⟩ := exists_text_of_hasTextKeys hk List.mem_cons_self
      rw [ofFields, List.map_cons, listed_cons, chars_property, toList_quote] at heq
      exact absurd (List.cons.inj heq).1 (by decide)
    · exact readFields_listed hne hk hexact hread fuel [] hn (by omega)

/-- The reader gets a value back from its text, as long as there is room for its lists and maps. -/
theorem isReadAt_of_isExact (h : IsExact IsShort v) (hd : v.depth ≤ depth) : IsReadAt depth v := by
  -- The depth that is left is that of the reader; the fuel only has to exceed the length of the
  -- text.
  induction h generalizing depth with
  | null =>
    rintro (_ | fuel) rest hfuel -
    · cases hfuel
    · exact readValue_scalar (by decide) (by decide) (by decide) rfl fuel
  | bool b =>
    rintro (_ | fuel) rest hfuel -
    · cases b <;> cases hfuel
    · cases b <;> exact readValue_scalar (by decide) (by decide) (by decide) rfl fuel
  | int h => exact isReadAt_int h
  | text s => exact isReadAt_text s
  | list hexact ih =>
    obtain ⟨depth, rfl⟩ : ∃ n, depth = n + 1 := ⟨depth - 1, by rw [Value.depth] at hd; omega⟩
    refine isReadAt_list hexact fun item hm => ih item hm ?_
    have hlt : item.depth < (Value.ofItems _).depth := Value.depth_lt_of_mem_items hm
    omega
  | map hk hn hexact ih =>
    obtain ⟨depth, rfl⟩ : ∃ n, depth = n + 1 := ⟨depth - 1, by rw [Value.depth] at hd; omega⟩
    refine isReadAt_map hk hn hexact fun field hm => ih field hm ?_
    have hlt : field.2.depth < (Value.ofFields _).depth := Value.depth_lt_of_mem_fields hm
    omega

/-- A whole text that is the text of a value is read as this value, as long as there is room for its
    lists and maps. -/
theorem readIn_print_ofValue (h : IsExact IsShort v) (hd : v.depth ≤ depth) :
    readIn depth (print (ofValue v)) = .ok v := by
  have hread := isReadAt_of_isExact h hd (2 * (chars (ofValue v)).length + 2) [] (by omega)
    (by simp [Ends])
  have hspace := skipSpace_chars h []
  rw [List.append_nil] at hread hspace
  have hall : readAll depth (chars (ofValue v)) = .ok v := by
    obtain ⟨c, more, heq, -, -, hmark⟩ := head_chars_ofValue h
    rw [readAll, hspace, hread, heq, List.head?_cons, if_neg (by simpa using hmark)]
    rfl
  rw [readIn, ← chars, hall]

end Json
end RestContract
