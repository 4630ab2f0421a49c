import RestContract.Proofs.ModuleBindings
import RestContract.Proofs.ModuleText
import RestContract.Proofs.NormalForm

/-!
# Printed expressions are unambiguous

The text of an expression tells the expression, up to how its chains are put together. Every part of
a text tells where it ends: a word goes on as long as its characters do, a text as far as its closing
quote, and everything else stands between brackets or behind a point. So two texts with something
behind them are taken apart from the front, and every step gives the same part on both sides.
-/

namespace RestContract

namespace Expr

/-! ## Plain expressions -/

/-- The words that stand for constants. -/
def constantWords : List String := ["null", "true", "false"]

/-- An expression without regular expressions and floating-point numbers, whose names are written
    like identifiers and whose keys are texts. -/
inductive IsPlain : Expr → Prop where
  | identifier {name : String} (hi : Name.IsIdentifier name) (hw : name ∉ constantWords) :
    IsPlain (.identifier name)
  | literal {l : Literal} (h : ∀ x, l ≠ .double x) : IsPlain (.literal l)
  | array {es : List Expr} (h : ∀ e ∈ es, IsPlain e) : IsPlain (.array es)
  | object {properties : List Property}
    (hs : ∀ name, .shorthand name ∈ properties → Name.IsIdentifier name)
    (hk : ∀ key e, .valued key e ∈ properties → ∃ s, key = .text s)
    (hv : ∀ key e, .valued key e ∈ properties → IsPlain e) : IsPlain (.object properties)
  | chained {base : Expr} {calls : List Call} (hb : IsPlain base)
    (hm : ∀ method args, .call method args ∈ calls → Name.IsIdentifier method)
    (ha : ∀ method args, .call method args ∈ calls → ∀ e ∈ args, IsPlain e) :
    IsPlain (.chained base calls)

theorem isPlain_chain {base : Expr} {calls : List Call} (hb : IsPlain base)
    (hm : ∀ method args, .call method args ∈ calls → Name.IsIdentifier method)
    (ha : ∀ method args, .call method args ∈ calls → ∀ e ∈ args, IsPlain e) :
    IsPlain (chain base calls) := by
  unfold chain
  split
  · exact hb
  · cases hb with
    | chained hb hearlier hargs =>
      refine .chained hb ?_ ?_
      · intro method args h
        exact (List.mem_append.1 h).elim (hearlier method args) (hm method args)
      · intro method args h
        exact (List.mem_append.1 h).elim (hargs method args) (ha method args)
  · exact .chained hb hm ha

theorem isPlain_normal {e : Expr} (h : IsPlain e) : IsPlain (normal e) := by
  induction h with
  | identifier hi hw => exact .identifier hi hw
  | literal h => exact .literal h
  | array _ ih =>
    rw [normal, normalAll_eq_map]
    refine .array fun e he => ?_
    obtain ⟨f, hf, rfl⟩ := List.mem_map.1 he
    exact ih f hf
  | object hs hk _ ih =>
    rw [normal, normalProperties_eq_map]
    refine .object (fun name h => ?_) (fun key e h => ?_) (fun key e h => ?_)
    all_goals
      obtain ⟨p, hp, heq⟩ := List.mem_map.1 h
      cases p <;> cases heq
    · exact hs _ hp
    · exact hk _ _ hp
    · exact ih _ _ hp
  | chained _ hm _ ihb iha =>
    rw [normal, normalCalls_eq_map]
    refine isPlain_chain ihb (fun method args h => ?_) (fun method args h => ?_)
    all_goals
      obtain ⟨call, hcall, heq⟩ := List.mem_map.1 h
      cases call
      cases heq
    · exact hm _ _ hcall
    · intro e he
      rw [normalAll_eq_map] at he
      obtain ⟨f, hf, rfl⟩ := List.mem_map.1 he
      exact iha _ _ hcall f hf

/-! ## Words -/

/-- Whether a character can stand in a name or a whole number. -/
def isWordChar (c : Char) : Bool := Name.isIdentifierChar c || c == '-'

/-- What follows a word does not go on with it. -/
def Stops (rest : List Char) : Prop := ∀ c ∈ rest.head?, isWordChar c = false

/-- A word tells where it ends. -/
theorem eq_of_word_append {word other rest tail : List Char}
    (hw : ∀ c ∈ word, isWordChar c = true) (ho : ∀ c ∈ other, isWordChar c = true)
    (hr : Stops rest) (ht : Stops tail) (h : word ++ rest = other ++ tail) :
    word = other ∧ rest = tail := by
  induction word generalizing other with
  | nil =>
    cases other with
    | nil => exact ⟨rfl, h⟩
    | cons c other =>
      have hc := hr c (by rw [List.nil_append] at h; simp [h])
      rw [ho c List.mem_cons_self] at hc
      cases hc
  | cons c word ih =>
    cases other with
    | nil =>
      have hc := ht c (by rw [List.nil_append] at h; simp [← h])
      rw [hw c List.mem_cons_self] at hc
      cases hc
    | cons d other =>
      obtain ⟨rfl, happend⟩ := List.cons.inj h
      obtain ⟨rfl, hrest⟩ := ih (fun c hc => hw c (List.mem_cons_of_mem _ hc))
        (fun c hc => ho c (List.mem_cons_of_mem _ hc)) happend
      exact ⟨rfl, hrest⟩

/-- The expression that a word stands for. -/
def ofWord (word : List Char) : Expr :=
  if word = "null".toList then .literal .null
  else if word = "true".toList then .literal (.bool true)
  else if word = "false".toList then .literal (.bool false)
  else
    match word with
    | '-' :: digits => .literal (.int (-Text.naturalOf digits))
    | c :: rest =>
      if c.isDigit then .literal (.int (Text.naturalOf (c :: rest)))
      else .identifier (String.ofList (c :: rest))
    | [] => .identifier ""

/-- The text of an expression is a word that stands for it. -/
structure IsWord (e : Expr) : Prop where
  isWordChar : ∀ c ∈ chars e, isWordChar c = true
  ne_nil : chars e ≠ []
  ofWord : ofWord (chars e) = e

theorem isDigit_eq_false_of_isIdentifierStart {c : Char} (h : Name.isIdentifierStart c = true) :
    c.isDigit = false ∧ c ≠ '-' := by
  constructor
  · have hall : ∀ code ≤ 57, 48 ≤ code → Name.isIdentifierStart (Char.ofNat code) = false := by
      decide
    by_contra hd
    simp only [Char.isDigit, Bool.not_eq_false, Bool.and_eq_true, decide_eq_true_eq] at hd
    rw [← Char.ofNat_toNat c, hall c.toNat hd.2 hd.1] at h
    cases h
  · rintro rfl
    cases h

theorem isWordChar_of_mem {name : String} (h : Name.IsIdentifier name) :
    ∀ c ∈ name.toList, isWordChar c = true := by
  obtain ⟨first, rest, heq, hf, hr⟩ := h
  intro c hc
  rw [heq] at hc
  rcases List.mem_cons.1 hc with rfl | hc
  · simp [isWordChar, Name.isIdentifierChar_of_start hf]
  · simp [isWordChar, hr c hc]

/-- A word that is no constant and has no sign is a number or a name. -/
theorem ofWord_cons {c : Char} {rest : List Char} (hc : c ≠ '-')
    (hne : ∀ word ∈ constantWords, c :: rest ≠ word.toList) :
    ofWord (c :: rest) = if c.isDigit then .literal (.int (Text.naturalOf (c :: rest)))
      else .identifier (String.ofList (c :: rest)) := by
  unfold ofWord
  rw [if_neg (hne _ (by simp [constantWords])), if_neg (hne _ (by simp [constantWords])),
    if_neg (hne _ (by simp [constantWords]))]
  split
  · next heq => exact absurd (List.cons.inj heq).1 hc
  · next heq =>
    obtain ⟨rfl, rfl⟩ := List.cons.inj heq
    rfl
  · next heq => cases heq

theorem isWord_identifier {name : String} (hi : Name.IsIdentifier name)
    (hw : name ∉ constantWords) : IsWord (.identifier name) := by
  obtain ⟨first, rest, heq, hf, hr⟩ := hi
  obtain ⟨hd, hm⟩ := isDigit_eq_false_of_isIdentifierStart hf
  have hne : ∀ word ∈ constantWords, first :: rest ≠ word.toList := by
    rintro word hword h
    rw [← heq, String.toList_inj] at h
    exact hw (h ▸ hword)
  constructor
  · exact isWordChar_of_mem ⟨first, rest, heq, hf, hr⟩
  · simp [heq]
  · rw [chars_identifier, heq, ofWord_cons hm hne, if_neg (by simp [hd]), ← heq,
      String.ofList_toList]

theorem ofWord_minus (digits : List Char) :
    ofWord ('-' :: digits) = .literal (.int (-Text.naturalOf digits)) := by
  unfold ofWord
  rw [if_neg (by simp), if_neg (by simp), if_neg (by simp)]
  rfl

theorem ofWord_digits {word : List Char} (hn : word ≠ []) (h : ∀ c ∈ word, c.isDigit = true) :
    ofWord word = .literal (.int (Text.naturalOf word)) := by
  have hne : ∀ constant ∈ constantWords, word ≠ constant.toList := by
    have hall : ∀ constant ∈ constantWords, constant.toList.all Char.isDigit = false := by decide
    rintro constant hc rfl
    cases (List.all_eq_true.2 h).symm.trans (hall constant hc)
  cases word with
  | nil => exact absurd rfl hn
  | cons c rest =>
    have hsign : c ≠ '-' := by
      rintro rfl
      exact absurd (h _ List.mem_cons_self) (by decide)
    rw [ofWord_cons hsign hne, if_pos (h c List.mem_cons_self)]

theorem isWord_int (n : Int) : IsWord (.literal (.int n)) := by
  have hdigits : ∀ c ∈ Nat.toDigits 10 n.natAbs, c.isDigit = true :=
    fun c => Nat.isDigit_of_mem_toDigits (by decide) (by decide)
  have hchars : chars (.literal (.int n)) =
      (if n < 0 then ['-'] else []) ++ Nat.toDigits 10 n.natAbs := toList_toString_int n
  constructor
  · intro c hc
    rw [hchars, List.mem_append] at hc
    rcases hc with hc | hc
    · split at hc
      · cases List.mem_singleton.1 hc
        rfl
      · cases hc
    · simp [Expr.isWordChar, Name.isIdentifierChar, hdigits c hc]
  · rw [hchars]
    simp
  · rw [hchars]
    split
    · rw [List.cons_append, List.nil_append, ofWord_minus, naturalOf_toDigits]
      congr
      omega
    · rw [List.nil_append, ofWord_digits Nat.toDigits_ne_nil hdigits, naturalOf_toDigits]
      congr
      omega

/-- A plain expression without calls is a word, a text, or stands between brackets. -/
theorem isWord_or_of_isPlain {e : Expr} (h : IsPlain e)
    (hn : ∀ base calls, e ≠ .chained base calls) :
    IsWord e ∨ (∃ s, e = .text s) ∨ (∃ es, e = .array es) ∨ ∃ properties, e = .object properties := by
  cases h with
  | identifier hi hw => exact .inl (isWord_identifier hi hw)
  | @literal l hl =>
    cases l with
    | null => exact .inl ⟨List.all_eq_true.1 (by decide), by decide, rfl⟩
    | bool b => cases b <;> exact .inl ⟨List.all_eq_true.1 (by decide), by decide, rfl⟩
    | int n => exact .inl (isWord_int n)
    | double x => exact absurd rfl (hl x)
    | text s => exact .inr (.inl ⟨s, rfl⟩)
  | array => exact .inr (.inr (.inl ⟨_, rfl⟩))
  | object => exact .inr (.inr (.inr ⟨_, rfl⟩))
  | chained => exact absurd rfl (hn _ _)

/-! ## Where parts end -/

/-- The characters that stand behind a part of an expression. -/
def closers : List Char := [',', ' ', ']', ')']

/-- What follows is not part of an expression. -/
def Ends (rest : List Char) : Prop := ∀ c ∈ rest.head?, c ∈ closers

/-- A text starts with a character that does not stand behind a part. -/
def Opens (text : List Char) : Prop := ∃ c ∈ text.head?, c ∉ closers

theorem Ends.stops {rest : List Char} (h : Ends rest) : Stops rest := by
  intro c hc
  have hall : closers.any isWordChar = false := by decide
  exact Bool.eq_false_iff.2 (List.any_eq_false.1 hall c (h c hc))

theorem ends_cons {c : Char} (h : c ∈ closers) (rest : List Char) : Ends (c :: rest) := by
  rintro d hd
  cases hd
  exact h

theorem Opens.append {text : List Char} (h : Opens text) (rest : List Char) :
    Opens (text ++ rest) := by
  obtain ⟨c, hc, hcloser⟩ := h
  exact ⟨c, List.mem_head?_append_of_mem_head? hc, hcloser⟩

theorem opens_of_isWordChar {text : List Char} (hn : text ≠ [])
    (h : ∀ c ∈ text, isWordChar c = true) : Opens text := by
  cases text with
  | nil => exact absurd rfl hn
  | cons c rest =>
    refine ⟨c, rfl, fun hc => ?_⟩
    have hword := h c List.mem_cons_self
    rw [(ends_cons hc rest).stops c rfl] at hword
    cases hword

theorem opens_quote (s : String) : Opens (Json.quote s).toList :=
  ⟨'"', by rw [Json.toList_quote]; rfl, by decide⟩

theorem IsWord.opens {e : Expr} (h : IsWord e) : Opens (chars e) :=
  opens_of_isWordChar h.ne_nil h.isWordChar

theorem exists_chars_object (properties : List Property) :
    ∃ more, chars (.object properties) = '\x7b' :: more := by
  cases properties with
  | nil => exact ⟨_, chars_object_nil⟩
  | cons p rest => exact ⟨_, chars_object_of_ne_nil (by simp)⟩

theorem IsPlain.opens {e : Expr} (h : IsPlain e) : Opens (chars e) := by
  induction h with
  | identifier hi hw => exact (isWord_identifier hi hw).opens
  | @literal l hl =>
    rcases isWord_or_of_isPlain (.literal hl) (by simp) with hw | ⟨s, heq⟩ | ⟨es, heq⟩ | ⟨ps, heq⟩
    · exact hw.opens
    · exact heq ▸ opens_quote s
    · cases heq
    · cases heq
  | array => exact ⟨'[', by simp, by decide⟩
  | @object properties =>
    obtain ⟨more, hmore⟩ := exists_chars_object properties
    exact ⟨'\x7b', by rw [hmore]; rfl, by decide⟩
  | chained _ _ _ ihb =>
    rw [chars_chained]
    exact ihb.append _

/-! ## Taking texts apart -/

section Splits

variable {α : Type} {text : α → List Char} {P : α → Prop}

/-- The text of a part tells the part and where it ends, among the parts in question. -/
def Splits (text : α → List Char) (P : α → Prop) (x : α) : Prop :=
  ∀ y, P y → ∀ rest tail, Ends rest → Ends tail → text x ++ rest = text y ++ tail →
    x = y ∧ rest = tail

/-- The parts behind the first one of a list, up to the bracket that closes it. -/
theorem eq_of_further_append {closing : Char} {xs ys : List α} {rest tail : List Char}
    (hc : closing ∈ closers) (hcomma : closing ≠ ',') (hx : ∀ x ∈ xs, Splits text P x)
    (hy : ∀ y ∈ ys, P y)
    (h : ((xs.map text).flatMap fun part => ',' :: ' ' :: part) ++ closing :: rest =
      ((ys.map text).flatMap fun part => ',' :: ' ' :: part) ++ closing :: tail) :
    xs = ys ∧ rest = tail := by
  -- Behind a part comes a comma or the bracket that closes the list, and both end the part.
  have hends : ∀ (parts : List (List Char)) (rest : List Char),
      Ends ((parts.flatMap fun part => ',' :: ' ' :: part) ++ closing :: rest) := by
    intro parts rest
    cases parts with
    | nil => exact ends_cons hc rest
    | cons => exact ends_cons (by decide) _
  induction xs generalizing ys with
  | nil =>
    cases ys with
    | nil => exact ⟨rfl, (List.cons.inj h).2⟩
    | cons y ys => exact absurd (List.cons.inj h).1 hcomma
  | cons x xs ih =>
    cases ys with
    | nil => exact absurd (List.cons.inj h).1.symm hcomma
    | cons y ys =>
      simp only [List.map_cons, List.flatMap_cons, List.cons_append, List.append_assoc,
        List.cons.injEq, true_and] at h
      obtain ⟨rfl, hrest⟩ := hx x List.mem_cons_self y (hy y List.mem_cons_self) _ _
        (hends _ _) (hends _ _) h
      obtain ⟨rfl, heq⟩ := ih (fun x hm => hx x (List.mem_cons_of_mem _ hm))
        (fun y hm => hy y (List.mem_cons_of_mem _ hm)) hrest
      exact ⟨rfl, heq⟩

/-- A list of parts tells its members and where it ends. -/
theorem eq_of_listed_append (closing : Char) {xs ys : List α} {rest tail : List Char}
    (hc : closing ∈ closers) (hcomma : closing ≠ ',') (hx : ∀ x ∈ xs, Splits text P x)
    (hxo : ∀ x ∈ xs, Opens (text x)) (hy : ∀ y ∈ ys, P y) (hyo : ∀ y ∈ ys, Opens (text y))
    (h : listed (xs.map text) ++ closing :: rest = listed (ys.map text) ++ closing :: tail) :
    xs = ys ∧ rest = tail := by
  have hopen : ∀ {z : α} (more rest tail : List Char), Opens (text z) →
      closing :: rest ≠ text z ++ more ++ tail := by
    intro z more rest tail ho heq
    obtain ⟨c, hhead, hcloser⟩ := (ho.append more).append tail
    rw [← heq] at hhead
    cases hhead
    exact hcloser hc
  cases xs with
  | nil =>
    cases ys with
    | nil => exact ⟨rfl, (List.cons.inj h).2⟩
    | cons y ys =>
      rw [List.map_cons, listed_cons] at h
      exact absurd h (hopen _ _ _ (hyo y List.mem_cons_self))
  | cons x xs =>
    cases ys with
    | nil =>
      rw [List.map_cons, listed_cons] at h
      exact absurd h.symm (hopen _ _ _ (hxo x List.mem_cons_self))
    | cons y ys =>
      -- with a comma and a blank in front, the first part is one like the others
      refine eq_of_further_append hc hcomma hx hy ?_
      rw [List.map_cons, List.map_cons, listed_cons, listed_cons] at h
      simp only [List.map_cons, List.flatMap_cons, List.cons_append]
      rw [h]

end Splits

/-- An expression that is plain and in normal form. -/
def IsClear (e : Expr) : Prop := IsPlain e ∧ IsNormal e

/-- The value of a property is clear, and so is what it stands under. -/
def IsClearProperty : Property → Prop
  | .shorthand name => Name.IsIdentifier name
  | .valued key e => (∃ s, key = .text s) ∧ IsClear e

/-- The arguments of a call are clear, and its name is written like an identifier. -/
def IsClearCall : Call → Prop
  | .call method args => Name.IsIdentifier method ∧ ∀ e ∈ args, IsClear e

theorem opens_property {p : Property} (h : IsClearProperty p) : Opens p.chars := by
  cases p with
  | shorthand name =>
    obtain ⟨first, rest, heq, -, -⟩ := id h
    refine opens_of_isWordChar ?_ (isWordChar_of_mem h)
    rw [Property.chars, heq]
    exact List.cons_ne_nil first rest
  | valued key e =>
    obtain ⟨⟨s, rfl⟩, -⟩ := h
    exact (opens_quote s).append _

/-- A property is told by its text where its value is told. -/
theorem splits_property {p : Property} (hp : IsClearProperty p)
    (hv : ∀ key e, p = .valued key e → Splits chars IsClear e) :
    Splits Property.chars IsClearProperty p := by
  -- a name and a text between quotes start differently
  have hmixed : ∀ {name s : String} {more rest tail : List Char}, Name.IsIdentifier name →
      name.toList ++ rest ≠ (Json.quote s).toList ++ more ++ tail := by
    rintro name s more rest tail ⟨first, others, heq, hfirst, -⟩ h
    rw [heq, Json.toList_quote] at h
    obtain ⟨rfl, -⟩ := List.cons.inj h
    cases hfirst
  intro q hq rest tail hr ht h
  cases p with
  | shorthand name =>
    cases q with
    | shorthand other =>
      obtain ⟨heq, hrest⟩ :=
        eq_of_word_append (isWordChar_of_mem hp) (isWordChar_of_mem hq) hr.stops ht.stops h
      exact ⟨by rw [String.toList_injective heq], hrest⟩
    | valued key e =>
      obtain ⟨⟨s, rfl⟩, -⟩ := hq
      exact absurd h (hmixed hp)
  | valued key e =>
    obtain ⟨⟨s, rfl⟩, -⟩ := hp
    cases q with
    | shorthand other => exact absurd h.symm (hmixed hq)
    | valued key f =>
      obtain ⟨⟨t, rfl⟩, hf⟩ := hq
      rw [Property.chars, Property.chars, List.append_assoc, List.append_assoc] at h
      obtain ⟨rfl, hvalue⟩ := Json.eq_of_quote_append h
      obtain ⟨rfl, hrest⟩ := hv _ e rfl f hf rest tail hr ht (by simpa using hvalue)
      exact ⟨rfl, hrest⟩

theorem not_ends_calls (call : Call) (more : List Call) (rest : List Char) :
    ¬ Ends ((call :: more).flatMap Call.chars ++ rest) := by
  obtain ⟨method, args⟩ := call
  intro h
  exact absurd (h '.' rfl) (by decide)

/-- A call is told by its text where its arguments are told, whatever follows. -/
theorem eq_of_call_append {method : String} {args : List Expr} {other : Call}
    {rest tail : List Char} (hc : IsClearCall (.call method args))
    (hs : ∀ e ∈ args, Splits chars IsClear e) (ho : IsClearCall other)
    (h : Call.chars (.call method args) ++ rest = other.chars ++ tail) :
    .call method args = other ∧ rest = tail := by
  obtain ⟨name, parts⟩ := other
  obtain ⟨hmethod, hargs⟩ := hc
  obtain ⟨hname, hparts⟩ := ho
  have hstop : ∀ more, Stops ('(' :: more) := by
    rintro more c hc
    cases hc
    rfl
  simp only [Call.chars, List.cons_append, List.append_assoc, List.cons.injEq, true_and,
    List.nil_append] at h
  obtain ⟨heq, hbracket⟩ := eq_of_word_append (isWordChar_of_mem hmethod)
    (isWordChar_of_mem hname) (hstop _) (hstop _) h
  obtain rfl := String.toList_injective heq
  obtain ⟨rfl, hrest⟩ := eq_of_listed_append ')' (by decide) (by decide) hs
    (fun e he => (hargs e he).1.opens) hparts (fun e he => (hparts e he).1.opens)
    (List.cons.inj hbracket).2
  exact ⟨rfl, hrest⟩

/-- Calls are told by their text where their arguments are told. -/
theorem eq_of_calls_append {calls others : List Call} {rest tail : List Char}
    (hc : ∀ call ∈ calls, IsClearCall call)
    (hs : ∀ method args, .call method args ∈ calls → ∀ e ∈ args, Splits chars IsClear e)
    (ho : ∀ call ∈ others, IsClearCall call) (hr : Ends rest) (ht : Ends tail)
    (h : calls.flatMap Call.chars ++ rest = others.flatMap Call.chars ++ tail) :
    calls = others ∧ rest = tail := by
  induction calls generalizing others with
  | nil =>
    cases others with
    | nil => exact ⟨rfl, h⟩
    | cons other others =>
      rw [List.flatMap_nil, List.nil_append] at h
      exact absurd (h ▸ hr) (not_ends_calls other others tail)
  | cons call calls ih =>
    cases others with
    | nil =>
      rw [List.flatMap_nil, List.nil_append] at h
      exact absurd (h ▸ ht) (not_ends_calls call calls rest)
    | cons other others =>
      obtain ⟨method, args⟩ := call
      obtain ⟨hcall, hcalls⟩ := List.forall_mem_cons.1 hc
      obtain ⟨hother, hothers⟩ := List.forall_mem_cons.1 ho
      rw [List.flatMap_cons, List.flatMap_cons, List.append_assoc, List.append_assoc] at h
      obtain ⟨rfl, hmore⟩ := eq_of_call_append hcall (hs method args List.mem_cons_self) hother h
      obtain ⟨rfl, hrest⟩ := ih hcalls
        (fun method args hm => hs method args (List.mem_cons_of_mem _ hm)) hothers hmore
      exact ⟨rfl, hrest⟩

/-- A part without calls is told by its text among such parts, also where calls follow. -/
def SplitsOff (e : Expr) : Prop :=
  ∀ f, IsClear f → (∀ base calls, f ≠ .chained base calls) → ∀ rest tail, Stops rest → Stops tail →
    chars e ++ rest = chars f ++ tail → e = f ∧ rest = tail

/-- A word does not start like a text, an array or an object. -/
theorem IsWord.append_ne {e : Expr} (h : IsWord e) {c : Char} (hc : Expr.isWordChar c = false)
    (rest tail : List Char) : chars e ++ rest ≠ c :: tail := by
  intro heq
  cases hchars : chars e with
  | nil => exact h.ne_nil hchars
  | cons d more =>
    rw [hchars] at heq
    obtain ⟨rfl, -⟩ := List.cons.inj heq
    rw [h.isWordChar d (by rw [hchars]; exact List.mem_cons_self)] at hc
    cases hc

theorem splitsOff_of_isWord {e : Expr} (h : IsWord e) : SplitsOff e := by
  rintro f ⟨hf, -⟩ hn rest tail hr ht heq
  rcases isWord_or_of_isPlain hf hn with hword | ⟨s, rfl⟩ | ⟨es, rfl⟩ | ⟨properties, rfl⟩
  · obtain ⟨hchars, hrest⟩ := eq_of_word_append h.isWordChar hword.isWordChar hr ht heq
    exact ⟨by rw [← h.ofWord, hchars, hword.ofWord], hrest⟩
  · rw [chars_text, Json.toList_quote] at heq
    exact absurd heq (h.append_ne (by decide) rest _)
  · rw [chars_array] at heq
    exact absurd heq (h.append_ne (by decide) rest _)
  · obtain ⟨more, hmore⟩ := exists_chars_object properties
    rw [hmore] at heq
    exact absurd heq (h.append_ne (by decide) rest _)

theorem splitsOff_text (s : String) : SplitsOff (.text s) := by
  rintro f ⟨hf, -⟩ hn rest tail hr ht heq
  rcases isWord_or_of_isPlain hf hn with hword | ⟨t, rfl⟩ | ⟨es, rfl⟩ | ⟨properties, rfl⟩
  · rw [chars_text, Json.toList_quote] at heq
    exact absurd heq.symm (hword.append_ne (by decide) tail _)
  · obtain ⟨rfl, hrest⟩ := Json.eq_of_quote_append heq
    exact ⟨rfl, hrest⟩
  · rw [chars_text, Json.toList_quote, chars_array] at heq
    exact absurd (List.cons.inj heq).1 (by decide)
  · obtain ⟨more, hmore⟩ := exists_chars_object properties
    rw [chars_text, Json.toList_quote, hmore] at heq
    exact absurd (List.cons.inj heq).1 (by decide)

theorem splitsOff_array {es : List Expr} (hp : ∀ e ∈ es, IsPlain e)
    (hs : ∀ e ∈ es, Splits chars IsClear e) : SplitsOff (.array es) := by
  rintro f ⟨hf, hnormal⟩ hn rest tail hr ht heq
  rcases isWord_or_of_isPlain hf hn with hword | ⟨t, rfl⟩ | ⟨others, rfl⟩ | ⟨properties, rfl⟩
  · rw [chars_array] at heq
    exact absurd heq.symm (hword.append_ne (by decide) tail _)
  · rw [chars_array, chars_text, Json.toList_quote] at heq
    exact absurd (List.cons.inj heq).1 (by decide)
  · cases hf with
    | array hplain =>
      cases hnormal with
      | array hnormal =>
        rw [chars_array, chars_array] at heq
        obtain ⟨rfl, hrest⟩ := eq_of_listed_append ']' (by decide) (by decide) hs
          (fun e he => (hp e he).opens) (fun e he => ⟨hplain e he, hnormal e he⟩)
          (fun e he => (hplain e he).opens) (by simpa using heq)
        exact ⟨rfl, hrest⟩
  · obtain ⟨more, hmore⟩ := exists_chars_object properties
    rw [chars_array, hmore] at heq
    exact absurd (List.cons.inj heq).1 (by decide)

theorem isClearProperty_of_mem {properties : List Property} (h : IsClear (.object properties)) :
    ∀ p ∈ properties, IsClearProperty p := by
  obtain ⟨hplain, hnormal⟩ := h
  cases hplain with
  | object hs hk hv =>
    cases hnormal with
    | object hnormal =>
      rintro (name | ⟨key, e⟩) hp
      · exact hs name hp
      · exact ⟨hk key e hp, hv key e hp, hnormal key e hp⟩

theorem splitsOff_object {properties : List Property} (h : IsClear (.object properties))
    (hs : ∀ p ∈ properties, Splits Property.chars IsClearProperty p) :
    SplitsOff (.object properties) := by
  rintro f hf hn rest tail hr ht heq
  rcases isWord_or_of_isPlain hf.1 hn with hword | ⟨t, rfl⟩ | ⟨es, rfl⟩ | ⟨others, rfl⟩
  · obtain ⟨more, hmore⟩ := exists_chars_object properties
    rw [hmore] at heq
    exact absurd heq.symm (hword.append_ne (by decide) tail _)
  · obtain ⟨more, hmore⟩ := exists_chars_object properties
    rw [hmore, chars_text, Json.toList_quote] at heq
    exact absurd (List.cons.inj heq).1 (by decide)
  · obtain ⟨more, hmore⟩ := exists_chars_object properties
    rw [hmore, chars_array] at heq
    exact absurd (List.cons.inj heq).1 (by decide)
  · -- an object without properties has no blanks between its brackets
    rcases eq_or_ne properties [] with rfl | hne
    · rcases eq_or_ne others [] with rfl | hno
      · exact ⟨rfl, List.append_cancel_left heq⟩
      · rw [chars_object_nil, chars_object_of_ne_nil hno] at heq
        exact absurd (List.cons.inj (List.cons.inj heq).2).1 (by decide)
    · rcases eq_or_ne others [] with rfl | hno
      · rw [chars_object_nil, chars_object_of_ne_nil hne] at heq
        exact absurd (List.cons.inj (List.cons.inj heq).2).1 (by decide)
      · rw [chars_object_of_ne_nil hne, chars_object_of_ne_nil hno] at heq
        have hp := isClearProperty_of_mem h
        have ho := isClearProperty_of_mem hf
        obtain ⟨rfl, hrest⟩ := eq_of_listed_append ' ' (by decide) (by decide) hs
          (fun p hm => opens_property (hp p hm)) ho (fun p hm => opens_property (ho p hm))
          (by simpa using heq)
        exact ⟨rfl, (List.cons.inj hrest).2⟩

theorem isClearCall_of_mem {base : Expr} {calls : List Call} (h : IsClear (.chained base calls)) :
    ∀ call ∈ calls, IsClearCall call := by
  obtain ⟨hplain, hnormal⟩ := h
  cases hplain with
  | chained _ hm ha =>
    cases hnormal with
    | chained _ _ _ hnormal =>
      rintro ⟨method, args⟩ hcall
      exact ⟨hm method args hcall,
        fun e he => ⟨ha method args hcall e he, hnormal method args hcall e he⟩⟩

/-- A clear expression is one without calls, with calls behind it or not. -/
theorem exists_base {e : Expr} (h : IsClear e) :
    ∃ base calls, e = chain base calls ∧ IsClear base ∧
      (∀ inner earlier, base ≠ .chained inner earlier) ∧ ∀ call ∈ calls, IsClearCall call := by
  by_cases hchained : ∃ base calls, e = .chained base calls
  · obtain ⟨base, calls, rfl⟩ := hchained
    have hcalls := isClearCall_of_mem h
    obtain ⟨hplain, hnormal⟩ := h
    cases hplain with
    | chained hplain =>
      cases hnormal with
      | chained hnormal hn hc =>
        exact ⟨base, calls, (chain_of_ne hn hc).symm, ⟨hplain, hnormal⟩, hn, hcalls⟩
  · exact ⟨e, [], rfl, h, fun base calls heq => hchained ⟨base, calls, heq⟩, by simp⟩

theorem stops_calls (calls : List Call) {rest : List Char} (h : Ends rest) :
    Stops (calls.flatMap Call.chars ++ rest) := by
  cases calls with
  | nil => exact h.stops
  | cons call calls =>
    obtain ⟨method, args⟩ := call
    rintro c hc
    cases hc
    rfl

/-- Calls behind a part that is told by its text are told apart from it. -/
theorem splits_chain {base : Expr} {calls : List Call} (hb : SplitsOff base)
    (hc : ∀ call ∈ calls, IsClearCall call)
    (hs : ∀ method args, .call method args ∈ calls → ∀ e ∈ args, Splits chars IsClear e) :
    Splits chars IsClear (chain base calls) := by
  intro f hf rest tail hr ht heq
  obtain ⟨other, others, rfl, hother, hn, hothers⟩ := exists_base hf
  rw [chars_chain, chars_chain, List.append_assoc, List.append_assoc] at heq
  obtain ⟨rfl, hcalls⟩ :=
    hb other hother hn _ _ (stops_calls calls hr) (stops_calls others ht) heq
  obtain ⟨rfl, hrest⟩ := eq_of_calls_append hc hs hothers hr ht hcalls
  exact ⟨rfl, hrest⟩

theorem SplitsOff.splits {e : Expr} (h : SplitsOff e) : Splits chars IsClear e := by
  have hsplits : Splits chars IsClear (chain e []) := splits_chain h (by simp) (by simp)
  exact hsplits

/-- The text of a clear expression tells the expression and where it ends. Of one without calls it
    does so also where the next thing is a call. -/
theorem splits_of_isPlain {e : Expr} (h : IsPlain e) (hn : IsNormal e) :
    Splits chars IsClear e ∧ ((∀ base calls, e ≠ .chained base calls) → SplitsOff e) := by
  -- Calls may follow a part, so of one without calls the stronger property goes through the
  -- induction.
  induction h with
  | identifier hi hw =>
    have hoff := splitsOff_of_isWord (isWord_identifier hi hw)
    exact ⟨hoff.splits, fun _ => hoff⟩
  | literal hl =>
    rcases isWord_or_of_isPlain (.literal hl) (by simp) with hword | ⟨s, heq⟩ | ⟨_, heq⟩ | ⟨_, heq⟩
    · have hoff := splitsOff_of_isWord hword
      exact ⟨hoff.splits, fun _ => hoff⟩
    · have hoff := splitsOff_text s
      rw [heq]
      exact ⟨hoff.splits, fun _ => hoff⟩
    · cases heq
    · cases heq
  | array hp ih =>
    cases hn with
    | array hn =>
      have hoff := splitsOff_array hp fun e he => (ih e he (hn e he)).1
      exact ⟨hoff.splits, fun _ => hoff⟩
  | object hs hk hv ih =>
    have hclear : IsClear (.object _) := ⟨.object hs hk hv, hn⟩
    cases hn with
    | object hn =>
      have hoff := splitsOff_object hclear fun p hp =>
        splits_property (isClearProperty_of_mem hclear p hp) fun key e heq =>
          (ih key e (heq ▸ hp) (hn key e (heq ▸ hp))).1
      exact ⟨hoff.splits, fun _ => hoff⟩
  | chained hb hm ha ihb iha =>
    have hcalls := isClearCall_of_mem ⟨.chained hb hm ha, hn⟩
    cases hn with
    | chained hbase hn hc hargs =>
      refine ⟨?_, fun h => absurd rfl (h _ _)⟩
      rw [← chain_of_ne hn hc]
      exact splits_chain ((ihb hbase).2 hn) hcalls fun method args hcall e he =>
        (iha method args hcall e he (hargs method args hcall e he)).1

/-- The printer is unambiguous: every expression is printed like its normal form, and plain
    expressions with the same text have the same normal form. -/
theorem render_unambiguous :
    (∀ e, (normal e).render = e.render) ∧
      ∀ e f text, IsPlain e → IsPlain f → e.render = .ok text → f.render = .ok text →
        normal e = normal f := by
  refine ⟨render_normal, fun e f text he hf hre hrf => ?_⟩
  have hchars : chars (normal e) = chars (normal f) := by
    rw [(text_normal e).2, (text_normal f).2, chars, chars, ← Emission.eq_print_of_render hre,
      ← Emission.eq_print_of_render hrf]
  have hends : Ends [] := by simp [Ends]
  have hsplits := (splits_of_isPlain (isPlain_normal he) (isNormal_normal e)).1
  exact (hsplits (normal f) ⟨isPlain_normal hf, isNormal_normal f⟩ [] [] hends hends
    (by rw [hchars])).1

/-- A chain built in two steps and the same chain built in one. -/
def twoSteps : Expr :=
  .chained (.chained (.identifier "z") [.call "string" []]) [.call "max" [.literal (.int 8)]]

def oneStep : Expr :=
  .chained (.identifier "z") [.call "string" [], .call "max" [.literal (.int 8)]]

theorem render_unambiguous_of_steps : twoSteps ≠ oneStep ∧ normal twoSteps = normal oneStep := by
  have hz : IsPlain (.identifier "z") := .identifier (by decide) (by decide)
  have hint : IsPlain (.literal (.int 8)) := .literal (by simp)
  have hinner : IsPlain (.chained (.identifier "z") [.call "string" []]) :=
    .chained hz (by simp; decide) (by simp)
  have htwo : IsPlain twoSteps := .chained hinner (by simp; decide) (by simp [hint])
  have hone : IsPlain oneStep := isPlain_normal htwo
  exact ⟨by simp [twoSteps, oneStep],
    render_unambiguous.2 twoSteps oneStep "z.string().max(8)" htwo hone rfl rfl⟩

end Expr
end RestContract
