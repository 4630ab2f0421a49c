import RestContract.Proofs.RegexLiteral

/-!
# Patterns that are written already

A pattern that has its slashes, no character that would be escaped and a backslash before each slash
inside is written as it is, and no other one is. Every pattern is written in this form, so writing it
a second time changes nothing.
-/

namespace RestContract.Validation.Pattern

/-- A control character, or one of the last two code points of the first plane. -/
def IsControl (c : Char) : Prop :=
  c.toNat ≤ 0x1f ∨ (0x7f ≤ c.toNat ∧ c.toNat ≤ 0x9f) ∨ c.toNat = 0xfffe ∨ c.toNat = 0xffff

/-- Every slash of a text has a backslash right before it; `previous` is the character before the
    text. -/
def SlashesHeld (previous : Option Char) (text : List Char) : Prop :=
  ∀ before after, text = before ++ '/' :: after → before.getLast?.or previous = some '\\'

/-- The form in which patterns are written. -/
structure IsWritten (text : List Char) : Prop where
  between : ∃ inside, text = '/' :: (inside ++ ['/']) ∧ SlashesHeld none inside
  plain : ∀ c ∈ text, ¬ IsControl c

variable {previous : Option Char} {c d : Char} {text inside : List Char}

/-! ## Escapes -/

theorem isEscaped_eq_false_iff : isEscaped c = false ↔ ¬ IsControl c := by
  rw [Bool.eq_false_iff, not_iff_not, IsControl]
  simp only [isEscaped, Bool.or_eq_true, Bool.and_eq_true, decide_eq_true_eq, beq_iff_eq]
  omega

/-- Other characters are not escaped. -/
theorem escapeChar_of_not_isControl (h : ¬ IsControl c) : escapeChar c = [c] := by
  have hnamed : ∀ named : Char, isEscaped named = true → c ≠ named := by
    rintro named hn rfl
    exact absurd hn (by simp [isEscaped_eq_false_iff.2 h])
  rw [escapeChar, if_neg (hnamed '\t' rfl), if_neg (hnamed '\n' rfl), if_neg (hnamed '\r' rfl),
    if_neg (by simp [isEscaped_eq_false_iff.2 h])]

theorem flatMap_escapeChar_eq_self (h : ∀ c ∈ text, ¬ IsControl c) :
    text.flatMap escapeChar = text := by
  induction text with
  | nil => rfl
  | cons c rest ih =>
    obtain ⟨hc, hrest⟩ := List.forall_mem_cons.1 h
    rw [List.flatMap_cons, escapeChar_of_not_isControl hc, ih hrest]
    rfl

/-- No escape has a character that would be escaped. -/
theorem forall_mem_escapeChar_not_isControl (c : Char) : ∀ d ∈ escapeChar c, ¬ IsControl d := by
  simp only [← isEscaped_eq_false_iff]
  have hhex : ∀ width, ∀ e ∈ (Text.hex width c.toNat).toList, isEscaped e = false :=
    fun width => forall_mem_hex (by decide) width c.toNat
  have hescape : ∀ run : List Char, (∀ e ∈ run, isEscaped e = false) →
      ∀ d ∈ '\\' :: run, isEscaped d = false :=
    fun run hrun => List.forall_mem_cons.2 ⟨rfl, hrun⟩
  unfold escapeChar
  split
  · exact hescape _ (List.forall_mem_singleton.2 rfl)
  split
  · exact hescape _ (List.forall_mem_singleton.2 rfl)
  split
  · exact hescape _ (List.forall_mem_singleton.2 rfl)
  split
  · split
    · exact hescape _ (List.forall_mem_cons.2 ⟨rfl, hhex 2⟩)
    · exact hescape _ (List.forall_mem_cons.2 ⟨rfl, hhex 4⟩)
  · next h => exact List.forall_mem_singleton.2 (Bool.eq_false_iff.2 h)

/-! ## Slashes -/

theorem slashesHeld_cons : SlashesHeld previous (c :: text) ↔
    (c = '/' → previous = some '\\') ∧ SlashesHeld (some c) text := by
  unfold SlashesHeld
  rw [forall_split_cons (P := fun before => before.getLast?.or previous = some '\\')]
  simp only [getLast?_cons_or]
  rfl

theorem slashesHeld_guardSlashes : SlashesHeld previous (guardSlashes previous text) := by
  induction text generalizing previous with
  | nil => simp [SlashesHeld, guardSlashes]
  | cons c rest ih =>
    unfold guardSlashes
    split
    · next h =>
      rw [slashesHeld_cons, slashesHeld_cons]
      exact ⟨by simp, by simp, h.1 ▸ ih⟩
    · next h =>
      rw [slashesHeld_cons]
      exact ⟨fun hc => not_not.1 (not_and.1 h hc), ih⟩

theorem guardSlashes_eq_self (h : SlashesHeld previous text) : guardSlashes previous text = text := by
  induction text generalizing previous with
  | nil => rfl
  | cons c rest ih =>
    obtain ⟨hc, hrest⟩ := slashesHeld_cons.1 h
    rw [guardSlashes, if_neg (fun hslash => hslash.2 (hc hslash.1)), ih hrest]

/-! ## Patterns between slashes -/

theorem strip_between (inside : List Char) : strip ('/' :: (inside ++ ['/'])) = inside := by
  simp [strip]

theorem isWritten_delimit (pattern : List Char) : IsWritten (delimit pattern) where
  between := ⟨body pattern, rfl, slashesHeld_guardSlashes⟩
  plain := by
    have hslash : ¬ IsControl '/' := isEscaped_eq_false_iff.1 rfl
    have hbackslash : ¬ IsControl '\\' := isEscaped_eq_false_iff.1 rfl
    have hbody : ∀ c ∈ body pattern, ¬ IsControl c := by
      rw [body, forall_mem_guardSlashes hbackslash, List.forall_mem_flatMap]
      exact fun c _ => forall_mem_escapeChar_not_isControl c
    rw [delimit, List.forall_mem_cons, List.forall_mem_append]
    exact ⟨hslash, hbody, List.forall_mem_singleton.2 hslash⟩

/-- The texts that are written as they are. -/
theorem delimit_eq_self_iff : delimit text = text ↔ IsWritten text := by
  constructor
  · intro h
    rw [← h]
    exact isWritten_delimit text
  · intro h
    obtain ⟨inside, rfl, hheld⟩ := h.between
    have hplain : ∀ c ∈ inside, ¬ IsControl c := fun c hc => h.plain c (by simp [hc])
    rw [delimit, body, strip_between, flatMap_escapeChar_eq_self hplain, guardSlashes_eq_self hheld]

/-- A slash of a written pattern that is neither the first nor the last character has a backslash
    right before it. -/
theorem IsWritten.getLast?_before (h : IsWritten text) {before after : List Char}
    (heq : text = before ++ '/' :: after) (hb : before ≠ []) (ha : after ≠ []) :
    before.getLast? = some '\\' := by
  obtain ⟨inside, rfl, hheld⟩ := h.between
  obtain ⟨first, front, rfl⟩ := List.exists_cons_of_ne_nil hb
  obtain ⟨back, last, rfl⟩ := (List.eq_nil_or_concat after).resolve_left ha
  have hinside : inside ++ ['/'] = (front ++ '/' :: back) ++ [last] := by
    simpa using (List.cons.inj heq).2
  have hlast := hheld front back (List.append_inj_left' hinside rfl)
  rw [Option.or_none] at hlast
  rw [List.getLast?_cons, hlast]
  rfl

/-- A written pattern stays as it is when it is written again. It starts and ends with a slash, none of
    its characters is a control character, and every slash between the first and the last character
    has a backslash right before it. -/
theorem sanitize_sanitize (pattern : String) :
    sanitize (sanitize pattern) = sanitize pattern ∧
      (∃ inside, (sanitize pattern).toList = '/' :: (inside ++ ['/'])) ∧
      (∀ c ∈ (sanitize pattern).toList, ¬ IsControl c) ∧
      ∀ before after, (sanitize pattern).toList = before ++ '/' :: after → before ≠ [] →
        after ≠ [] → before.getLast? = some '\\' := by
  have htext : (sanitize pattern).toList = delimit pattern.toList := String.toList_ofList
  have hwritten := isWritten_delimit pattern.toList
  rw [htext]
  refine ⟨?_, ?_, hwritten.plain, fun before after => hwritten.getLast?_before⟩
  · rw [sanitize, htext, delimit_eq_self_iff.2 hwritten, sanitize]
  · obtain ⟨inside, heq, _⟩ := hwritten.between
    exact ⟨inside, heq⟩

end RestContract.Validation.Pattern
