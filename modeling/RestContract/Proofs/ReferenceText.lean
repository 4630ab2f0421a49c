import RestContract.Reference
import RestContract.Schema.Graph

/-!
# Written references

A reference is read back from its written form, as long as its name is not empty; without a name it
cannot be read at all. A text that is read is the written form of its reference just where every
tilde behind the kind is escaped.
-/

namespace RestContract.Reference

/-! ## Escaped names -/

/-- A name with its tildes alone escaped. -/
def escapeTildes (name : List Char) : List Char :=
  name.flatMap fun c => if c = '~' then ['~', '0'] else [c]

theorem slash_not_mem_escape (name : List Char) : '/' ∉ escape name := by
  induction name with
  | nil => simp [escape]
  | cons c rest ih =>
    unfold escape
    split
    · simp [ih]
    · next hc =>
      split
      · simp [ih]
      · next hs => simp [ih, Ne.symm hs]

theorem escape_ne_nil {name : List Char} (h : name ≠ []) : escape name ≠ [] := by
  cases name with
  | nil => exact absurd rfl h
  | cons c rest =>
    unfold escape
    split
    · simp
    · split <;> simp

theorem unescapeSlashes_escape (name : List Char) :
    unescapeSlashes (escape name) = escapeTildes name := by
  induction name with
  | nil => rfl
  | cons c rest ih =>
    by_cases ht : c = '~'
    · subst ht
      simp [escape, unescapeSlashes, escapeTildes, ih]
    · by_cases hs : c = '/'
      · subst hs
        simp [escape, unescapeSlashes, escapeTildes, ih]
      · simp [escape, escapeTildes, ht, hs, unescapeSlashes, ih]

theorem unescapeTildes_escapeTildes (name : List Char) :
    unescapeTildes (escapeTildes name) = name := by
  induction name with
  | nil => rfl
  | cons c rest ih =>
    by_cases ht : c = '~'
    · subst ht
      simpa [escapeTildes, unescapeTildes] using ih
    · simpa [escapeTildes, ht, unescapeTildes] using ih

theorem unescape_escape (name : List Char) : unescape (escape name) = name := by
  rw [unescape, unescapeSlashes_escape, unescapeTildes_escapeTildes]

/-! ## Kinds -/

/-- No two kinds have references that start alike. -/
theorem eq_of_same_start {a b : ComponentKind} {text : List Char}
    (h : a.start.isPrefixOf (b.start ++ text) = true) : a = b := by
  cases a <;> cases b <;> first | rfl | cases h

theorem rest?_start (kind : ComponentKind) (text : List Char) :
    rest? kind.start (kind.start ++ text) = some text := by
  have h : kind.start.isPrefixOf (kind.start ++ text) = true := by
    rw [List.isPrefixOf_iff_prefix]
    exact List.prefix_append _ _
  rw [rest?, if_pos h, List.drop_left]

theorem rest?_start_of_ne {a b : ComponentKind} (h : a ≠ b) (text : List Char) :
    rest? a.start (b.start ++ text) = none := by
  rw [rest?, if_neg fun hp => h (eq_of_same_start hp)]

theorem split?_start (kind : ComponentKind) (text : List Char) :
    split? (kind.start ++ text) = some (kind, text) := by
  unfold split? ComponentKind.all
  cases kind <;> simp [rest?_start, rest?_start_of_ne]

theorem split?_write (r : Reference) : split? r.write.toList = some (r.kind, escape r.name.toList) := by
  rw [write, writeIn, String.toList_ofList]
  exact split?_start r.kind _

theorem parse?_write {r : Reference} (h : r.name ≠ "") : parse? r.write = some r := by
  have hne : escape r.name.toList ≠ [] := escape_ne_nil (by simpa using h)
  rw [parse?, split?_write]
  simp [hne, slash_not_mem_escape, unescape_escape]

/-- A reference without a name cannot be read. -/
theorem parse?_write_empty (kind : ComponentKind) : parse? (write ⟨kind, ""⟩) = none := by
  rw [parse?, split?_write]
  rfl

/-- What is read of a written reference is the reference. -/
theorem eq_of_parse?_write {r s : Reference} (h : parse? r.write = some s) : s = r := by
  by_cases hn : r.name = ""
  · obtain ⟨kind, name⟩ := r
    cases hn
    rw [parse?_write_empty] at h
    cases h
  · rw [parse?_write hn] at h
    exact (Option.some.inj h).symm

theorem eq_of_write_eq {r s : Reference} (h : r.write = s.write) : r = s := by
  have hsplit := split?_write r
  rw [h, split?_write, Option.some.injEq, Prod.mk.injEq] at hsplit
  obtain ⟨hkind, hname⟩ := hsplit
  have hname : s.name.toList = r.name.toList := by
    rw [← unescape_escape s.name.toList, hname, unescape_escape]
  obtain ⟨kind, name⟩ := r
  obtain ⟨kind', name'⟩ := s
  cases hkind
  cases String.toList_injective hname
  rfl

/-! ## Texts that are read and written again -/

/-- Right behind every tilde stands one of the digits that escape it. -/
def TildesEscaped (text : List Char) : Prop :=
  ∀ before after, text = before ++ '~' :: after → after.head? = some '0' ∨ after.head? = some '1'

theorem tildesEscaped_nil : TildesEscaped [] := by
  intro before after h
  simp at h

theorem tildesEscaped_cons_iff {c : Char} {rest : List Char} :
    TildesEscaped (c :: rest) ↔
      (c = '~' → rest.head? = some '0' ∨ rest.head? = some '1') ∧ TildesEscaped rest := by
  constructor
  · intro h
    constructor
    · rintro rfl
      exact h [] rest rfl
    · intro before after heq
      exact h (c :: before) after (by simp [heq])
  · intro ⟨hfirst, hrest⟩ before after heq
    cases before with
    | nil =>
      simp only [List.nil_append, List.cons.injEq] at heq
      obtain ⟨hc, rfl⟩ := heq
      exact hfirst hc
    | cons first before =>
      simp only [List.cons_append, List.cons.injEq] at heq
      exact hrest before after heq.2

theorem tildesEscaped_cons_of_ne {c : Char} (h : c ≠ '~') {rest : List Char} :
    TildesEscaped (c :: rest) ↔ TildesEscaped rest := by
  simp [tildesEscaped_cons_iff, h]

theorem tildesEscaped_escape (name : List Char) : TildesEscaped (escape name) := by
  induction name with
  | nil => exact tildesEscaped_nil
  | cons c rest ih =>
    by_cases ht : c = '~'
    · simp [escape, ht, tildesEscaped_cons_iff, ih]
    · by_cases hs : c = '/' <;> simp [escape, ht, hs, tildesEscaped_cons_iff, ih]

theorem unescape_cons_of_ne {c : Char} (h : c ≠ '~') (rest : List Char) :
    unescape (c :: rest) = c :: unescape rest := by
  simp [unescape, unescapeSlashes, unescapeTildes, h]

theorem unescape_tilde (rest : List Char) : unescape ('~' :: '0' :: rest) = '~' :: unescape rest := by
  simp [unescape, unescapeSlashes, unescapeTildes]

theorem unescape_slash (rest : List Char) : unescape ('~' :: '1' :: rest) = '/' :: unescape rest := by
  simp [unescape, unescapeSlashes, unescapeTildes]

/-- Escapes are read one by one. After a tilde that is none, the rest of the text could look like
    one. -/
theorem escape_unescape {text : List Char} (hs : '/' ∉ text) (h : TildesEscaped text) :
    escape (unescape text) = text := by
  induction text using unescapeSlashes.induct with
  | case1 rest ih =>
    simp only [List.mem_cons, not_or] at hs
    rw [tildesEscaped_cons_iff, tildesEscaped_cons_of_ne (by decide)] at h
    simp [unescape_slash, escape, ih hs.2.2 h.2]
  | case2 c rest hne ih =>
    simp only [List.mem_cons, not_or] at hs
    rw [tildesEscaped_cons_iff] at h
    have hrest := ih hs.2 h.2
    by_cases ht : c = '~'
    · -- the digit behind the tilde is no part of another escape
      obtain ⟨after, rfl⟩ : ∃ after, rest = '0' :: after := by
        rcases h.1 ht with hd | hd
        · exact List.head?_eq_some_iff.1 hd
        · obtain ⟨after, rfl⟩ := List.head?_eq_some_iff.1 hd
          exact absurd rfl (hne after ht)
      rw [unescape_cons_of_ne (by decide)] at hrest
      simp only [escape, Char.reduceEq, if_false, List.cons.injEq, true_and] at hrest
      simp [ht, unescape_tilde, escape, hrest]
    · rw [unescape_cons_of_ne ht]
      simp [escape, ht, Ne.symm hs.1, hrest]
  | case3 => rfl

theorem escape_unescape_iff {text : List Char} (hs : '/' ∉ text) :
    escape (unescape text) = text ↔ TildesEscaped text := by
  constructor
  · intro h
    rw [← h]
    exact tildesEscaped_escape _
  · exact escape_unescape hs

/-- A text that is read names a kind, and behind it has a name without slashes. -/
theorem exists_of_parse? {s : String} {r : Reference} (h : parse? s = some r) :
    ∃ name, s.toList = r.kind.start ++ name ∧ name ≠ [] ∧ '/' ∉ name ∧
      r.name = String.ofList (unescape name) := by
  unfold parse? at h
  split at h
  · next kind name hsplit =>
    split at h
    · cases h
    · next hname =>
      cases h
      simp only [Bool.or_eq_true, List.isEmpty_iff, List.contains_iff_mem, not_or] at hname
      refine ⟨name, ?_, hname.1, hname.2, rfl⟩
      obtain ⟨found, -, hfound⟩ := List.exists_of_findSome?_eq_some hsplit
      obtain ⟨text, hrest, heq⟩ := Option.map_eq_some_iff.1 hfound
      cases heq
      unfold rest? at hrest
      split at hrest
      · next hprefix =>
        cases hrest
        obtain ⟨text, heq⟩ := List.isPrefixOf_iff_prefix.1 hprefix
        simp [← heq]
      · cases hrest
  · cases h

theorem parse_text_eq_ok_iff {s : String} {r : Reference} :
    parse (.text s) = .ok r ↔ parse? s = some r := by
  rw [parse]
  cases h : parse? s <;> simp

/-- A reference with a name is read back from its written form. What is read from another text is
    written the same way just where every tilde behind the kind is escaped. -/
theorem parse_write_and_back :
    (∀ r : Reference, r.name ≠ "" → parse (.text r.write) = .ok r) ∧
    ∀ (s : String) (r : Reference), parse (.text s) = .ok r →
      ∃ name, s.toList = r.kind.start ++ name ∧ (r.write = s ↔ TildesEscaped name) := by
  constructor
  · intro r hr
    exact parse_text_eq_ok_iff.2 (parse?_write hr)
  · intro s r h
    obtain ⟨name, heq, -, hslash, hname⟩ := exists_of_parse? (parse_text_eq_ok_iff.1 h)
    refine ⟨name, heq, ?_⟩
    calc r.write = s
        ↔ r.kind.start ++ escape r.name.toList = s.toList := by
          rw [← String.toList_inj, write, writeIn, String.toList_ofList]
          rfl
      _ ↔ escape (unescape name) = name := by
          rw [heq, List.append_cancel_left_eq, hname, String.toList_ofList]
      _ ↔ TildesEscaped name := escape_unescape_iff hslash

/-- A name with an escape in it is read back; a tilde that stands alone is written as an escape. -/
theorem parse_write_and_back_alone :
    ("~1/" ≠ "" ∧ parse (.text (write ⟨.schemas, "~1/"⟩)) = .ok ⟨.schemas, "~1/"⟩) ∧
      parse (.text "#/components/headers/a~b") = .ok ⟨.headers, "a~b"⟩ ∧
      ∃ name, "#/components/headers/a~b".toList = ComponentKind.headers.start ++ name ∧
        (write ⟨.headers, "a~b"⟩ = "#/components/headers/a~b" ↔ TildesEscaped name) := by
  have hname : "~1/" ≠ "" := by decide
  have hread : parse (.text "#/components/headers/a~b") = .ok ⟨.headers, "a~b"⟩ := rfl
  have hback := parse_write_and_back.2 "#/components/headers/a~b" ⟨.headers, "a~b"⟩ hread
  exact ⟨⟨hname, parse_write_and_back.1 ⟨.schemas, "~1/"⟩ hname⟩, hread, hback⟩

end RestContract.Reference

namespace RestContract.Schema

theorem refTo_injective : Function.Injective refTo := by
  intro a b h
  have heq : (⟨.schemas, a⟩ : Reference) = ⟨.schemas, b⟩ := Reference.eq_of_write_eq h
  injection heq

end RestContract.Schema
