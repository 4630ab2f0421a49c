import RestContract.Proofs.VisibleText

/-!
# Regular expressions that end where their pattern ends

A regular expression between slashes is read from the left, by character pairs that start with a
backslash and by classes in brackets: the first slash outside both ends it, and no line may end
before. So it depends on every place of a pattern whether the pattern between slashes is one regular
expression, or whether it ends too early, too late or never.

Control characters and slashes are taken care of when the pattern is written. But a slash is left
alone whenever there is a backslash before it, also if this backslash is the second one of a pair, and
then it ends the expression too early. The other patterns that are not one expression are empty, start
with a star, end inside a pair or a class, or hold one of the line ends that are not escaped.
-/

namespace RestContract.Validation.Pattern

/-- A place in a regular expression, told by what stands before it: whether it is in a class, and
    whether the next character is the second one of a pair. -/
structure Place where
  inClass : Bool
  inPair : Bool
  deriving DecidableEq, Repr

namespace Place

/-- The places in no class and in no pair, as the first one. -/
def free : Place := ⟨false, false⟩

/-- The place with the pair, if there is one, read to its end. -/
def leavePair (place : Place) : Place := { place with inPair := false }

/-- The place behind a character. -/
def next (place : Place) (c : Char) : Place :=
  if place.inPair then place.leavePair
  else if c = '\\' then { place with inPair := true }
  else if c = '[' then { place with inClass := true }
  else if c = ']' then { place with inClass := false }
  else place

/-- The place behind a text. -/
def after (place : Place) (text : List Char) : Place := text.foldl next place

end Place

/-- The characters at which a line of a program ends. -/
def IsLineEnd (c : Char) : Prop := c = '\n' ∨ c = '\r' ∨ c = '\u2028' ∨ c = '\u2029'

instance : DecidablePred IsLineEnd := fun c =>
  inferInstanceAs (Decidable (c = '\n' ∨ c = '\r' ∨ c = '\u2028' ∨ c = '\u2029'))

/-- What stands between the slashes of a regular expression. -/
structure IsBody (body : List Char) : Prop where
  nonempty : body ≠ []
  /-- A slash and a star start a comment, as two slashes do. -/
  no_comment : body.head? ≠ some '*'
  one_line : ∀ c ∈ body, ¬ IsLineEnd c
  /-- No slash inside ends it. -/
  held : ∀ before after, body = before ++ '/' :: after → Place.free.after before ≠ .free
  /-- The slash behind it ends it. -/
  ends : Place.free.after body = .free

/-- A text that is one regular expression from the first to the last character. -/
def IsLiteral (text : List Char) : Prop := ∃ body, text = '/' :: (body ++ ['/']) ∧ IsBody body

/-- A pattern that stays one regular expression between slashes. -/
structure IsContained (pattern : List Char) : Prop where
  nonempty : pattern ≠ []
  no_comment : pattern.head? ≠ some '*'
  one_line : ∀ c ∈ pattern, c ≠ '\u2028' ∧ c ≠ '\u2029'
  /-- A slash in no class and no pair does not stand right behind a pair of two backslashes. -/
  held : ∀ before after, pattern = before ++ '/' :: after → Place.free.after before = .free →
    before.getLast? ≠ some '\\'
  ends : Place.free.after pattern = .free

/-! ## Places -/

namespace Place

variable {place : Place} {c : Char}

theorem next_of_inPair (h : place.inPair = true) (c : Char) : place.next c = place.leavePair :=
  if_pos h

theorem leavePair_of_not_inPair (h : place.inPair = false) : place.leavePair = place := by
  cases place
  cases h
  rfl

theorem inPair_next_of_ne (hc : c ≠ '\\') : (place.next c).inPair = false := by
  by_cases hp : place.inPair = true
  · rw [next_of_inPair hp]
    rfl
  · have hp := Bool.eq_false_iff.2 hp
    unfold next
    rw [if_neg (by simp [hp]), if_neg hc]
    split
    · exact hp
    split
    · exact hp
    · exact hp

theorem next_backslash (h : place.inPair = false) :
    place.next '\\' = { place with inPair := true } := by
  simp [next, h]

/-- All other characters leave a place where it is. -/
theorem next_of_not_mem (hc : c ∉ ['\\', '[', ']']) : place.next c = place.leavePair := by
  by_cases hp : place.inPair = true
  · exact next_of_inPair hp c
  · simp only [List.mem_cons, List.not_mem_nil, or_false, not_or] at hc
    have hp := Bool.eq_false_iff.2 hp
    rw [leavePair_of_not_inPair hp]
    simp [next, hp, hc]

theorem leavePair_next_backslash : (place.next '\\').leavePair = place.leavePair := by
  unfold next
  split <;> rfl

end Place

/-- The characters that mean something to where a regular expression ends. -/
def marks : List Char := ['/', '\\', '[', ']', '*']

theorem Place.next_of_not_mark {place : Place} {c : Char} (hc : c ∉ marks) :
    place.next c = place.leavePair := by
  have hmarks : ['\\', '[', ']'] ⊆ marks := by simp [marks]
  exact next_of_not_mem fun h => hc (hmarks h)

/-- The escape of a character has one backslash, at its head. -/
theorem escapeChar_cases (c : Char) :
    escapeChar c = [c] ∧ 0x20 ≤ c.toNat ∨
      c ∉ marks ∧ ∃ d rest, escapeChar c = '\\' :: d :: rest ∧
        ∀ e ∈ d :: rest, e ∉ marks ∧ ¬ IsLineEnd e := by
  have hhex : ∀ width, ∀ e ∈ (Text.hex width c.toNat).toList, e ∉ marks ∧ ¬ IsLineEnd e :=
    fun width => forall_mem_hex (by decide) width c.toNat
  unfold escapeChar
  split
  · next h =>
    subst h
    exact .inr ⟨by decide, 't', [], rfl, List.forall_mem_singleton.2 (by decide)⟩
  split
  · next h =>
    subst h
    exact .inr ⟨by decide, 'n', [], rfl, List.forall_mem_singleton.2 (by decide)⟩
  split
  · next h =>
    subst h
    exact .inr ⟨by decide, 'r', [], rfl, List.forall_mem_singleton.2 (by decide)⟩
  split
  · next h =>
    -- What is left to be escaped is written by its number, and none of the marks is such.
    have hmarks : marks.all (fun m => !isEscaped m) = true := by decide
    have hc : c ∉ marks := by
      intro hc
      have hnot := List.all_eq_true.1 hmarks c hc
      rw [h] at hnot
      cases hnot
    split
    · exact .inr ⟨hc, 'x', _, rfl, List.forall_mem_cons.2 ⟨by decide, hhex 2⟩⟩
    · exact .inr ⟨hc, 'u', _, rfl, List.forall_mem_cons.2 ⟨by decide, hhex 4⟩⟩
  · next h =>
    simp only [isEscaped, Bool.or_eq_true, decide_eq_true_eq, not_or] at h
    exact .inl ⟨rfl, by omega⟩

/-! ## Where a body ends -/

theorem forall_split_cons {P : List Char → Prop} {mark c : Char} {rest : List Char} :
    (∀ before after, c :: rest = before ++ mark :: after → P before) ↔
      (c = mark → P []) ∧ ∀ before after, rest = before ++ mark :: after → P (c :: before) := by
  constructor
  · intro h
    exact ⟨fun hc => h [] rest (by rw [hc]; rfl), fun before after hr => h _ after (by rw [hr]; rfl)⟩
  · rintro ⟨hhere, hlater⟩ before after heq
    cases before with
    | nil => exact hhere (List.cons.inj heq).1
    | cons d before =>
      obtain ⟨rfl, hr⟩ := List.cons.inj heq
      exact hlater before after hr

/-- From a place on, the first slash that ends something is the one behind a text. -/
def EndsFrom (place : Place) (text : List Char) : Prop :=
  place.after text = .free ∧
    ∀ before after, text = before ++ '/' :: after → place.after before ≠ .free

/-- From a place behind a character on, no slash that would end something stands behind a backslash,
    and a slash behind the text would end something. -/
def KeptFrom (place : Place) (previous : Option Char) (text : List Char) : Prop :=
  place.after text = .free ∧ ∀ before after, text = before ++ '/' :: after →
    place.after before = .free → before.getLast?.or previous ≠ some '\\'

variable {place : Place} {previous : Option Char} {c : Char} {text : List Char}

theorem endsFrom_cons : EndsFrom place (c :: text) ↔
    (c = '/' → place ≠ .free) ∧ EndsFrom (place.next c) text := by
  unfold EndsFrom
  rw [forall_split_cons (P := fun before => place.after before ≠ .free)]
  exact and_left_comm

theorem getLast?_cons_or (c : Char) (text : List Char) (previous : Option Char) :
    (c :: text).getLast?.or previous = text.getLast?.or (some c) := by
  rw [List.getLast?_cons]
  cases text.getLast? <;> rfl

theorem keptFrom_cons : KeptFrom place previous (c :: text) ↔
    (c = '/' → place = .free → previous ≠ some '\\') ∧ KeptFrom (place.next c) (some c) text := by
  unfold KeptFrom
  rw [forall_split_cons
    (P := fun before => place.after before = .free → before.getLast?.or previous ≠ some '\\')]
  simp only [getLast?_cons_or]
  exact and_left_comm

/-- Slashes with a backslash before them end nothing, if the backslash does not belong to a pair
    that is complete. -/
theorem endsFrom_guardSlashes (hp : place.inPair = true → previous = some '\\') :
    EndsFrom place (guardSlashes previous text) ↔ KeptFrom place previous text := by
  induction text generalizing place previous with
  | nil => simp [EndsFrom, KeptFrom, guardSlashes]
  | cons c text ih =>
    -- A pair is open only behind a backslash, and so it is at the next character.
    have hnext : (place.next c).inPair = true → some c = some '\\' := by
      intro h
      by_contra hc
      rw [Place.inPair_next_of_ne fun heq => hc (congrArg some heq)] at h
      cases h
    rw [guardSlashes, keptFrom_cons]
    split
    · next h =>
      obtain ⟨rfl, hprevious⟩ := h
      have hout : place.inPair = false := Bool.eq_false_iff.2 fun h => hprevious (hp h)
      -- A slash with a backslash before it leads to the same place as the slash alone.
      have hpair : (place.next '\\').next '/' = place.next '/' := by
        rw [Place.next_backslash hout, Place.next_of_inPair rfl, Place.next_of_not_mem (by decide)]
        rfl
      rw [endsFrom_cons, endsFrom_cons, hpair, ih hnext]
      simp [Place.next_backslash hout, Place.free, hprevious]
    · next h =>
      rw [endsFrom_cons, ih hnext]
      refine and_congr_left fun _ => forall_congr' fun hc => ?_
      simp only [not_and, not_not] at h
      simp [h hc]

theorem keptFrom_of_ne_backslash (h : previous ≠ some '\\') :
    KeptFrom place previous text ↔ KeptFrom place none text := by
  have hlast : ∀ before : List Char,
      before.getLast?.or previous = some '\\' ↔ before.getLast?.or none = some '\\' := by
    intro before
    cases before.getLast? <;> simp [h]
  simp only [KeptFrom, ne_eq, hlast]

theorem keptFrom_cons_of_not_mark (hc : c ∉ marks) :
    KeptFrom place previous (c :: text) ↔ KeptFrom place.leavePair none text := by
  have hslash : c ≠ '/' := fun h => hc (h ▸ by decide)
  have hback : some c ≠ some '\\' := fun h => hc (Option.some.inj h ▸ by decide)
  rw [keptFrom_cons, Place.next_of_not_mark hc, keptFrom_of_ne_backslash hback]
  exact and_iff_right fun h => absurd h hslash

theorem keptFrom_append_of_not_marks {run : List Char} (hr : ∀ d ∈ c :: run, d ∉ marks) :
    KeptFrom place previous (c :: run ++ text) ↔ KeptFrom place.leavePair none text := by
  rw [List.forall_mem_cons] at hr
  obtain ⟨hc, hr⟩ := hr
  rw [List.cons_append, keptFrom_cons_of_not_mark hc]
  induction run with
  | nil => rfl
  | cons d run ih =>
    obtain ⟨hd, hr⟩ := List.forall_mem_cons.1 hr
    rw [List.cons_append, keptFrom_cons_of_not_mark hd]
    exact ih hr

/-- Escaped or not, a character leads to the same places. -/
theorem keptFrom_flatMap_escapeChar :
    KeptFrom place previous (text.flatMap escapeChar) ↔ KeptFrom place previous text := by
  induction text generalizing place previous with
  | nil => rfl
  | cons c text ih =>
    rw [List.flatMap_cons]
    rcases escapeChar_cases c with ⟨he, _⟩ | ⟨hc, d, run, he, hrun⟩
    · rw [he, List.singleton_append, keptFrom_cons, keptFrom_cons, ih]
    · rw [he, List.cons_append, keptFrom_cons, keptFrom_append_of_not_marks fun e h => (hrun e h).1,
        Place.leavePair_next_backslash, ih, keptFrom_cons_of_not_mark hc]
      exact and_iff_right fun h => absurd h (by decide)

/-! ## The characters of a body -/

theorem guardSlashes_ne_nil_iff : guardSlashes previous text ≠ [] ↔ text ≠ [] := by
  cases text with
  | nil => simp [guardSlashes]
  | cons c text =>
    unfold guardSlashes
    split <;> simp

theorem head?_guardSlashes_eq_star_iff :
    (guardSlashes previous text).head? = some '*' ↔ text.head? = some '*' := by
  cases text with
  | nil => simp [guardSlashes]
  | cons c text =>
    unfold guardSlashes
    split
    · next h => simp [h.1]
    · simp

theorem forall_mem_guardSlashes {P : Char → Prop} (hb : P '\\') :
    (∀ c ∈ guardSlashes previous text, P c) ↔ ∀ c ∈ text, P c := by
  induction text generalizing previous with
  | nil => rfl
  | cons c text ih =>
    unfold guardSlashes
    split
    · next h => simp [h.1, hb, ih]
    · simp [ih]

theorem flatMap_escapeChar_ne_nil_iff : text.flatMap escapeChar ≠ [] ↔ text ≠ [] := by
  cases text with
  | nil => simp
  | cons c text => rcases escapeChar_cases c with ⟨he, _⟩ | ⟨_, d, run, he, _⟩ <;> simp [he]

theorem head?_flatMap_escapeChar_eq_star_iff :
    (text.flatMap escapeChar).head? = some '*' ↔ text.head? = some '*' := by
  cases text with
  | nil => simp
  | cons c text =>
    rcases escapeChar_cases c with ⟨he, _⟩ | ⟨hc, d, run, he, _⟩
    · simp [he]
    · have hstar : c ≠ '*' := fun h => hc (h ▸ by decide)
      simp [he, hstar]

/-- The characters that are left of a pattern do not end a line if none of it has a code point of
    its own for that. -/
theorem forall_mem_escapeChar_iff :
    (∀ d ∈ escapeChar c, ¬ IsLineEnd d) ↔ c ≠ '\u2028' ∧ c ≠ '\u2029' := by
  constructor
  · intro h
    constructor
    · rintro rfl
      exact h '\u2028' (by decide) (by decide)
    · rintro rfl
      exact h '\u2029' (by decide) (by decide)
  · rintro ⟨hline, hparagraph⟩
    rcases escapeChar_cases c with ⟨he, hvisible⟩ | ⟨_, d, run, he, hrun⟩
    · rw [he, List.forall_mem_singleton]
      rintro (rfl | rfl | h | h)
      · exact absurd hvisible (by decide)
      · exact absurd hvisible (by decide)
      · exact hline h
      · exact hparagraph h
    · rw [he, List.forall_mem_cons]
      exact ⟨by decide, fun e h => (hrun e h).2⟩

theorem isBody_body_iff {pattern : List Char} :
    IsBody (body pattern) ↔ IsContained (strip pattern) := by
  have hnonempty : body pattern ≠ [] ↔ strip pattern ≠ [] :=
    guardSlashes_ne_nil_iff.trans flatMap_escapeChar_ne_nil_iff
  have hstar : (body pattern).head? = some '*' ↔ (strip pattern).head? = some '*' :=
    head?_guardSlashes_eq_star_iff.trans head?_flatMap_escapeChar_eq_star_iff
  have hline : (∀ c ∈ body pattern, ¬ IsLineEnd c) ↔
      ∀ c ∈ strip pattern, c ≠ '\u2028' ∧ c ≠ '\u2029' := by
    rw [body, forall_mem_guardSlashes (by decide), List.forall_mem_flatMap]
    simp only [forall_mem_escapeChar_iff]
  have hplaces : EndsFrom .free (body pattern) ↔ KeptFrom .free none (strip pattern) :=
    (endsFrom_guardSlashes (by decide)).trans keptFrom_flatMap_escapeChar
  simp only [KeptFrom, Option.or_none] at hplaces
  constructor
  · intro h
    obtain ⟨hends, hheld⟩ := hplaces.1 ⟨h.ends, h.held⟩
    exact ⟨hnonempty.1 h.nonempty, fun hc => h.no_comment (hstar.2 hc), hline.1 h.one_line, hheld,
      hends⟩
  · intro h
    obtain ⟨hends, hheld⟩ := hplaces.2 ⟨h.ends, h.held⟩
    exact ⟨hnonempty.2 h.nonempty, fun hc => h.no_comment (hstar.1 hc), hline.2 h.one_line, hheld,
      hends⟩

theorem isLiteral_delimit_iff {pattern : List Char} :
    IsLiteral (delimit pattern) ↔ IsBody (body pattern) := by
  constructor
  · rintro ⟨inside, heq, h⟩
    rw [delimit, List.cons.injEq, List.append_cancel_right_eq] at heq
    rwa [heq.2]
  · exact fun h => ⟨_, rfl, h⟩

/-! ## Patterns between slashes -/

/-- Which patterns become one regular expression. -/
theorem isLiteral_sanitize_iff (pattern : String) :
    IsLiteral (sanitize pattern).toList ↔ IsContained (strip pattern.toList) := by
  rw [sanitize, String.toList_ofList, isLiteral_delimit_iff, isBody_body_iff]

/-- A pattern in which every backslash is followed by another character can end its regular
    expression too early. -/
theorem exists_not_isLiteral : ∃ pattern : String, pattern ≠ "" ∧
    (Place.free.after pattern.toList).inPair = false ∧ ¬ IsLiteral (sanitize pattern).toList := by
  refine ⟨"\\\\/", by decide, by decide, ?_⟩
  rw [sanitize, String.toList_ofList, isLiteral_delimit_iff]
  intro h
  exact h.held ['\\', '\\'] [] (by decide) (by decide)

end RestContract.Validation.Pattern
