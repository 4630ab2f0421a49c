import Mathlib
import RestContract.Name

/-!
# The pattern of words

The words of a text are what one pattern finds in it from the left: a run of capital letters that no
small letter follows, or else small letters with at most one capital letter in front, or else a run
of digits. A run takes as many characters as it can. Where what has to follow does not match, it
gives back the last of them and tries again, so a run of capital letters leaves its last letter to
the small letters behind it.

The pattern matches at every ASCII letter and digit that no earlier word has taken. So the words keep
all of them in their order, and a name that is made of words differs from the letters and digits of
its text in their case alone.
-/

namespace RestContract.Name

/-! ## Patterns -/

/-- A pattern of characters. -/
inductive Pattern where
  /-- One or more characters of a class. -/
  | run (isIn : Char → Bool)
  /-- A character of a class, or nothing. -/
  | atMostOne (isIn : Char → Bool)
  /-- Nothing, where no character of a class comes next. -/
  | notBefore (isIn : Char → Bool)
  | andThen (first second : Pattern)
  | orElse (first second : Pattern)

/-- What runs of a class can take from the front of a text, each with what it leaves, the longest one
    first. -/
def runs (isIn : Char → Bool) : List Char → List (List Char × List Char)
  | [] => []
  | c :: rest =>
    if isIn c then (runs isIn rest).map (Prod.map (c :: ·) id) ++ [([c], rest)] else []

/-- The ways in which a pattern matches at the front of a text, in the order in which they are tried:
    the characters that it takes and those that it leaves. -/
def Pattern.ways : Pattern → List Char → List (List Char × List Char)
  | .run isIn, text => runs isIn text
  | .atMostOne isIn, c :: rest =>
    if isIn c then [([c], rest), ([], c :: rest)] else [([], c :: rest)]
  | .atMostOne _, [] => [([], [])]
  | .notBefore isIn, text => if text.head?.any isIn then [] else [([], text)]
  | .andThen first second, text =>
    (first.ways text).flatMap fun (taken, left) => (second.ways left).map (Prod.map (taken ++ ·) id)
  | .orElse first second, text => first.ways text ++ second.ways text

/-- What a pattern that takes some character finds in a text. Where it matches, it is the first way
    that counts, and the search goes on behind what was taken; where it does not, a character is
    passed over. -/
inductive Finds (pattern : Pattern) : List Char → List (List Char) → Prop
  | done : Finds pattern [] []
  | passed {c : Char} {rest : List Char} {found : List (List Char)}
    (hn : pattern.ways (c :: rest) = []) (h : Finds pattern rest found) :
    Finds pattern (c :: rest) found
  | taken {c : Char} {rest word left : List Char} {found : List (List Char)}
    (hw : (pattern.ways (c :: rest)).head? = some (word, left)) (h : Finds pattern left found) :
    Finds pattern (c :: rest) (word :: found)

theorem Finds.unique {pattern : Pattern} {text : List Char} {found other : List (List Char)}
    (h : Finds pattern text found) (ho : Finds pattern text other) : found = other := by
  induction h generalizing other with
  | done =>
    cases ho
    rfl
  | passed hn _ ih =>
    cases ho with
    | passed _ ho => exact ih ho
    | taken hw _ => simp [hn] at hw
  | taken hw _ ih =>
    cases ho with
    | passed hn _ => simp [hn] at hw
    | taken hw' ho =>
      rw [hw] at hw'
      cases hw'
      rw [ih ho]

/-- Capital letters that no small letter follows. -/
def capitalsPattern : Pattern := .andThen (.run Char.isUpper) (.notBefore Char.isLower)

/-- Small letters with at most one capital letter in front. -/
def lettersPattern : Pattern := .andThen (.atMostOne Char.isUpper) (.run Char.isLower)

/-- The pattern of a word. -/
def wordPattern : Pattern :=
  .orElse capitalsPattern (.orElse lettersPattern (.run Char.isDigit))

/-! ## The first way of the pattern -/

variable {c d : Char} {rest text : List Char}

/-- Of some ways to match at a character, the first one takes the first word. -/
def TakesWord (ways : List (List Char × List Char)) (c : Char) (rest : List Char) : Prop :=
  ∃ tail left, rest = tail ++ left ∧ ways.head? = some (c :: tail, left) ∧
    words (c :: rest) = (c :: tail) :: words left

theorem words_of_joinsNext (hc : isWordChar c = true) (h : joinsNext c rest = true) :
    words (c :: rest) = pushFront c (words rest) := by
  rw [words, if_pos hc, if_pos h]

theorem words_of_not_joinsNext (hc : isWordChar c = true) (h : joinsNext c rest = false) :
    words (c :: rest) = [c] :: words rest := by
  rw [words, if_pos hc, if_neg (by simp [h])]

theorem words_of_not_isWordChar (hc : isWordChar c = false) : words (c :: rest) = words rest := by
  rw [words, if_neg (by simp [hc])]

/-- The word of a character that goes on has this character in front of the next word. -/
theorem TakesWord.cons {ways more : List (List Char × List Char)} (h : TakesWord ways d rest)
    (hc : isWordChar c = true) (hj : joinsNext c (d :: rest) = true) :
    TakesWord (ways.map (Prod.map (c :: ·) id) ++ more) c (d :: rest) := by
  obtain ⟨tail, left, hrest, hhead, hwords⟩ := h
  refine ⟨d :: tail, left, by rw [hrest, List.cons_append], ?_, ?_⟩
  · simp [List.head?_append, List.head?_map, hhead]
  · rw [words_of_joinsNext hc hj, hwords, pushFront]

/-- A character whose word does not go on is a word. -/
theorem takesWord_singleton (hc : isWordChar c = true) (hj : joinsNext c rest = false) :
    TakesWord [([c], rest)] c rest :=
  ⟨[], rest, rfl, rfl, words_of_not_joinsNext hc hj⟩

theorem TakesWord.append {ways : List (List Char × List Char)} (h : TakesWord ways c rest)
    (more : List (List Char × List Char)) : TakesWord (ways ++ more) c rest := by
  obtain ⟨tail, left, hrest, hhead, hwords⟩ := h
  exact ⟨tail, left, hrest, by simp [List.head?_append, hhead], hwords⟩

/-- A run takes the first word where exactly the characters of its class continue one another. -/
theorem takesWord_runs {isIn : Char → Bool} (hword : ∀ c, isIn c = true → isWordChar c = true)
    (hjoins : ∀ c d next, isIn c = true → joins c d next = isIn d) (hc : isIn c = true) :
    TakesWord (runs isIn (c :: rest)) c rest := by
  induction rest generalizing c with
  | nil =>
    simp only [runs, hc, if_true, List.map_nil, List.nil_append]
    exact takesWord_singleton (hword c hc) rfl
  | cons d more ih =>
    have hnext : joinsNext c (d :: more) = isIn d := hjoins c d more.head? hc
    rw [runs, if_pos hc]
    by_cases hd : isIn d = true
    · exact (ih hd).cons (hword c hc) (hnext.trans hd)
    · have hnone : runs isIn (d :: more) = [] := by rw [runs, if_neg hd]
      rw [hnone]
      exact takesWord_singleton (hword c hc) (by simpa [hd] using hnext)

/-! ## Classes of characters -/

theorem classes_of_isUpper (h : c.isUpper = true) : c.isLower = false ∧ c.isDigit = false := by
  simp [Char.isUpper, Char.isLower, Char.isDigit, UInt32.le_iff_toNat_le] at h ⊢
  omega

theorem classes_of_isLower (h : c.isLower = true) : c.isUpper = false ∧ c.isDigit = false := by
  simp [Char.isUpper, Char.isLower, Char.isDigit, UInt32.le_iff_toNat_le] at h ⊢
  omega

theorem classes_of_isDigit (h : c.isDigit = true) : c.isUpper = false ∧ c.isLower = false := by
  simp [Char.isUpper, Char.isLower, Char.isDigit, UInt32.le_iff_toNat_le] at h ⊢
  omega

theorem isWordChar_of_isUpper (h : c.isUpper = true) : isWordChar c = true := by
  simp [isWordChar, Char.isAlpha, h]

theorem isWordChar_of_isLower (h : c.isLower = true) : isWordChar c = true := by
  simp [isWordChar, Char.isAlpha, h]

theorem isWordChar_of_isDigit (h : c.isDigit = true) : isWordChar c = true := by
  simp [isWordChar, h]

theorem isWordChar_eq_false_iff : isWordChar c = false ↔
    c.isUpper = false ∧ c.isLower = false ∧ c.isDigit = false := by
  simp [isWordChar, Char.isAlpha, and_assoc]

theorem joins_of_isUpper {next : Option Char} (h : c.isUpper = true) :
    joins c d next = (d.isLower || (d.isUpper && !next.any Char.isLower)) := by
  simp [joins, h, classes_of_isUpper h]

theorem joins_of_isLower {next : Option Char} (h : c.isLower = true) :
    joins c d next = d.isLower := by
  simp [joins, h, classes_of_isLower h]

theorem joins_of_isDigit {next : Option Char} (h : c.isDigit = true) :
    joins c d next = d.isDigit := by
  simp [joins, h, classes_of_isDigit h]

theorem takesWord_digits (h : c.isDigit = true) :
    TakesWord (runs Char.isDigit (c :: rest)) c rest :=
  takesWord_runs (fun _ => isWordChar_of_isDigit) (fun _ _ _ => joins_of_isDigit) h

theorem takesWord_smallLetters (h : c.isLower = true) :
    TakesWord (runs Char.isLower (c :: rest)) c rest :=
  takesWord_runs (fun _ => isWordChar_of_isLower) (fun _ _ _ => joins_of_isLower) h

/-! ## Capital letters -/

theorem runs_eq_nil {isIn : Char → Bool} (h : isIn c = false) : runs isIn (c :: rest) = [] := by
  simp [runs, h]

/-- Capital letters after a first one are taken before it is tried alone. -/
theorem ways_capitals (h : c.isUpper = true) :
    capitalsPattern.ways (c :: rest) = (capitalsPattern.ways rest).map (Prod.map (c :: ·) id) ++
      if rest.head?.any Char.isLower then [] else [([c], rest)] := by
  simp only [capitalsPattern, Pattern.ways, runs, h, if_true, List.flatMap_append, List.flatMap_map,
    List.map_flatMap, List.map_map]
  congr 1
  simp only [List.flatMap_singleton]
  split <;> simp

theorem ways_capitals_eq_nil (h : rest.head?.any Char.isUpper = false) :
    capitalsPattern.ways rest = [] := by
  cases rest with
  | nil => rfl
  | cons c rest => simp [capitalsPattern, Pattern.ways, runs_eq_nil (by simpa using h)]

/-- A capital letter that a small letter follows is left to it. -/
theorem ways_capitals_before (h : c.isUpper = true) (hn : rest.head?.any Char.isLower = true) :
    capitalsPattern.ways (c :: rest) = [] := by
  have hrest : rest.head?.any Char.isUpper = false := by
    cases rest with
    | nil => rfl
    | cons d more => exact (classes_of_isLower (by simpa using hn)).1
  rw [ways_capitals h, ways_capitals_eq_nil hrest, if_pos hn, List.map_nil, List.nil_append]

theorem takesWord_capitals (h : c.isUpper = true) (hn : rest.head?.any Char.isLower = false) :
    TakesWord (capitalsPattern.ways (c :: rest)) c rest := by
  have hword := isWordChar_of_isUpper h
  induction rest generalizing c with
  | nil =>
    rw [ways_capitals h]
    exact takesWord_singleton hword rfl
  | cons d more ih =>
    have hd : d.isLower = false := by simpa using hn
    have hnext : joinsNext c (d :: more) = (d.isUpper && !more.head?.any Char.isLower) := by
      rw [joinsNext, joins_of_isUpper h, hd, Bool.false_or]
    rw [ways_capitals h, if_neg (by simp [hd])]
    by_cases hgoes : d.isUpper = true ∧ more.head?.any Char.isLower = false
    · -- The letter goes on with the capital letters behind it.
      obtain ⟨hu, hm⟩ := hgoes
      exact (ih hu hm (isWordChar_of_isUpper hu)).cons hword (by simp [hnext, hu, hm])
    · -- The next character is no capital letter, or it is one that belongs to the small letters.
      have hnone : capitalsPattern.ways (d :: more) = [] := by
        by_cases hu : d.isUpper = true
        · exact ways_capitals_before hu (by simpa [hu] using hgoes)
        · exact ways_capitals_eq_nil (by simpa using hu)
      rw [hnone]
      exact takesWord_singleton hword (by grind)

/-! ## Words are what is found -/

theorem ways_letters (h : c.isUpper = true) : lettersPattern.ways (c :: rest) =
    (runs Char.isLower rest).map (Prod.map (c :: ·) id) := by
  simp [lettersPattern, Pattern.ways, h, runs_eq_nil (classes_of_isUpper h).1]

theorem ways_letters_of_not (h : c.isUpper = false) :
    lettersPattern.ways (c :: rest) = runs Char.isLower (c :: rest) := by
  simp only [lettersPattern, Pattern.ways, h, Bool.false_eq_true, if_false, List.flatMap_singleton]
  exact List.map_id _

/-- A capital letter is the front of the small letters behind it. -/
theorem takesWord_letters (h : c.isUpper = true) (hn : rest.head?.any Char.isLower = true) :
    TakesWord (lettersPattern.ways (c :: rest)) c rest := by
  cases rest with
  | nil => simp at hn
  | cons d more =>
    have hd : d.isLower = true := by simpa using hn
    have hnext : joinsNext c (d :: more) = true := by simp [joinsNext, joins_of_isUpper h, hd]
    have htakes : TakesWord ((runs Char.isLower (d :: more)).map (Prod.map (c :: ·) id) ++ []) c
        (d :: more) := (takesWord_smallLetters hd).cons (isWordChar_of_isUpper h) hnext
    rwa [List.append_nil, ← ways_letters h] at htakes

/-- At a letter or digit, the pattern takes the first word. -/
theorem takesWord_wordPattern (h : isWordChar c = true) :
    TakesWord (wordPattern.ways (c :: rest)) c rest := by
  rw [wordPattern, Pattern.ways, Pattern.ways, Pattern.ways]
  by_cases hu : c.isUpper = true
  · by_cases hn : rest.head?.any Char.isLower = true
    · rw [ways_capitals_before hu hn, List.nil_append]
      exact (takesWord_letters hu hn).append _
    · exact (takesWord_capitals hu (by simpa using hn)).append _
  · have hu : c.isUpper = false := by simpa using hu
    rw [ways_capitals_eq_nil (by simpa using hu), List.nil_append, ways_letters_of_not hu]
    by_cases hl : c.isLower = true
    · exact (takesWord_smallLetters hl).append _
    · have hl : c.isLower = false := by simpa using hl
      have hd : c.isDigit = true := by simpa [isWordChar, Char.isAlpha, hu, hl] using h
      rw [runs_eq_nil hl, List.nil_append]
      exact takesWord_digits hd

/-- At any other character, the pattern does not match. -/
theorem ways_wordPattern_eq_nil (h : isWordChar c = false) : wordPattern.ways (c :: rest) = [] := by
  obtain ⟨hu, hl, hd⟩ := isWordChar_eq_false_iff.1 h
  rw [wordPattern, Pattern.ways, Pattern.ways, Pattern.ways, ways_letters_of_not hu, runs_eq_nil hl,
    runs_eq_nil hd, ways_capitals_eq_nil (by simpa using hu)]
  rfl

/-- The search goes from word to word, passing over what is in between. -/
theorem finds_words (text : List Char) : Finds wordPattern text (words text) := by
  cases text with
  | nil => exact .done
  | cons c rest =>
    by_cases h : isWordChar c = true
    · have htakes : TakesWord (wordPattern.ways (c :: rest)) c rest := takesWord_wordPattern h
      obtain ⟨tail, left, hrest, hhead, hwords⟩ := htakes
      rw [hwords]
      exact .taken hhead (finds_words left)
    · have h : isWordChar c = false := by simpa using h
      rw [words_of_not_isWordChar h]
      exact .passed (ways_wordPattern_eq_nil h) (finds_words rest)
termination_by text.length
decreasing_by
  · simp [hrest]
  · simp

theorem finds_iff {found : List (List Char)} : Finds wordPattern text found ↔ found = words text := by
  constructor
  · intro h
    exact h.unique (finds_words text)
  · rintro rfl
    exact finds_words text

/-! ## Nothing is lost -/

theorem flatten_pushFront (c : Char) (all : List (List Char)) :
    (pushFront c all).flatten = c :: all.flatten := by
  cases all <;> simp [pushFront]

theorem nil_not_mem_pushFront {all : List (List Char)} (h : [] ∉ all) : [] ∉ pushFront c all := by
  cases all with
  | nil => simp [pushFront]
  | cons word more => simpa [pushFront] using fun hm => h (List.mem_cons_of_mem _ hm)

theorem flatten_words (text : List Char) : (words text).flatten = text.filter isWordChar := by
  induction text with
  | nil => rfl
  | cons c rest ih =>
    by_cases h : isWordChar c = true
    · rw [List.filter_cons_of_pos h, ← ih]
      by_cases hj : joinsNext c rest = true
      · rw [words_of_joinsNext h hj, flatten_pushFront]
      · rw [words_of_not_joinsNext h (by simpa using hj)]
        rfl
    · rw [List.filter_cons_of_neg h, words_of_not_isWordChar (by simpa using h), ih]

theorem nil_not_mem_words (text : List Char) : [] ∉ words text := by
  induction text with
  | nil => simp [words]
  | cons c rest ih =>
    by_cases h : isWordChar c = true
    · by_cases hj : joinsNext c rest = true
      · rw [words_of_joinsNext h hj]
        exact nil_not_mem_pushFront ih
      · rw [words_of_not_joinsNext h (by simpa using hj)]
        simpa using ih
    · rwa [words_of_not_isWordChar (by simpa using h)]

/-! ## Names made of words -/

theorem lower_append (word other : List Char) : lower (word ++ other) = lower word ++ lower other :=
  List.map_append

theorem lower_lower (word : List Char) : lower (lower word) = lower word := by
  simp [lower]

theorem lower_capitalize (word : List Char) : lower (capitalize word) = lower word := by
  cases word with
  | nil => rfl
  | cons c rest => simp [capitalize, lower]

theorem lower_flatMap_capitalize (all : List (List Char)) :
    lower (all.flatMap capitalize) = lower all.flatten := by
  induction all with
  | nil => rfl
  | cons word more ih =>
    rw [List.flatMap_cons, List.flatten_cons, lower_append, lower_append, lower_capitalize, ih]

/-- A name has the letters and digits of its text, but for their case. -/
theorem lower_camelChars (text : List Char) :
    lower (camelChars text) = lower (text.filter isWordChar) := by
  rw [← flatten_words, camelChars]
  split
  · next h => rw [h, List.flatten_nil]
  · next first others h =>
    rw [h, List.flatten_cons, lower_append, lower_append, lower_lower, lower_flatMap_capitalize]

/-- What a path has in other places than a text is neither a letter nor a digit. -/
theorem filter_pathChars (path : List Char) :
    (pathChars path).filter isWordChar = path.filter isWordChar := by
  induction path with
  | nil => rfl
  | cons c rest ih =>
    simp only [pathChars, List.map_cons, List.filter_cons] at ih ⊢
    by_cases hs : c = '/' ∨ c = '.' ∨ c = '\x7b'
    · have hc : isWordChar c = false := by rcases hs with rfl | rfl | rfl <;> rfl
      have hdash : isWordChar '-' = false := rfl
      simp [hs, hc, hdash, ih]
    · by_cases he : c = '\x7d'
      · have hbrace : isWordChar '\x7d' = false := rfl
        simp [he, hbrace, ← ih]
      · simp [hs, he, List.filter_cons, ih]

/-- The words of a text are what the pattern of words finds in it. Put together they are exactly the
    ASCII letters and digits of the text, and none of them is empty. So the name that a text or a path
    gives consists of these letters and digits, up to their case, and texts with one name agree on
    them up to case. -/
theorem words_keep_letters (text : String) :
    (∀ found, Finds wordPattern text.toList found ↔ found = words text.toList) ∧
      (words text.toList).flatten = text.toList.filter Char.isAlphanum ∧
      [] ∉ words text.toList ∧
      (camelCase text).toList.map Char.toLower =
        (text.toList.filter Char.isAlphanum).map Char.toLower ∧
      (ofPath text).toList.map Char.toLower =
        (text.toList.filter Char.isAlphanum).map Char.toLower ∧
      ∀ other : String, camelCase text = camelCase other →
        (text.toList.filter Char.isAlphanum).map Char.toLower =
          (other.toList.filter Char.isAlphanum).map Char.toLower := by
  have hcamel : ∀ text : String, (camelCase text).toList.map Char.toLower =
      (text.toList.filter Char.isAlphanum).map Char.toLower := by
    intro text
    rw [camelCase, String.toList_ofList]
    exact lower_camelChars text.toList
  have hpath : (ofPath text).toList.map Char.toLower =
      (text.toList.filter Char.isAlphanum).map Char.toLower := by
    rw [ofPath, String.toList_ofList]
    exact (lower_camelChars _).trans (congrArg lower (filter_pathChars text.toList))
  refine ⟨fun _ => finds_iff, flatten_words _, nil_not_mem_words _, hcamel text, hpath, ?_⟩
  intro other h
  rw [← hcamel text, ← hcamel other, h]

/-- Two spellings of one name: the words of both are `get`, `http`, `response`, `v` and `2`, up to
    case. -/
theorem words_keep_letters_acronym :
    camelCase "getHTTPResponse_v2" = camelCase "Get-http.response V2" ∧
      ("getHTTPResponse_v2".toList.filter Char.isAlphanum).map Char.toLower =
        ("Get-http.response V2".toList.filter Char.isAlphanum).map Char.toLower := by
  have h : camelCase "getHTTPResponse_v2" = camelCase "Get-http.response V2" := by decide +kernel
  exact ⟨h, (words_keep_letters "getHTTPResponse_v2").2.2.2.2.2 _ h⟩

end RestContract.Name
