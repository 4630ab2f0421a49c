import Mathlib.Data.List.Nodup
import RestContract.Contract.Expansion

/-!
# What a code of a contract stands for

The table of responses of a contract, said without the order in which it is filled. A code has the
response under the code itself. A usual code that is not listed has the response under the first key
of its family, or else the default, unless it is a code of success and another one is listed. The
expansion takes families one after the other and asks each time whether a code of success has been
taken; `Expands` says what is taken after some of them, and every step keeps it.
-/

namespace RestContract

namespace StatusKind

/-- The keys of each form: a code, a family of codes, and the default. -/
inductive Spelled : StatusKind → String → Prop where
  | exact {a b c : Char} (ha : isFamily a = true) (hb : b.isDigit = true) (hc : c.isDigit = true) :
    Spelled .exact (String.ofList [a, b, c])
  | range {a b c : Char} (ha : isFamily a = true) (hb : isWild b = true) (hc : isWild c = true) :
    Spelled .range (String.ofList [a, b, c])
  | default : Spelled .default "default"

theorem isWild_eq_false_of_isDigit {c : Char} (h : c.isDigit = true) : isWild c = false := by
  by_contra hw
  simp only [isWild, Bool.not_eq_false, Bool.or_eq_true, beq_iff_eq] at hw
  rcases hw with rfl | rfl <;> simp at h

theorem isDigit_of_isFamily {c : Char} (h : isFamily c = true) : c.isDigit = true := by
  simp only [isFamily, Bool.and_eq_true, decide_eq_true_eq, Char.le_def] at h
  simp only [Char.isDigit, Bool.and_eq_true, decide_eq_true_eq]
  exact ⟨Nat.le_trans (by decide) h.1, Nat.le_trans h.2 (by decide)⟩

theorem ofChars?_three {a b c : Char} (hc : c ≠ '\n') :
    ofChars? [a, b, c] =
      if isFamily a && isWild b && isWild c then some .range
      else if isFamily a && b.isDigit && c.isDigit then some .exact
      else none := by
  have hne : [a, b, c] ≠ "default".toList := by
    intro h
    have := congrArg List.length h
    simp at this
  have hbreak : dropBreak [a, b, c] = [a, b, c] := by simp [dropBreak, hc]
  rw [ofChars?, if_neg hne, hbreak]

theorem ofKey?_of_spelled {kind : StatusKind} {key : String} (h : Spelled kind key) :
    ofKey? key = some kind := by
  cases h with
  | @exact a b c ha hb hc =>
    have hn : c ≠ '\n' := by
      rintro rfl
      simp at hc
    rw [ofKey?, String.toList_ofList, ofChars?_three hn]
    simp [ha, hb, hc, isWild_eq_false_of_isDigit hb]
  | @range a b c ha hb hc =>
    have hn : c ≠ '\n' := by
      rintro rfl
      simp [isWild] at hc
    rw [ofKey?, String.toList_ofList, ofChars?_three hn]
    simp [ha, hb, hc]
  | default => rfl

/-- A key has one form. -/
theorem Spelled.unique {kind other : StatusKind} {key : String} (h : Spelled kind key)
    (ho : Spelled other key) : kind = other := by
  have := (ofKey?_of_spelled h).symm.trans (ofKey?_of_spelled ho)
  exact Option.some.inj this

end StatusKind

namespace Contract

variable {α : Type}

/-! ## Families and free codes -/

/-- Whether two keys start alike. -/
def sameFamily (key code : String) : Bool := key.toList.head? == code.toList.head?

theorem sameFamily_iff {key code : String} :
    sameFamily key code = true ↔ key.toList.head? = code.toList.head? := by
  rw [sameFamily, beq_iff_eq]

theorem isOfFamily_iff {family : Char} {code : String} :
    isOfFamily family code = true ↔ code.toList.head? = some family := by
  rw [isOfFamily, beq_iff_eq]

theorem isSuccess_iff {code : String} : isSuccess code = true ↔ code.toList.head? = some '2' :=
  isOfFamily_iff

/-- A response and one of the codes it stands for. -/
def Holds (shares : List (Share α)) (code : String) (response : α) : Prop :=
  ∃ s ∈ shares, code ∈ s.codes ∧ s.response = response

theorem mem_taken_iff {shares : List (Share α)} {code : String} :
    code ∈ taken shares ↔ ∃ response, Holds shares code response := by
  rw [taken, List.mem_flatMap]
  constructor
  · rintro ⟨s, hs, hc⟩
    exact ⟨s.response, s, hs, hc, rfl⟩
  · rintro ⟨_, s, hs, hc, _⟩
    exact ⟨s, hs, hc⟩

theorem holds_addShare {shares : List (Share α)} {codes : List String} {response other : α}
    {code : String} :
    Holds (addShare shares codes response) code other ↔
      Holds shares code other ∨ code ∈ codes ∧ response = other := by
  unfold addShare Holds
  split
  · next h =>
    rw [List.isEmpty_iff] at h
    simp [h]
  · simp only [List.mem_append, List.mem_singleton, or_and_right, exists_or, exists_eq_left]

theorem taken_addShare {shares : List (Share α)} {codes : List String} {response : α} :
    taken (addShare shares codes response) = taken shares ++ codes := by
  unfold addShare taken
  split
  · next h =>
    rw [List.isEmpty_iff] at h
    simp [h]
  · simp

theorem nodup_usualCodes : usualCodes.Nodup := by decide

theorem mem_freeCodes_iff {shares : List (Share α)} {code : String} :
    code ∈ freeCodes shares ↔ code ∈ usualCodes ∧ code ∉ taken shares ∧
      ¬ ((taken shares).any isSuccess = true ∧ isSuccess code = true) := by
  simp only [freeCodes, List.mem_filter, List.contains_eq_mem, Bool.and_eq_true,
    Bool.not_eq_true', ← Bool.not_eq_true, decide_eq_true_eq]

/-- A family takes those of the free codes that belong to it. -/
theorem mem_freeOfFamily_iff {shares : List (Share α)} {family : Char} {code : String} :
    code ∈ freeOfFamily shares family ↔ isOfFamily family code = true ∧ code ∈ freeCodes shares := by
  have hsuccess : isOfFamily family code = true → (isSuccess code = true ↔ family = '2') := by
    intro hf
    rw [isSuccess_iff, isOfFamily_iff.1 hf, Option.some.injEq]
  rw [mem_freeCodes_iff, freeOfFamily]
  split
  · next h =>
    constructor
    · intro hm
      cases hm
    · rintro ⟨hf, _, _, hn⟩
      exact absurd ⟨h.2, (hsuccess hf).2 h.1⟩ hn
  · next h =>
    simp only [List.mem_filter, Bool.and_eq_true, Bool.not_eq_true', List.contains_eq_mem,
      decide_eq_false_iff_not]
    constructor
    · rintro ⟨hu, hf, ht⟩
      exact ⟨hf, hu, ht, fun hs => h ⟨(hsuccess hf).1 hs.2, hs.1⟩⟩
    · rintro ⟨hf, hu, ht, _⟩
      exact ⟨hu, hf, ht⟩

theorem nodup_freeCodes (shares : List (Share α)) : (freeCodes shares).Nodup := by
  unfold freeCodes
  exact nodup_usualCodes.filter _

theorem nodup_freeOfFamily (shares : List (Share α)) (family : Char) :
    (freeOfFamily shares family).Nodup := by
  unfold freeOfFamily
  split
  · exact List.nodup_nil
  · exact nodup_usualCodes.filter _

/-! ## Families one after the other -/

/-- A usual code that is not among the listed ones can be taken, unless it is a code of success and
    one of those is listed. -/
structure Admits (listed : List String) (code : String) : Prop where
  usual : code ∈ usualCodes
  unlisted : code ∉ listed
  success : isSuccess code = true → listed.any isSuccess = false

/-- The first response of a family that a code belongs to. -/
def firstOf (families : List (String × α)) (code : String) : Option (String × α) :=
  families.find? fun entry => sameFamily entry.1 code

theorem firstOf_concat (families : List (String × α)) (entry : String × α) (code : String) :
    firstOf (families ++ [entry]) code =
      (firstOf families code).or (if sameFamily entry.1 code then some entry else none) := by
  rw [firstOf, List.find?_append, List.find?_singleton]
  rfl

/-- A code stands for the first response of its family, if it can be taken. -/
def Stands (listed : List String) (families : List (String × α)) (code : String) (response : α) :
    Prop :=
  Admits listed code ∧ ∃ key, firstOf families code = some (key, response)

/-- What has been taken when some families have been expanded. -/
structure Expands (start : List (Share α)) (families : List (String × α))
    (shares : List (Share α)) : Prop where
  holds : ∀ code response, Holds shares code response ↔
    Holds start code response ∨ Stands (taken start) families code response
  nodup : (taken shares).Nodup

namespace Expands

variable {start shares : List (Share α)} {families : List (String × α)}

theorem refl (h : (taken start).Nodup) : Expands start [] start where
  holds := by simp [Stands, firstOf]
  nodup := h

theorem mem_taken (h : Expands start families shares) (code : String) :
    code ∈ taken shares ↔ code ∈ taken start ∨
      Admits (taken start) code ∧ (firstOf families code).isSome = true := by
  rw [mem_taken_iff, mem_taken_iff]
  simp only [h.holds, Stands, exists_or, exists_and_left, Option.isSome_iff_exists, Prod.exists]
  rw [exists_comm]

/-- The codes that are free are those that can be taken and have no family. -/
theorem mem_freeCodes (h : Expands start families shares) (code : String) :
    code ∈ freeCodes shares ↔ Admits (taken start) code ∧ firstOf families code = none := by
  rw [mem_freeCodes_iff, h.mem_taken]
  constructor
  · rintro ⟨hu, ht, hs⟩
    have hadmits : Admits (taken start) code := by
      refine ⟨hu, fun hm => ht (.inl hm), fun hsuccess => ?_⟩
      by_contra hany
      obtain ⟨other, ho, hother⟩ := List.any_eq_true.1 (Bool.not_eq_false _ ▸ hany)
      exact hs ⟨List.any_eq_true.2 ⟨other, (h.mem_taken other).2 (.inl ho), hother⟩, hsuccess⟩
    refine ⟨hadmits, ?_⟩
    by_contra hf
    exact ht (.inr ⟨hadmits, Option.isSome_iff_ne_none.2 hf⟩)
  · rintro ⟨ha, hf⟩
    refine ⟨ha.usual, ?_, ?_⟩
    · rintro (hm | ⟨_, hsome⟩)
      · exact ha.unlisted hm
      · simp [hf] at hsome
    · rintro ⟨hany, hsuccess⟩
      -- A code of success that has been taken is listed, or its family is that of the code.
      obtain ⟨other, ho, hother⟩ := List.any_eq_true.1 hany
      rcases (h.mem_taken other).1 ho with hm | ⟨_, hsome⟩
      · have := ha.success hsuccess
        rw [List.any_eq_false] at this
        exact this other hm hother
      · obtain ⟨entry, he⟩ := Option.isSome_iff_exists.1 hsome
        have hsame := List.find?_some he
        rw [sameFamily_iff, isSuccess_iff.1 hother, ← isSuccess_iff.1 hsuccess, ← sameFamily_iff]
          at hsame
        exact List.find?_eq_none.1 hf entry (List.mem_of_find?_eq_some he) hsame

theorem addFamily (h : Expands start families shares) {entry : String × α}
    (hkey : entry.1 ≠ "") : Expands start (families ++ [entry]) (addFamily shares entry) := by
  have hne : entry.1.toList ≠ [] := by simpa using hkey
  obtain ⟨family, rest, hlist⟩ := List.exists_cons_of_ne_nil hne
  have heq : Contract.addFamily shares entry =
      addShare shares (freeOfFamily shares family) entry.2 := by
    rw [Contract.addFamily, hlist]
  have hfamily : ∀ code, isOfFamily family code = true ↔ sameFamily entry.1 code = true := by
    intro code
    rw [isOfFamily_iff, sameFamily_iff, hlist, List.head?_cons, eq_comm]
  rw [heq]
  constructor
  · intro code response
    rw [holds_addShare, h.holds, mem_freeOfFamily_iff, h.mem_freeCodes, hfamily, or_assoc]
    refine or_congr_right ?_
    rw [Stands, Stands, firstOf_concat]
    -- A family that came earlier keeps the code, so the new one stands for it only if none did.
    cases hf : firstOf families code with
    | some found => simp
    | none =>
      obtain ⟨key, mine⟩ := entry
      by_cases hs : sameFamily key code = true
      · simp [hs]
      · simp [hs]
  · rw [taken_addShare, List.nodup_append']
    refine ⟨h.nodup, nodup_freeOfFamily .., fun code ht hc => ?_⟩
    exact (mem_freeCodes_iff.1 (mem_freeOfFamily_iff.1 hc).2).2.1 ht

theorem addFamilies (h : Expands start families shares) {more : List (String × α)}
    (hkeys : ∀ entry ∈ more, entry.1 ≠ "") :
    Expands start (families ++ more) (more.foldl Contract.addFamily shares) := by
  induction more generalizing families shares with
  | nil => simpa using h
  | cons entry rest ih =>
    have hnext := h.addFamily (hkeys entry List.mem_cons_self)
    simpa using ih hnext fun other ho => hkeys other (List.mem_cons_of_mem _ ho)

end Expands

/-! ## The table of responses -/

/-- The responses under keys of one form. -/
def ofForm (kind : StatusKind) (all : List (String × α)) : List (String × α) :=
  all.filter fun entry => StatusKind.ofKey? entry.1 == some kind

/-- A response and the form of its key. -/
def HasForm (entry : String × α) (found : StatusKind × String × α) : Prop :=
  StatusKind.ofKey? entry.1 = some found.1 ∧ found.2 = entry

theorem ofKind_eq_ofForm {all : List (String × α)} {classified : List (StatusKind × String × α)}
    (h : List.Forall₂ HasForm all classified) (kind : StatusKind) :
    ofKind kind classified = ofForm kind all := by
  induction h with
  | nil => rfl
  | @cons entry found rest others h _ ih =>
    obtain ⟨form, response⟩ := found
    obtain ⟨hform, rfl⟩ := h
    rw [ofForm, List.filter_cons, ← ofForm, ← ih, ofKind, List.filterMap_cons, ← ofKind, hform]
    by_cases heq : form = kind <;> simp [heq]

theorem eq_default_of_ofKey? {key : String} (h : StatusKind.ofKey? key = some .default) :
    key = "default" := by
  unfold StatusKind.ofKey? StatusKind.ofChars? at h
  split at h
  · next heq => exact String.toList_inj.1 heq
  · split at h
    · split at h
      · cases h
      · split at h <;> cases h
    · cases h

/-- There is at most one default response. -/
theorem ofForm_default {all : List (String × α)} (h : (all.map Prod.fst).Nodup) :
    ofForm .default all = [] ∨ ∃ response, ofForm .default all = [("default", response)] := by
  have hkey : ∀ entry ∈ ofForm .default all, entry.1 = "default" :=
    fun _ hm => eq_default_of_ofKey? (beq_iff_eq.1 (List.mem_filter.1 hm).2)
  have hnodup : ((ofForm .default all).map Prod.fst).Nodup :=
    h.sublist (List.filter_sublist.map _)
  match hd : ofForm .default all with
  | [] => exact .inl rfl
  | [(key, response)] =>
    have := hkey (key, response) (by simp [hd])
    exact .inr ⟨response, by rw [← this]⟩
  | first :: second :: rest =>
    have hfirst := hkey first (by simp [hd])
    have hsecond := hkey second (by simp [hd])
    rw [hd] at hnodup
    simp [hfirst, hsecond] at hnodup

/-- A code that is not among the keys can be taken, unless it is a code of success and one of those
    is a key. -/
structure Open (all : List (String × α)) (code : String) : Prop where
  usual : code ∈ usualCodes
  unlisted : code ∉ all.map Prod.fst
  success : isSuccess code = true →
    ∀ entry ∈ all, StatusKind.Spelled .exact entry.1 → isSuccess entry.1 = false

/-- The response that a code stands for. -/
inductive Gives (all : List (String × α)) (code : String) : α → Prop where
  /-- The response under the code. -/
  | exact {response : α} (hs : StatusKind.Spelled .exact code) (hm : (code, response) ∈ all) :
    Gives all code response
  /-- The response under the first family of the code. -/
  | range {before after : List (String × α)} {key : String} {response : α} (ho : Open all code)
    (heq : all = before ++ (key, response) :: after) (hs : StatusKind.Spelled .range key)
    (hf : sameFamily key code = true)
    (hfirst : ∀ entry ∈ before, StatusKind.Spelled .range entry.1 →
      sameFamily entry.1 code = false) : Gives all code response
  /-- The default response. -/
  | default {response : α} (ho : Open all code)
    (hnone : ∀ entry ∈ all, StatusKind.Spelled .range entry.1 → sameFamily entry.1 code = false)
    (hm : ("default", response) ∈ all) : Gives all code response

theorem spelled_of_usual {code : String} (h : code ∈ usualCodes) :
    StatusKind.Spelled .exact code := by
  have hspelled : ∀ a b c : Char, StatusKind.isFamily a = true → b.isDigit = true →
      c.isDigit = true → StatusKind.Spelled .exact (String.ofList [a, b, c]) :=
    fun _ _ _ => .exact
  simp only [usualCodes, List.mem_cons, List.not_mem_nil, or_false] at h
  rcases h with rfl | rfl | rfl | rfl | rfl | rfl | rfl | rfl | rfl | rfl | rfl
  · exact hspelled '2' '0' '0' rfl rfl rfl
  · exact hspelled '2' '0' '1' rfl rfl rfl
  · exact hspelled '2' '0' '4' rfl rfl rfl
  · exact hspelled '4' '0' '0' rfl rfl rfl
  · exact hspelled '4' '0' '1' rfl rfl rfl
  · exact hspelled '4' '0' '3' rfl rfl rfl
  · exact hspelled '4' '0' '4' rfl rfl rfl
  · exact hspelled '4' '0' '5' rfl rfl rfl
  · exact hspelled '4' '0' '9' rfl rfl rfl
  · exact hspelled '4' '1' '5' rfl rfl rfl
  · exact hspelled '5' '0' '0' rfl rfl rfl

/-- Every key of a table has one of the forms, and no key stands in it twice. -/
structure Listed (all : List (String × α)) : Prop where
  nodup : (all.map Prod.fst).Nodup
  spelled : ∀ entry ∈ all, ∃ kind, StatusKind.Spelled kind entry.1

namespace Listed

variable {all : List (String × α)} (h : Listed all)

include h

theorem ofKey?_iff {entry : String × α} (hm : entry ∈ all) (kind : StatusKind) :
    StatusKind.ofKey? entry.1 = some kind ↔ StatusKind.Spelled kind entry.1 := by
  obtain ⟨found, hf⟩ := h.spelled entry hm
  rw [StatusKind.ofKey?_of_spelled hf, Option.some.injEq]
  exact ⟨fun heq => heq ▸ hf, fun hs => hf.unique hs⟩

theorem mem_ofForm_iff {entry : String × α} {kind : StatusKind} :
    entry ∈ ofForm kind all ↔ entry ∈ all ∧ StatusKind.Spelled kind entry.1 := by
  rw [ofForm, List.mem_filter, beq_iff_eq]
  exact and_congr_right fun hm => h.ofKey?_iff hm kind

theorem admits_iff {code : String} :
    Admits ((ofForm .exact all).map Prod.fst) code ↔ Open all code := by
  constructor
  · intro ha
    refine ⟨ha.usual, fun hm => ?_, fun hsuccess entry he hs => ?_⟩
    · obtain ⟨entry, he, rfl⟩ := List.mem_map.1 hm
      exact ha.unlisted (List.mem_map_of_mem (h.mem_ofForm_iff.2 ⟨he, spelled_of_usual ha.usual⟩))
    · have hnone := List.any_eq_false.1 (ha.success hsuccess)
      have hlisted : entry ∈ ofForm .exact all := h.mem_ofForm_iff.2 ⟨he, hs⟩
      simpa using hnone entry.1 (List.mem_map_of_mem hlisted)
  · intro ho
    refine ⟨ho.usual, fun hm => ?_, fun hsuccess => List.any_eq_false.2 fun other hm => ?_⟩
    · obtain ⟨entry, he, rfl⟩ := List.mem_map.1 hm
      exact ho.unlisted (List.mem_map_of_mem (h.mem_ofForm_iff.1 he).1)
    · obtain ⟨entry, he, rfl⟩ := List.mem_map.1 hm
      obtain ⟨hall, hs⟩ := h.mem_ofForm_iff.1 he
      simpa using ho.success hsuccess entry hall hs

theorem firstOf_eq_some_iff {code key : String} {response : α} :
    firstOf (ofForm .range all) code = some (key, response) ↔
      StatusKind.Spelled .range key ∧ sameFamily key code = true ∧
        ∃ before after, all = before ++ (key, response) :: after ∧
          ∀ entry ∈ before, StatusKind.Spelled .range entry.1 → sameFamily entry.1 code = false := by
  rw [firstOf, ofForm, List.find?_filter, List.find?_eq_some_iff_append]
  simp only [beq_iff_eq, decide_eq_true_eq, Bool.not_eq_true', decide_eq_false_iff_not, not_and,
    Bool.not_eq_true]
  constructor
  · rintro ⟨⟨hk, hf⟩, before, after, rfl, hb⟩
    have hmem : (key, response) ∈ before ++ (key, response) :: after := by simp
    refine ⟨(h.ofKey?_iff hmem _).1 hk, hf, before, after, rfl, fun entry he hs => ?_⟩
    exact hb entry he (StatusKind.ofKey?_of_spelled hs)
  · rintro ⟨hk, hf, before, after, rfl, hb⟩
    refine ⟨⟨StatusKind.ofKey?_of_spelled hk, hf⟩, before, after, rfl, fun entry he hs => ?_⟩
    exact hb entry he ((h.ofKey?_iff (List.mem_append_left _ he) _).1 hs)

theorem firstOf_eq_none_iff {code : String} :
    firstOf (ofForm .range all) code = none ↔
      ∀ entry ∈ all, StatusKind.Spelled .range entry.1 → sameFamily entry.1 code = false := by
  rw [firstOf, List.find?_eq_none]
  simp only [h.mem_ofForm_iff, and_imp, Bool.not_eq_true]

theorem stands_iff {code : String} {response : α} :
    Stands ((ofForm .exact all).map Prod.fst) (ofForm .range all) code response ↔
      Open all code ∧ ∃ before key after, all = before ++ (key, response) :: after ∧
        StatusKind.Spelled .range key ∧ sameFamily key code = true ∧
        ∀ entry ∈ before, StatusKind.Spelled .range entry.1 → sameFamily entry.1 code = false := by
  rw [Stands, h.admits_iff]
  refine and_congr_right fun _ => ?_
  simp only [h.firstOf_eq_some_iff]
  constructor
  · rintro ⟨key, hk, hf, before, after, heq, hb⟩
    exact ⟨before, key, after, heq, hk, hf, hb⟩
  · rintro ⟨before, key, after, heq, hk, hf, hb⟩
    exact ⟨key, hk, hf, before, after, heq, hb⟩

/-- The response under a key that has a form of its own is given by the code that is the key. -/
theorem gives_iff {code : String} {response : α} :
    Gives all code response ↔
      (code, response) ∈ ofForm .exact all ∨
        Stands ((ofForm .exact all).map Prod.fst) (ofForm .range all) code response ∨
        Admits ((ofForm .exact all).map Prod.fst) code ∧
          firstOf (ofForm .range all) code = none ∧
          ("default", response) ∈ ofForm .default all := by
  rw [h.stands_iff, h.admits_iff, h.firstOf_eq_none_iff, h.mem_ofForm_iff, h.mem_ofForm_iff]
  constructor
  · intro hg
    cases hg with
    | exact hs hm => exact .inl ⟨hm, hs⟩
    | range ho heq hs hf hfirst => exact .inr (.inl ⟨ho, _, _, _, heq, hs, hf, hfirst⟩)
    | default ho hnone hm => exact .inr (.inr ⟨ho, hnone, hm, .default⟩)
  · rintro (⟨hm, hs⟩ | ⟨ho, _, _, _, heq, hs, hf, hfirst⟩ | ⟨ho, hnone, hm, _⟩)
    · exact .exact hs hm
    · exact .range ho heq hs hf hfirst
    · exact .default ho hnone hm

end Listed

/-- The shares of the responses under codes. -/
def ownShares (exact : List (String × α)) : List (Share α) :=
  exact.map fun (code, response) => ⟨[code], response⟩

theorem taken_ownShares (exact : List (String × α)) :
    taken (ownShares exact) = exact.map Prod.fst := by
  induction exact with
  | nil => rfl
  | cons entry rest ih =>
    rw [List.map_cons, ← ih]
    rfl

theorem holds_ownShares {exact : List (String × α)} {code : String} {response : α} :
    Holds (ownShares exact) code response ↔ (code, response) ∈ exact := by
  constructor
  · rintro ⟨s, hs, hc, rfl⟩
    obtain ⟨⟨key, found⟩, hm, rfl⟩ := List.mem_map.1 hs
    rw [List.mem_singleton] at hc
    exact hc ▸ hm
  · intro hm
    exact ⟨_, List.mem_map_of_mem hm, List.mem_singleton_self _, rfl⟩

/-- What has been taken before the default, when no key stands twice. -/
theorem expands_ranges {all : List (String × α)} (h : (all.map Prod.fst).Nodup) :
    Expands (ownShares (ofForm .exact all)) (ofForm .range all)
      ((ofForm .range all).foldl addFamily (ownShares (ofForm .exact all))) := by
  have hstart : (taken (ownShares (ofForm .exact all))).Nodup := by
    rw [taken_ownShares]
    exact h.sublist (List.filter_sublist.map _)
  have hkeys : ∀ entry ∈ ofForm .range all, entry.1 ≠ "" := by
    intro entry hm heq
    have hkey := beq_iff_eq.1 (List.mem_filter.1 hm).2
    rw [heq] at hkey
    simp [StatusKind.ofKey?, StatusKind.ofChars?, StatusKind.dropBreak] at hkey
  exact (Expands.refl hstart).addFamilies hkeys

theorem expand_eq {all : List (String × α)} {classified : List (StatusKind × String × α)}
    (hc : List.Forall₂ HasForm all classified) :
    expand classified = (ofForm .default all).foldl addDefault
      ((ofForm .range all).foldl addFamily (ownShares (ofForm .exact all))) := by
  simp only [expand, ofKind_eq_ofForm hc]
  rfl

/-- The expansion gives each code the response that it stands for, and takes no code twice. -/
theorem holds_expand {all : List (String × α)} {classified : List (StatusKind × String × α)}
    (h : Listed all) (hc : List.Forall₂ HasForm all classified) :
    (∀ code response, Holds (expand classified) code response ↔ Gives all code response) ∧
      (taken (expand classified)).Nodup := by
  have hexpand := expand_eq hc
  have hranges := expands_ranges h.nodup
  generalize (ofForm .range all).foldl addFamily (ownShares (ofForm .exact all)) = shares
    at hexpand hranges
  have hholds := hranges.holds
  have hfree := hranges.mem_freeCodes
  rw [taken_ownShares] at hholds hfree
  simp only [holds_ownShares] at hholds
  simp only [h.gives_iff]
  rw [hexpand]
  rcases ofForm_default h.nodup with hd | ⟨response, hd⟩
  · rw [hd]
    refine ⟨fun code other => ?_, hranges.nodup⟩
    rw [List.foldl_nil, hholds]
    simp
  · rw [hd]
    have hone : [("default", response)].foldl addDefault shares =
        addShare shares (freeCodes shares) response := rfl
    rw [hone]
    constructor
    · intro code other
      rw [holds_addShare, hholds, hfree, or_assoc, and_assoc]
      simp only [List.mem_singleton, Prod.mk.injEq, true_and, eq_comm]
    · rw [taken_addShare, List.nodup_append']
      exact ⟨hranges.nodup, nodup_freeCodes _, fun code ht hm => (mem_freeCodes_iff.1 hm).2.1 ht⟩

/-- Every code that stands for a response is written as a code. -/
theorem Gives.spelled {all : List (String × α)} {code : String} {response : α}
    (h : Gives all code response) : StatusKind.Spelled .exact code := by
  cases h with
  | exact hs => exact hs
  | range ho | default ho => exact spelled_of_usual ho.usual

theorem Gives.of_perm {all reordered : List (String × α)} (hl : Listed all)
    (hp : reordered.Perm all)
    (hd : ∀ entry ∈ all, ∀ other ∈ all, StatusKind.Spelled .range entry.1 →
      StatusKind.Spelled .range other.1 → sameFamily entry.1 other.1 = true → entry.1 = other.1)
    {code : String} {response : α} (h : Gives all code response) :
    Gives reordered code response := by
  have hopen : Open all code → Open reordered code := by
    intro ho
    refine ⟨ho.usual, fun hm => ho.unlisted ((hp.map Prod.fst).mem_iff.1 hm), ?_⟩
    intro hs entry he
    exact ho.success hs entry (hp.mem_iff.1 he)
  cases h with
  | exact hs hm => exact .exact hs (hp.mem_iff.2 hm)
  | @range before after key response ho heq hs hf _ =>
    have hmem : (key, response) ∈ all := by simp [heq]
    -- Whatever stands before the key in the other order is of another family: a range of the same
    -- family has the same key by `hd`, and no key is listed twice.
    obtain ⟨front, back, hsplit⟩ := List.append_of_mem (hp.mem_iff.2 hmem)
    refine .range (hopen ho) hsplit hs hf fun entry he hr => ?_
    by_contra hsame
    have hall : entry ∈ all := hp.mem_iff.1 (by simp [hsplit, he])
    have hkey : entry.1 = key := by
      apply hd entry hall (key, response) hmem hr hs
      rw [Bool.not_eq_false, sameFamily_iff] at hsame
      rw [sameFamily_iff] at hf ⊢
      rw [hsame, hf]
    have hnodup : (reordered.map Prod.fst).Nodup := (hp.map Prod.fst).nodup_iff.2 hl.nodup
    rw [hsplit, List.map_append, List.nodup_append'] at hnodup
    exact hnodup.2.2 (List.mem_map_of_mem he) (by simp [hkey])
  | default ho hnone hm =>
    exact .default (hopen ho) (fun entry he => hnone entry (hp.mem_iff.1 he)) (hp.mem_iff.2 hm)

theorem Listed.of_perm {all reordered : List (String × α)} (h : Listed all)
    (hp : reordered.Perm all) : Listed reordered :=
  ⟨(hp.map Prod.fst).nodup_iff.2 h.nodup, fun entry he => h.spelled entry (hp.mem_iff.1 he)⟩

/-- No response is used without a code. -/
def InUse (shares : List (Share α)) : Prop := ∀ s ∈ shares, s.codes ≠ []

theorem InUse.addShare {shares : List (Share α)} {codes : List String} {response : α}
    (h : InUse shares) : InUse (addShare shares codes response) := by
  intro s hs
  unfold Contract.addShare at hs
  split at hs
  · exact h s hs
  · next hne =>
    rw [List.mem_append, List.mem_singleton] at hs
    rcases hs with hs | rfl
    · exact h s hs
    · simpa using hne

theorem InUse.addFamily {shares : List (Share α)} {entry : String × α} (h : InUse shares) :
    InUse (addFamily shares entry) := by
  unfold Contract.addFamily
  split
  · exact h
  · exact h.addShare

theorem inUse_expand (classified : List (StatusKind × String × α)) :
    InUse (expand classified) := by
  have hown : InUse (ownShares (ofKind .exact classified)) := by
    intro s hs
    obtain ⟨entry, _, rfl⟩ := List.mem_map.1 hs
    exact List.cons_ne_nil _ _
  have hranges : InUse ((ofKind .range classified).foldl addFamily
      (ownShares (ofKind .exact classified))) :=
    List.foldlRecOn (motive := InUse) _ _ hown fun _ h _ _ => h.addFamily
  exact List.foldlRecOn (motive := InUse) _ _ hranges fun _ h _ _ => h.addShare

/-- The responses of shares have a property. -/
def AllRespond (P : α → Prop) (shares : List (Share α)) : Prop := ∀ s ∈ shares, P s.response

theorem AllRespond.addShare {P : α → Prop} {shares : List (Share α)} (h : AllRespond P shares)
    (codes : List String) {response : α} (hr : P response) :
    AllRespond P (addShare shares codes response) := by
  unfold Contract.addShare
  split
  · exact h
  · exact List.forall_mem_append.2 ⟨h, List.forall_mem_singleton.2 hr⟩

theorem AllRespond.addFamily {P : α → Prop} {shares : List (Share α)} {entry : String × α}
    (h : AllRespond P shares) (hr : P entry.2) : AllRespond P (addFamily shares entry) := by
  unfold Contract.addFamily
  split
  · exact h
  · exact h.addShare _ hr

theorem forall_ofKind {P : α → Prop} {classified : List (StatusKind × String × α)}
    (h : ∀ entry ∈ classified, P entry.2.2) (kind : StatusKind) :
    ∀ entry ∈ ofKind kind classified, P entry.2 := by
  intro entry he
  obtain ⟨⟨k, found⟩, hf, heq⟩ := List.mem_filterMap.1 he
  dsimp only at heq
  split at heq
  · cases heq
    exact h _ hf
  · cases heq

/-- The responses that are used are among those that are expanded. -/
theorem allRespond_expand {P : α → Prop} {classified : List (StatusKind × String × α)}
    (h : ∀ entry ∈ classified, P entry.2.2) : AllRespond P (expand classified) := by
  have hown : AllRespond P (ownShares (ofKind .exact classified)) := by
    intro s hs
    obtain ⟨entry, he, rfl⟩ := List.mem_map.1 hs
    exact forall_ofKind h .exact entry he
  have hranges : AllRespond P ((ofKind .range classified).foldl addFamily
      (ownShares (ofKind .exact classified))) :=
    List.foldlRecOn (motive := AllRespond P) _ _ hown fun _ hs entry he =>
      hs.addFamily (forall_ofKind h .range entry he)
  exact List.foldlRecOn (motive := AllRespond P) _ _ hranges fun _ hs entry he =>
    hs.addShare _ (forall_ofKind h .default entry he)

end Contract

end RestContract
