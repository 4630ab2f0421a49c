import RestContract.Proofs.ExtractedOperations
import RestContract.Proofs.ResponseTable

/-!
# Spellings of codes

A key of a response is accepted if it is spelled as a code, a family or the default, but also if a
line break follows a code or a family. A code is then a key as it is spelled, with its line break. So
the table of responses can hold one code under two keys: the table is strictly ascending exactly if no
code is listed with a line break and taken a second time without one.
-/

namespace RestContract

/-! ## Accepted keys -/

namespace StatusKind

variable {kind : StatusKind} {key code : String} {text : List Char}

/-- The form of three characters. -/
def ofThree? (text : List Char) : Option StatusKind :=
  match text with
  | [a, b, c] =>
    if isFamily a && isWild b && isWild c then some .range
    else if isFamily a && b.isDigit && c.isDigit then some .exact
    else none
  | _ => none

theorem ofChars?_eq (text : List Char) : ofChars? text =
    if text = "default".toList then some .default else ofThree? (dropBreak text) := rfl

theorem ofThree?_eq_some_iff :
    ofThree? text = some kind ↔ kind ≠ .default ∧ Spelled kind (String.ofList text) := by
  constructor
  · intro h
    unfold ofThree? at h
    split at h
    · simp only [Bool.and_eq_true] at h
      split at h
      · next hr =>
        cases h
        exact ⟨by simp, .range hr.1.1 hr.1.2 hr.2⟩
      · split at h
        · next he =>
          cases h
          exact ⟨by simp, .exact he.1.1 he.1.2 he.2⟩
        · cases h
    · cases h
  · rintro ⟨hk, h⟩
    generalize hkey : String.ofList text = key at h
    cases h with
    | exact ha hb hc =>
      rw [String.ofList_inj.1 hkey]
      simp [ofThree?, ha, hb, hc, isWild_eq_false_of_isDigit hb]
    | range ha hb hc =>
      rw [String.ofList_inj.1 hkey]
      simp [ofThree?, ha, hb, hc]
    | default => exact absurd rfl hk

theorem getLast?_break (code : String) : (code ++ "\n").toList.getLast? = some '\n' := by
  simp

theorem dropBreak_break (code : String) : dropBreak (code ++ "\n").toList = code.toList := by
  rw [dropBreak, if_pos (getLast?_break code)]
  simp

/-- A key ends with a line break, or it has none to drop. -/
theorem break_cases (key : String) :
    (∃ code, key = code ++ "\n") ∨ dropBreak key.toList = key.toList := by
  by_cases hb : key.toList.getLast? = some '\n'
  · obtain ⟨front, hfront⟩ := List.getLast?_eq_some_iff.1 hb
    exact .inl ⟨String.ofList front, String.toList_inj.1 (by simp [hfront])⟩
  · exact .inr (if_neg hb)

/-- No spelling ends with a line break. -/
theorem Spelled.getLast?_ne (h : Spelled kind key) : key.toList.getLast? ≠ some '\n' := by
  cases h with
  | @exact a b c _ _ hc =>
    rintro heq
    have : c = '\n' := by simpa using heq
    subst this
    simp at hc
  | @range a b c _ _ hc =>
    rintro heq
    have : c = '\n' := by simpa using heq
    subst this
    simp [isWild] at hc
  | default => decide

/-- The keys that are accepted. -/
theorem ofKey?_eq_some_iff : ofKey? key = some kind ↔
    Spelled kind key ∨ kind ≠ .default ∧ ∃ code, Spelled kind code ∧ key = code ++ "\n" := by
  have hthree : key.toList ≠ "default".toList → (ofKey? key = some kind ↔
      kind ≠ .default ∧ Spelled kind (String.ofList (dropBreak key.toList))) := by
    intro hne
    rw [ofKey?, ofChars?_eq, if_neg hne, ofThree?_eq_some_iff]
  constructor
  · intro h
    by_cases hd : key.toList = "default".toList
    · rw [ofKey?, ofChars?_eq, if_pos hd] at h
      cases h
      rw [String.toList_inj.1 hd]
      exact .inl .default
    · obtain ⟨hk, hs⟩ := (hthree hd).1 h
      rcases break_cases key with ⟨code, rfl⟩ | hkey
      · rw [dropBreak_break, String.ofList_toList] at hs
        exact .inr ⟨hk, code, hs, rfl⟩
      · rw [hkey, String.ofList_toList] at hs
        exact .inl hs
  · rintro (h | ⟨hk, code, hc, rfl⟩)
    · exact ofKey?_of_spelled h
    · refine (hthree fun heq => ?_).2 ⟨hk, ?_⟩
      · have := congrArg List.getLast? heq
        rw [getLast?_break] at this
        exact absurd this (by decide)
      · rwa [dropBreak_break, String.ofList_toList]

end StatusKind

/-! ## Codes that are taken -/

namespace Contract

open Schema StatusKind

variable {α : Type} {all : List (String × α)} {classified : List (StatusKind × String × α)}
  {code : String}

theorem mem_keys_ofForm_iff {kind : StatusKind} : code ∈ (ofForm kind all).map Prod.fst ↔
    code ∈ all.map Prod.fst ∧ ofKey? code = some kind := by
  simp only [ofForm, List.mem_map, List.mem_filter, beq_iff_eq]
  constructor
  · rintro ⟨entry, ⟨hm, hk⟩, rfl⟩
    exact ⟨⟨entry, hm, rfl⟩, hk⟩
  · rintro ⟨⟨entry, hm, rfl⟩, hk⟩
    exact ⟨entry, ⟨hm, hk⟩, rfl⟩

/-- Whether a response that is no code stands for a code. -/
def Covers (keys : List String) (code : String) : Prop :=
  "default" ∈ keys ∨ ∃ key ∈ keys, ofKey? key = some .range ∧ sameFamily key code = true

theorem isSome_firstOf_iff : (firstOf (ofForm .range all) code).isSome = true ↔
    ∃ key ∈ all.map Prod.fst, ofKey? key = some .range ∧ sameFamily key code = true := by
  rw [firstOf, List.find?_isSome]
  constructor
  · rintro ⟨entry, hm, hf⟩
    obtain ⟨hk, hform⟩ := mem_keys_ofForm_iff.1 (List.mem_map_of_mem (f := Prod.fst) hm)
    exact ⟨entry.1, hk, hform, hf⟩
  · rintro ⟨key, hk, hform, hf⟩
    obtain ⟨entry, hm, rfl⟩ := List.mem_map.1 (mem_keys_ofForm_iff.2 ⟨hk, hform⟩)
    exact ⟨entry, hm, hf⟩

/-- What is taken when the default has been expanded. -/
theorem taken_addDefaults (hn : (all.map Prod.fst).Nodup) (shares : List (Share α)) :
    taken ((ofForm .default all).foldl addDefault shares) =
      taken shares ++ if "default" ∈ all.map Prod.fst then freeCodes shares else [] := by
  have hdefault : "default" ∈ all.map Prod.fst ↔ "default" ∈ (ofForm .default all).map Prod.fst := by
    rw [mem_keys_ofForm_iff]
    exact (and_iff_left rfl).symm
  rcases ofForm_default hn with hd | ⟨response, hd⟩
  · rw [if_neg (by simp [hdefault, hd]), hd, List.append_nil, List.foldl_nil]
  · rw [if_pos (by simp [hdefault, hd]), hd]
    exact taken_addShare

/-- The codes that are taken: those that are listed, and those that can be taken and are covered. -/
theorem mem_taken_expand_iff (hn : (all.map Prod.fst).Nodup)
    (hc : List.Forall₂ HasForm all classified) :
    code ∈ taken (expand classified) ↔ code ∈ (ofForm .exact all).map Prod.fst ∨
      Admits ((ofForm .exact all).map Prod.fst) code ∧ Covers (all.map Prod.fst) code := by
  have hranges := expands_ranges hn
  rw [expand_eq hc, taken_addDefaults hn, List.mem_append, hranges.mem_taken, taken_ownShares, Covers,
    ← isSome_firstOf_iff]
  split
  · next hd =>
    rw [hranges.mem_freeCodes, taken_ownShares, ← Option.not_isSome_iff_eq_none]
    tauto
  · next hd => simp [hd]

theorem nodup_taken_expand (hn : (all.map Prod.fst).Nodup)
    (hc : List.Forall₂ HasForm all classified) : (taken (expand classified)).Nodup := by
  have hranges := (expands_ranges hn).nodup
  rw [expand_eq hc, taken_addDefaults hn]
  split
  · rw [List.nodup_append']
    exact ⟨hranges, nodup_freeCodes _, fun code ht hm => (mem_freeCodes_iff.1 hm).2.1 ht⟩
  · rwa [List.append_nil]

/-! ## Codes that are taken twice -/

/-- A code is listed with a line break, and taken without one: it is listed as well, or it is a usual
    code other than one of success that is covered. -/
structure Doubled (keys : List String) (code : String) : Prop where
  spelled : Spelled .exact code
  broken : code ++ "\n" ∈ keys
  again : code ∈ keys ∨ code ∈ usualCodes ∧ isSuccess code = false ∧ Covers keys code

theorem codeNumber_break (code : String) : codeNumber (code ++ "\n") = codeNumber code := by
  simp [codeNumber]

theorem isSuccess_break (h : Spelled .exact code) : isSuccess (code ++ "\n") = isSuccess code := by
  cases h
  simp [isSuccess, isOfFamily]

theorem not_spelled_break {kind : StatusKind} : ¬ Spelled kind (code ++ "\n") :=
  fun h => h.getLast?_ne (getLast?_break code)

/-- A code that is taken is spelled as one, or it is listed with a line break. -/
theorem spelled_of_mem_taken (hn : (all.map Prod.fst).Nodup)
    (hc : List.Forall₂ HasForm all classified) {key : String} (h : key ∈ taken (expand classified)) :
    Spelled .exact key ∨ ∃ code, Spelled .exact code ∧ key = code ++ "\n" ∧
      key ∈ all.map Prod.fst := by
  rcases (mem_taken_expand_iff hn hc).1 h with h | ⟨ha, _⟩
  · obtain ⟨hm, hk⟩ := mem_keys_ofForm_iff.1 h
    rcases ofKey?_eq_some_iff.1 hk with hs | ⟨_, code, hs, heq⟩
    · exact .inl hs
    · exact .inr ⟨code, hs, heq, hm⟩
  · exact .inl (spelled_of_usual ha.usual)

/-- A line break behind a code that is taken is one of a listed key. -/
theorem break_mem_taken_iff (hn : (all.map Prod.fst).Nodup)
    (hc : List.Forall₂ HasForm all classified) (hs : Spelled .exact code) :
    code ++ "\n" ∈ taken (expand classified) ↔ code ++ "\n" ∈ all.map Prod.fst := by
  rw [mem_taken_expand_iff hn hc, mem_keys_ofForm_iff]
  constructor
  · rintro (⟨hm, _⟩ | ⟨ha, _⟩)
    · exact hm
    · exact absurd (spelled_of_usual ha.usual) not_spelled_break
  · exact fun hm => .inl ⟨hm, ofKey?_eq_some_iff.2 (.inr ⟨by simp, code, hs, rfl⟩)⟩

theorem doubled_iff (hn : (all.map Prod.fst).Nodup) (hc : List.Forall₂ HasForm all classified) :
    Doubled (all.map Prod.fst) code ↔ Spelled .exact code ∧
      code ∈ taken (expand classified) ∧ code ++ "\n" ∈ taken (expand classified) := by
  constructor
  · rintro ⟨hs, hb, hagain⟩
    refine ⟨hs, (mem_taken_expand_iff hn hc).2 ?_, (break_mem_taken_iff hn hc hs).2 hb⟩
    by_cases hm : code ∈ all.map Prod.fst
    · exact .inl (mem_keys_ofForm_iff.2 ⟨hm, ofKey?_of_spelled hs⟩)
    · obtain ⟨hu, hsuccess, hcovers⟩ := hagain.resolve_left hm
      refine .inr ⟨⟨hu, fun h => hm (mem_keys_ofForm_iff.1 h).1, fun h => ?_⟩, hcovers⟩
      rw [hsuccess] at h
      cases h
  · rintro ⟨hs, ht, hb⟩
    have hbroken := (break_mem_taken_iff hn hc hs).1 hb
    refine ⟨hs, hbroken, ?_⟩
    rcases (mem_taken_expand_iff hn hc).1 ht with h | ⟨ha, hcovers⟩
    · exact .inl (mem_keys_ofForm_iff.1 h).1
    · refine .inr ⟨ha.usual, ?_, hcovers⟩
      -- A code of success is not taken as a usual code where it is listed with its line break.
      by_contra hsuccess
      have hnone := ha.success (Bool.not_eq_false _ ▸ hsuccess)
      rw [List.any_eq_false] at hnone
      have hlisted : code ++ "\n" ∈ (ofForm .exact all).map Prod.fst :=
        mem_keys_ofForm_iff.2 ⟨hbroken, ofKey?_eq_some_iff.2 (.inr ⟨by simp, code, hs, rfl⟩)⟩
      exact hnone _ hlisted (by rw [isSuccess_break hs]; exact Bool.not_eq_false _ ▸ hsuccess)

/-! ## The table of responses -/

/-- Keys with one number are spelled in the same way, but for the line break of one of them. -/
theorem eq_or_break_of_codeNumber_eq {key other : String} (h : ofKey? key = some .exact)
    (ho : ofKey? other = some .exact) (heq : codeNumber key = codeNumber other) :
    key = other ∨ Spelled .exact key ∧ other = key ++ "\n" ∨
      Spelled .exact other ∧ key = other ++ "\n" := by
  rcases ofKey?_eq_some_iff.1 h with hs | ⟨_, code, hs, rfl⟩ <;>
    rcases ofKey?_eq_some_iff.1 ho with ht | ⟨_, second, ht, rfl⟩
  · exact .inl (eq_of_codeNumber_eq hs ht heq)
  · rw [codeNumber_break] at heq
    exact .inr (.inl ⟨hs, by rw [eq_of_codeNumber_eq hs ht heq]⟩)
  · rw [codeNumber_break] at heq
    exact .inr (.inr ⟨ht, by rw [eq_of_codeNumber_eq hs ht heq]⟩)
  · rw [codeNumber_break, codeNumber_break] at heq
    exact .inl (by rw [eq_of_codeNumber_eq hs ht heq])

/-- A sorted table whose keys are distinct is strictly ascending unless a code stands beside itself
    with a line break. -/
theorem ascending_iff_of_nodup {β : Type} {table : List (String × β)}
    (hk : ∀ key ∈ table.map Prod.fst, ofKey? key = some .exact) (hn : (table.map Prod.fst).Nodup)
    (hle : table.Pairwise fun a b => codeNumber a.1 ≤ codeNumber b.1) :
    Ascending table ↔ ∀ code, Spelled .exact code → code ∈ table.map Prod.fst →
      code ++ "\n" ∉ table.map Prod.fst := by
  constructor
  · intro h code hs hm hb
    have hsymm : Std.Symm fun a b : String => codeNumber a ≠ codeNumber b :=
      ⟨fun _ _ hab => hab.symm⟩
    have hnumbers : (table.map Prod.fst).Pairwise fun a b => codeNumber a ≠ codeNumber b :=
      List.pairwise_map.2 (h.imp fun hab => Nat.ne_of_lt hab)
    have hne : code ≠ code ++ "\n" := fun heq => not_spelled_break (heq ▸ hs)
    exact hnumbers.forall hm hb hne (codeNumber_break code).symm
  · intro h
    have hdistinct : table.Pairwise fun a b => a.1 ≠ b.1 := List.pairwise_map.1 hn
    refine (hle.and hdistinct).imp_of_mem fun {a b} ha hb hab => ?_
    have ha := List.mem_map_of_mem (f := Prod.fst) ha
    have hb := List.mem_map_of_mem (f := Prod.fst) hb
    refine Nat.lt_of_le_of_ne hab.1 fun heq => ?_
    rcases eq_or_break_of_codeNumber_eq (hk _ ha) (hk _ hb) heq with hsame | ⟨hs, hbreak⟩ | ⟨hs, hbreak⟩
    · exact hab.2 hsame
    · exact h _ hs ha (hbreak ▸ hb)
    · exact h _ hs hb (hbreak ▸ ha)

section

variable {scope : Scope} {operation : Operation} {table : List (String × Expr)}

/-- The keys of a table are the codes that are taken. -/
theorem exists_taken_of_responses (h : (responses scope operation).result = .ok table) :
    ∃ classified, List.Forall₂ HasForm operation.responses classified ∧
      (table.map Prod.fst).Perm (taken (expand classified)) ∧
      table.Pairwise fun a b => codeNumber a.1 ≤ codeNumber b.1 := by
  obtain ⟨classified, hc, _⟩ := Traced.exists_of_result_bind h
  obtain ⟨rows, hrows, rfl⟩ := (result_responses_eq_ok_iff hc).1 h
  refine ⟨classified, (mapM_eq_ok_iff.1 hc).imp fun _ _ => classify_eq_ok_iff.1, ?_,
    pairwise_sortByCode _⟩
  rw [← codes_rows hrows]
  exact (List.mergeSort_perm _ _).map Prod.fst

/-- The keys of the responses of an extracted operation are the accepted ones: a line break may follow
    a code or a family. So a key of its table is spelled as a code, or it is listed as one with a line
    break; the table is sorted by the numbers of its keys, which are distinct, and it is strictly
    ascending exactly if no code is doubled. -/
theorem ascending_responses_iff {document components : Value} {operations : List Operation}
    (h : (Operation.ofDocument document components).result = .ok operations)
    (hm : operation ∈ operations) (ht : (responses scope operation).result = .ok table) :
    (∀ kind key, ofKey? key = some kind ↔
      Spelled kind key ∨ kind ≠ .default ∧ ∃ code, Spelled kind code ∧ key = code ++ "\n") ∧
    (∀ key ∈ table.map Prod.fst, Spelled .exact key ∨ ∃ code, Spelled .exact code ∧
      key = code ++ "\n" ∧ key ∈ operation.responses.map Prod.fst) ∧
    ((∀ key ∈ table.map Prod.fst, Spelled .exact key) ↔
      ∀ code, Spelled .exact code → code ++ "\n" ∉ operation.responses.map Prod.fst) ∧
    (table.map Prod.fst).Nodup ∧
    (table.Pairwise fun a b => codeNumber a.1 ≤ codeNumber b.1) ∧
    (Ascending table ↔ ∀ code, ¬ Doubled (operation.responses.map Prod.fst) code) := by
  have hn := (Keyed.of_mem_ofDocument h hm).nodup
  obtain ⟨classified, hc, hperm, hle⟩ := exists_taken_of_responses ht
  have hkeys : ∀ key ∈ table.map Prod.fst, Spelled .exact key ∨ ∃ code, Spelled .exact code ∧
      key = code ++ "\n" ∧ key ∈ operation.responses.map Prod.fst :=
    fun key hk => spelled_of_mem_taken hn hc (hperm.mem_iff.1 hk)
  have haccepted : ∀ key ∈ table.map Prod.fst, ofKey? key = some .exact := by
    intro key hk
    refine ofKey?_eq_some_iff.2 ((hkeys key hk).imp_right ?_)
    rintro ⟨code, hs, heq, _⟩
    exact ⟨by simp, code, hs, heq⟩
  have hnodup : (table.map Prod.fst).Nodup := hperm.nodup_iff.2 (nodup_taken_expand hn hc)
  refine ⟨fun _ _ => ofKey?_eq_some_iff, hkeys, ?_, hnodup, hle, ?_⟩
  · constructor
    · intro hall code hs hb
      have hlisted := hperm.mem_iff.2 ((break_mem_taken_iff hn hc hs).2 hb)
      exact not_spelled_break (hall _ hlisted)
    · intro hnone key hk
      refine (hkeys key hk).resolve_right ?_
      rintro ⟨code, hs, rfl, hlisted⟩
      exact hnone code hs hlisted
  · rw [ascending_iff_of_nodup haccepted hnodup hle]
    simp only [doubled_iff hn hc, hperm.mem_iff, not_and]

end

/-! ## A code under two keys -/

/-- A document whose only operation lists a code with and without a line break. -/
def repeatingFields : Fields :=
  textFields [("responses", .object [("200", .object []), ("200\n", .object [])])]

def repeatingItem : Fields := textFields [("get", .ofFields repeatingFields)]

def repeatingDocument : Value := .object [("paths", .object [("/a", .ofFields repeatingItem)])]

def repeatingOperation : Operation where
  method := .get
  path := "/a"
  operationId := none
  summary := none
  description := none
  parameters := []
  requestBody := none
  responses := [("200", []), ("200\n", [])]

def repeatingContext : Context := ⟨repeatingDocument, .bare, [repeatingOperation]⟩

def repeatingTable : List (String × Expr) := [("200", nothing), ("200\n", nothing)]

theorem ofDocument_repeating :
    (Operation.ofDocument repeatingDocument (.object [])).result = .ok [repeatingOperation] := by
  have hfield : (Operation.ofField (.object []) (.text "/a") repeatingItem
      (.text "get", .ofFields repeatingFields)).result = .ok (some repeatingOperation) :=
    Operation.result_ofField (by decide +kernel) (by decide +kernel) rfl rfl
  have hitem : (repeatingItem.mapM (Operation.ofField (.object []) (.text "/a") repeatingItem)).result =
      .ok [some repeatingOperation] :=
    Traced.result_mapM_eq_ok_iff.2 (.cons hfield .nil)
  have hpaths : ((textFields [("/a", .ofFields repeatingItem)]).mapM
      (Operation.ofPath (.object []))).result = .ok [[repeatingOperation]] :=
    Traced.result_mapM_eq_ok_iff.2 (.cons (Operation.result_ofPath rfl rfl hitem) .nil)
  exact Operation.result_ofDocument rfl rfl hpaths

theorem responses_repeating :
    (responses repeatingContext.scope repeatingOperation).result = .ok repeatingTable := by
  have hclassified : repeatingOperation.responses.mapM (classify repeatingOperation) =
      .ok [(.exact, "200", []), (.exact, "200\n", [])] := rfl
  have hrows : ((expand [(.exact, "200", []), (.exact, "200\n", [])]).mapM
      (share repeatingContext.scope)).result = .ok [[("200", nothing)], [("200\n", nothing)]] := rfl
  refine (result_responses_eq_ok_iff hclassified).2 ⟨_, Traced.result_mapM_eq_ok_iff.1 hrows, ?_⟩
  have hsorted : repeatingTable.Pairwise fun a b =>
      decide (codeNumber a.1 ≤ codeNumber b.1) = true := by decide
  exact (List.mergeSort_of_pairwise hsorted).symm

theorem ascending_responses_iff_repeating :
    (Operation.ofDocument repeatingDocument (.object [])).result = .ok [repeatingOperation] ∧
      (responses repeatingContext.scope repeatingOperation).result = .ok repeatingTable ∧
      (Ascending repeatingTable ↔ ∀ code, ¬ Doubled ["200", "200\n"] code) := by
  refine ⟨ofDocument_repeating, responses_repeating, ?_⟩
  obtain ⟨_, _, _, _, _, hascending⟩ :=
    ascending_responses_iff ofDocument_repeating List.mem_cons_self responses_repeating
  exact hascending

/-- The table of an operation of a document can have a key that is no code, and hold a code twice. -/
theorem exists_repeated_code :
    ∃ document context operation table, (Context.ofDocument document).result = .ok context ∧
      operation ∈ context.operations ∧ (responses context.scope operation).result = .ok table ∧
      ¬ (∀ key ∈ table.map Prod.fst, Spelled .exact key) ∧ ¬ Ascending table := by
  refine ⟨repeatingDocument, repeatingContext, repeatingOperation, repeatingTable, ?_,
    List.mem_cons_self, responses_repeating, fun h => ?_, ?_⟩
  · have hgraph : dependencies repeatingDocument (.object []) = .ok [] := rfl
    have hdeclared : [].mapM (Declaration.ofRef (.object [])) = .ok [] := rfl
    exact Context.result_ofDocument rfl hgraph rfl hdeclared ofDocument_repeating
  · exact (h "200\n" (by decide)).getLast?_ne (by decide)
  · unfold Ascending
    decide

end Contract

end RestContract
