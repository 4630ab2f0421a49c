import Mathlib.Data.List.Sort
import RestContract.Contract.Assembly
import RestContract.Operation.Extraction
import RestContract.Proofs.CodeExpansion
import RestContract.Proofs.ExtractionRuns
import RestContract.Proofs.Runs

/-!
# The table of responses

The responses of an operation are written as a table of codes. The table is told by what each code
stands for and by the order of the codes, so neither the order in which the expansion takes the codes
nor, for the most part, that of the responses can be seen in it.
-/

namespace RestContract

namespace Contract

variable {α : Type}

/-! ## Ascending codes -/

theorem codeNumber_ofList {a b c : Char} (ha : a.isDigit = true) (hb : b.isDigit = true)
    (hc : c.isDigit = true) :
    codeNumber (String.ofList [a, b, c]) =
      (a.toNat - '0'.toNat) * 100 + (b.toNat - '0'.toNat) * 10 + (c.toNat - '0'.toNat) := by
  simp only [codeNumber, String.toList_ofList, List.filter_cons, ha, hb, hc, if_true,
    List.filter_nil, List.foldl_cons, List.foldl_nil]
  omega

/-- Codes are told apart by their numbers. -/
theorem eq_of_codeNumber_eq {code other : String} (h : StatusKind.Spelled .exact code)
    (ho : StatusKind.Spelled .exact other) (heq : codeNumber code = codeNumber other) :
    code = other := by
  cases h with
  | @exact a b c ha hb hc =>
    cases ho with
    | @exact x y z hx hy hz =>
      have ha := StatusKind.isDigit_of_isFamily ha
      have hx := StatusKind.isDigit_of_isFamily hx
      rw [codeNumber_ofList ha hb hc, codeNumber_ofList hx hy hz] at heq
      rw [Char.isDigit_iff_toNat] at ha hb hc hx hy hz
      have hzero : '0'.toNat = 48 := rfl
      have hnine : '9'.toNat = 57 := rfl
      have hax : a = x := Char.toNat_inj.1 (by omega)
      have hby : b = y := Char.toNat_inj.1 (by omega)
      have hcz : c = z := Char.toNat_inj.1 (by omega)
      rw [hax, hby, hcz]

/-- The codes of a table are in ascending order. -/
def Ascending {β : Type} (table : List (String × β)) : Prop :=
  table.Pairwise fun a b => codeNumber a.1 < codeNumber b.1

theorem pairwise_sortByCode {β : Type} (rows : List (String × β)) :
    (sortByCode rows).Pairwise fun a b => codeNumber a.1 ≤ codeNumber b.1 := by
  have hle := List.pairwise_mergeSort
    (fun (a b c : String × β) (hab : decide (codeNumber a.1 ≤ codeNumber b.1) = true)
      (hbc : decide (codeNumber b.1 ≤ codeNumber c.1) = true) => by
        rw [decide_eq_true_eq] at hab hbc ⊢
        exact Nat.le_trans hab hbc)
    (fun a b => by
      simp only [Bool.or_eq_true, decide_eq_true_eq]
      exact Nat.le_total _ _) rows
  simpa [sortByCode] using hle

theorem ascending_sortByCode {β : Type} {rows : List (String × β)}
    (hs : ∀ row ∈ rows, StatusKind.Spelled .exact row.1) (hn : (rows.map Prod.fst).Nodup) :
    Ascending (sortByCode rows) := by
  have hperm : (sortByCode rows).Perm rows := List.mergeSort_perm _ _
  have hsorted := pairwise_sortByCode rows
  have hdistinct : (sortByCode rows).Pairwise fun a b => a.1 ≠ b.1 := by
    rw [← List.pairwise_map (f := Prod.fst)]
    exact (hperm.map Prod.fst).nodup_iff.2 hn
  refine (hsorted.and hdistinct).imp_of_mem fun {a b} ha hb hab => ?_
  refine Nat.lt_of_le_of_ne hab.1 fun heq => hab.2 ?_
  exact eq_of_codeNumber_eq (hs a (hperm.mem_iff.1 ha)) (hs b (hperm.mem_iff.1 hb)) heq

/-- Ascending tables with the same rows are the same. -/
theorem Ascending.eq_of_mem_iff {β : Type} {table other : List (String × β)} (h : Ascending table)
    (ho : Ascending other) (hm : ∀ row, row ∈ table ↔ row ∈ other) : table = other := by
  have hirrefl : Std.Irrefl fun a b : String × β => codeNumber a.1 < codeNumber b.1 :=
    ⟨fun _ => Nat.lt_irrefl _⟩
  have hantisymm : Std.Antisymm fun a b : String × β => codeNumber a.1 < codeNumber b.1 :=
    ⟨fun _ _ hab hba => absurd hab (Nat.lt_asymm hba)⟩
  exact List.Pairwise.eq_of_mem_iff h ho hm

/-! ## Keys of an extracted operation -/

/-- No key stands twice, and each has a form. -/
structure Keyed (responses : List (String × α)) : Prop where
  nodup : (responses.map Prod.fst).Nodup
  form : ∀ key ∈ responses.map Prod.fst, StatusKind.ofKey? key ≠ none

theorem keys_putNamed (named : List (String × Value)) (name : String) (value : Value) :
    (Operation.putNamed named name value).map Prod.fst =
      if name ∈ named.map Prod.fst then named.map Prod.fst else named.map Prod.fst ++ [name] := by
  induction named with
  | nil => rfl
  | cons entry rest ih =>
    obtain ⟨first, old⟩ := entry
    rw [Operation.putNamed]
    by_cases heq : first = name
    · simp [heq]
    · have hne : name ≠ first := Ne.symm heq
      rw [if_neg heq, List.map_cons, ih]
      by_cases hm : name ∈ rest.map Prod.fst <;> simp [hm, hne]

theorem Keyed.putNamed {named : List (String × Value)} (h : Keyed named) {name : String}
    (hn : StatusKind.ofKey? name ≠ none) (value : Value) :
    Keyed (Operation.putNamed named name value) := by
  constructor
  · rw [keys_putNamed]
    split
    · exact h.nodup
    · next hm => simpa using h.nodup.concat hm
  · intro key hk
    rw [keys_putNamed] at hk
    split at hk
    · exact h.form key hk
    · rw [List.mem_append, List.mem_singleton] at hk
      rcases hk with hk | rfl
      · exact h.form key hk
      · exact hn

theorem Keyed.of_foldlM {components : Value} {method : String} {path : Scalar}
    {fields : List (Scalar × Value)} {before after : List (String × Value)}
    (h : fields.foldlM (fun responses (key, response) => do
      let code ← key.shown
      let _ ← Operation.statusOf method path code
      return Operation.putNamed responses code
        (← Components.resolveValue components response)) before = .ok after)
    (hb : Keyed before) : Keyed after := by
  refine RestContract.of_foldlM (fun field _ responses next hkeyed hstep => ?_) hb h
  obtain ⟨code, _, hstep⟩ := exists_of_bind_eq_ok hstep
  obtain ⟨kind, hkind, hstep⟩ := exists_of_bind_eq_ok hstep
  obtain ⟨response, _, hstep⟩ := exists_of_bind_eq_ok hstep
  cases hstep
  refine hkeyed.putNamed ?_ response
  intro hnone
  rw [Operation.statusOf, hnone] at hkind
  obtain ⟨_, _, hkind⟩ := exists_of_bind_eq_ok hkind
  cases hkind

theorem Keyed.of_extract {components : Value} {path : Scalar} {item fields : Fields}
    {method : Method} {operation : Operation}
    (h : Operation.extract components path item method fields = .ok operation) :
    Keyed operation.responses := by
  obtain ⟨parameters, _, h⟩ := exists_of_bind_eq_ok h
  obtain ⟨requestBody, _, h⟩ := exists_of_bind_eq_ok h
  obtain ⟨drafted, hdrafted, h⟩ := exists_of_bind_eq_ok h
  obtain ⟨source, _, hfold⟩ := exists_of_bind_eq_ok hdrafted
  have hkeyed : Keyed drafted := .of_foldlM hfold ⟨List.nodup_nil, by simp⟩
  unfold Operation.ofDraft at h
  obtain ⟨_, _, h⟩ := exists_of_bind_eq_ok h
  obtain ⟨_, _, h⟩ := exists_of_bind_eq_ok h
  obtain ⟨_, _, h⟩ := exists_of_bind_eq_ok h
  obtain ⟨_, _, h⟩ := exists_of_bind_eq_ok h
  obtain ⟨_, _, h⟩ := exists_of_bind_eq_ok h
  obtain ⟨_, _, h⟩ := exists_of_bind_eq_ok h
  obtain ⟨checked, hchecked, h⟩ := exists_of_bind_eq_ok h
  cases h
  have hkeys : drafted.map Prod.fst = checked.map Prod.fst := by
    rw [← List.forall₂_eq_eq_eq, List.forall₂_map_left_iff, List.forall₂_map_right_iff]
    refine (mapM_eq_ok_iff.1 hchecked).imp fun response found hfound => ?_
    obtain ⟨fields, _, hfound⟩ := exists_of_bind_eq_ok hfound
    cases hfound
    rfl
  exact ⟨hkeys ▸ hkeyed.nodup, hkeys ▸ hkeyed.form⟩

theorem Keyed.of_mem_ofDocument {document components : Value} {operations : List Operation}
    (h : (Operation.ofDocument document components).result = .ok operations)
    {operation : Operation} (hm : operation ∈ operations) : Keyed operation.responses := by
  obtain ⟨_, _, _, _, hextract⟩ := Operation.exists_extract_of_mem h hm
  exact .of_extract hextract

/-! ## Responses of an operation -/

theorem classify_eq_ok_iff {operation : Operation} {entry : String × Fields}
    {found : StatusKind × String × Fields} :
    classify operation entry = .ok found ↔ HasForm entry found := by
  unfold classify Operation.statusOf HasForm
  constructor
  · intro h
    obtain ⟨kind, hk, h⟩ := exists_of_bind_eq_ok h
    cases h
    refine ⟨?_, rfl⟩
    split at hk
    · next hkey => rw [hkey, ← Except.ok.inj hk]
    · obtain ⟨_, _, hk⟩ := exists_of_bind_eq_ok hk
      cases hk
  · rintro ⟨hk, rfl⟩
    rw [hk]
    rfl

/-- The expansion uses the responses under keys that have one of the forms. -/
theorem exists_classified {operation : Operation} (h : Listed operation.responses) :
    ∃ classified, operation.responses.mapM (classify operation) = .ok classified ∧
      List.Forall₂ HasForm operation.responses classified := by
  have hform : ∀ entry ∈ operation.responses, ∃ found, HasForm entry found := by
    intro entry he
    obtain ⟨kind, hk⟩ := h.spelled entry he
    exact ⟨(kind, entry), StatusKind.ofKey?_of_spelled hk, rfl⟩
  obtain ⟨classified, hc⟩ := exists_forall₂ hform
  exact ⟨classified, mapM_eq_ok_iff.2 (hc.imp fun _ _ => classify_eq_ok_iff.2), hc⟩

section

variable {scope : Schema.Scope}

theorem result_share_eq_ok_iff {s : Share Fields} {row : List (String × Expr)} :
    (share scope s).result = .ok row ↔
      ∃ e, (response scope s.response).result = .ok e ∧ row = s.codes.map (·, e) := by
  unfold share
  constructor
  · intro h
    obtain ⟨e, he, h⟩ := Traced.exists_of_result_bind h
    exact ⟨e, he, (Except.ok.inj h).symm⟩
  · rintro ⟨e, he, rfl⟩
    rw [Traced.result_bind, he]
    rfl

variable {shares : List (Share Fields)} {rows : List (List (String × Expr))}

/-- The rows of some shares have the codes of the shares, each with the validator of its
    response. -/
theorem mem_rows_iff (h : List.Forall₂ (fun s row => (share scope s).result = .ok row) shares rows)
    (code : String) (e : Expr) :
    (code, e) ∈ rows.flatten ↔
      ∃ r, Holds shares code r ∧ (response scope r).result = .ok e := by
  induction h with
  | nil => simp [Holds]
  | @cons s row rest others hrow _ ih =>
    obtain ⟨own, hown, rfl⟩ := result_share_eq_ok_iff.1 hrow
    rw [List.flatten_cons, List.mem_append, ih]
    constructor
    · rintro (hm | ⟨r, ⟨t, ht, hc, hr⟩, he⟩)
      · obtain ⟨_, hc, heq⟩ := List.mem_map.1 hm
        cases heq
        exact ⟨s.response, ⟨s, List.mem_cons_self, hc, rfl⟩, hown⟩
      · exact ⟨r, ⟨t, List.mem_cons_of_mem _ ht, hc, hr⟩, he⟩
    · rintro ⟨r, ⟨t, ht, hc, rfl⟩, he⟩
      rcases List.mem_cons.1 ht with rfl | ht
      · rw [hown, Except.ok.injEq] at he
        exact .inl (List.mem_map.2 ⟨code, hc, by rw [he]⟩)
      · exact .inr ⟨t.response, ⟨t, ht, hc, rfl⟩, he⟩

theorem codes_rows
    (h : List.Forall₂ (fun s row => (share scope s).result = .ok row) shares rows) :
    rows.flatten.map Prod.fst = taken shares := by
  induction h with
  | nil => rfl
  | @cons s row rest others hrow _ ih =>
    obtain ⟨e, _, rfl⟩ := result_share_eq_ok_iff.1 hrow
    have hcodes : (s.codes.map (·, e)).map Prod.fst = s.codes := by
      rw [List.map_map]
      exact List.map_id _
    rw [List.flatten_cons, List.map_append, ih, hcodes]
    rfl

variable {operation : Operation} {table : List (String × Expr)}

theorem result_responses_eq_ok_iff {classified : List (StatusKind × String × Fields)}
    (hc : operation.responses.mapM (classify operation) = .ok classified) :
    (responses scope operation).result = .ok table ↔
      ∃ rows, List.Forall₂ (fun s row => (share scope s).result = .ok row) (expand classified)
        rows ∧ table = sortByCode rows.flatten := by
  unfold responses
  rw [hc, Traced.result_bind, Traced.result_liftM, ok_bind]
  constructor
  · intro h
    obtain ⟨rows, hrows, h⟩ := Traced.exists_of_result_bind h
    exact ⟨rows, Traced.result_mapM_eq_ok_iff.1 hrows, (Except.ok.inj h).symm⟩
  · rintro ⟨rows, hrows, rfl⟩
    rw [Traced.result_bind, Traced.result_mapM_eq_ok_iff.2 hrows]
    rfl

/-- The responses of an operation can be written exactly if those that a code stands for can, and
    then their table holds in ascending order each code with what it stands for. -/
structure Tabulates (scope : Schema.Scope) (all : List (String × Fields))
    (table : List (String × Expr)) : Prop where
  ascending : Ascending table
  mem_iff : ∀ code e, (code, e) ∈ table ↔
    ∃ r, Gives all code r ∧ (response scope r).result = .ok e
  written : ∀ code r, Gives all code r → ∃ e, (response scope r).result = .ok e

/-- A table is told by what it holds. -/
theorem Tabulates.unique {all : List (String × Fields)} {other : List (String × Expr)}
    (h : Tabulates scope all table) (ho : Tabulates scope all other) : table = other := by
  refine h.ascending.eq_of_mem_iff ho.ascending ?_
  rintro ⟨code, e⟩
  rw [h.mem_iff, ho.mem_iff]

theorem Tabulates.of_result (hl : Listed operation.responses)
    (h : (responses scope operation).result = .ok table) :
    Tabulates scope operation.responses table := by
  obtain ⟨classified, hmap, hc⟩ := exists_classified hl
  obtain ⟨rows, hrows, rfl⟩ := (result_responses_eq_ok_iff hmap).1 h
  obtain ⟨hholds, hnodup⟩ := holds_expand hl hc
  have hrow : ∀ code e, (code, e) ∈ rows.flatten ↔
      ∃ r, Gives operation.responses code r ∧ (response scope r).result = .ok e := by
    intro code e
    simp only [mem_rows_iff hrows, hholds]
  constructor
  · apply ascending_sortByCode
    · rintro ⟨code, e⟩ hm
      obtain ⟨r, hg, _⟩ := (hrow code e).1 hm
      exact hg.spelled
    · rw [codes_rows hrows]
      exact hnodup
  · intro code e
    rw [← hrow]
    exact (List.mergeSort_perm _ _).mem_iff
  · intro code r hg
    obtain ⟨s, hs, _, rfl⟩ := (hholds code r).2 hg
    obtain ⟨row, _, hshare⟩ := exists_of_mem_forall₂ hrows.flip hs
    obtain ⟨e, he, _⟩ := result_share_eq_ok_iff.1 hshare
    exact ⟨e, he⟩

/-- Responses that make a table are written. -/
theorem Tabulates.result (hl : Listed operation.responses)
    (h : Tabulates scope operation.responses table) :
    (responses scope operation).result = .ok table := by
  obtain ⟨classified, hmap, hc⟩ := exists_classified hl
  have hrows : ∀ s ∈ expand classified, ∃ row, (share scope s).result = .ok row := by
    intro s hs
    obtain ⟨code, hcode⟩ := List.exists_mem_of_ne_nil _ (inUse_expand classified s hs)
    have hg := ((holds_expand hl hc).1 code s.response).1 ⟨s, hs, hcode, rfl⟩
    obtain ⟨e, he⟩ := h.written code s.response hg
    exact ⟨_, result_share_eq_ok_iff.2 ⟨e, he, rfl⟩⟩
  obtain ⟨rows, hrows⟩ := exists_forall₂ hrows
  have hresult := (result_responses_eq_ok_iff hmap).2 ⟨rows, hrows, rfl⟩
  rw [hresult, h.unique (.of_result hl hresult)]

/-- The table of responses of an operation is ascending and holds each code that stands for a
    response, with the validator of that response. Where no two families share their digit, the
    order of the responses does not matter. -/
theorem responses_expanded (hl : Listed operation.responses)
    (h : (responses scope operation).result = .ok table) :
    Ascending table ∧
      (∀ code e, (code, e) ∈ table ↔
        ∃ r, Gives operation.responses code r ∧ (response scope r).result = .ok e) ∧
      (∀ code, code ∈ table.map Prod.fst ↔ ∃ r, Gives operation.responses code r) ∧
      ((∀ entry ∈ operation.responses, ∀ other ∈ operation.responses,
          StatusKind.Spelled .range entry.1 → StatusKind.Spelled .range other.1 →
          sameFamily entry.1 other.1 = true → entry.1 = other.1) →
        ∀ reordered, reordered.Perm operation.responses →
          (responses scope { operation with responses := reordered }).result = .ok table) := by
  have ht := Tabulates.of_result hl h
  refine ⟨ht.ascending, ht.mem_iff, fun code => ?_, fun hd reordered hp => ?_⟩
  · constructor
    · intro hm
      obtain ⟨⟨_, e⟩, hrow, rfl⟩ := List.mem_map.1 hm
      obtain ⟨r, hg, _⟩ := (ht.mem_iff _ e).1 hrow
      exact ⟨r, hg⟩
    · rintro ⟨r, hg⟩
      obtain ⟨e, he⟩ := ht.written code r hg
      exact List.mem_map.2 ⟨(code, e), (ht.mem_iff code e).2 ⟨r, hg, he⟩, rfl⟩
  · have hback : ∀ entry ∈ reordered, ∀ other ∈ reordered, StatusKind.Spelled .range entry.1 →
        StatusKind.Spelled .range other.1 → sameFamily entry.1 other.1 = true →
        entry.1 = other.1 := by
      intro entry he other ho
      exact hd entry (hp.mem_iff.1 he) other (hp.mem_iff.1 ho)
    have hgives : ∀ code r, Gives reordered code r ↔ Gives operation.responses code r :=
      fun code r => ⟨.of_perm (hl.of_perm hp) hp.symm hback, .of_perm hl hp hd⟩
    have hlisted : Listed ({ operation with responses := reordered } : Operation).responses :=
      hl.of_perm hp
    refine Tabulates.result hlisted ⟨ht.ascending, ?_, ?_⟩
    · simpa only [hgives] using ht.mem_iff
    · simpa only [hgives] using ht.written

/-- Three responses: under a code, under a family in small letters, and the default. -/
def threeForms : Operation where
  method := .get
  path := "/pets"
  operationId := none
  summary := none
  description := none
  parameters := []
  requestBody := none
  responses := [("default", [(.text "content", .map [(.text "text/plain", .null)] none)]),
    ("4xx", []), ("404", [(.text "content", .map [(.text "application/xml", .null)] none)])]

theorem listed_threeForms : Listed threeForms.responses := by
  have hspelled : ∀ a b c : Char, StatusKind.isFamily a = true → b.isDigit = true →
      c.isDigit = true → StatusKind.Spelled .exact (String.ofList [a, b, c]) :=
    fun _ _ _ => .exact
  have hrange : ∀ a b c : Char, StatusKind.isFamily a = true → StatusKind.isWild b = true →
      StatusKind.isWild c = true → StatusKind.Spelled .range (String.ofList [a, b, c]) :=
    fun _ _ _ => .range
  refine ⟨by decide, ?_⟩
  intro entry he
  simp only [threeForms, List.mem_cons, List.not_mem_nil, or_false] at he
  rcases he with rfl | rfl | rfl
  · exact ⟨_, .default⟩
  · exact ⟨_, hrange '4' 'x' 'x' rfl rfl rfl⟩
  · exact ⟨_, hspelled '4' '0' '4' rfl rfl rfl⟩

theorem key_of_range_threeForms {entry : String × Fields} (he : entry ∈ threeForms.responses)
    (hr : StatusKind.Spelled .range entry.1) : entry.1 = "4xx" := by
  have hk := StatusKind.ofKey?_of_spelled hr
  simp only [threeForms, List.mem_cons, List.not_mem_nil, or_false] at he
  rcases he with rfl | rfl | rfl
  · cases hk
  · rfl
  · cases hk

/-- The validator of a response that is sent without a body in some content type. -/
def emptyAs (contentType : String) : Expr :=
  Expr.c "otherResponse"
    [.object [Expr.property "contentType" (.text contentType), Expr.property "body" nothing]]

def tableThreeForms : List (String × Expr) :=
  [("200", emptyAs "text/plain"), ("201", emptyAs "text/plain"), ("204", emptyAs "text/plain"),
    ("400", nothing), ("401", nothing), ("403", nothing), ("404", emptyAs "application/xml"),
    ("405", nothing), ("409", nothing), ("415", nothing), ("500", emptyAs "text/plain")]

/-- The rows of the three responses, as the expansion takes them. -/
def rowsThreeForms : List (List (String × Expr)) :=
  [["404"].map (·, emptyAs "application/xml"),
    ["400", "401", "403", "405", "409", "415"].map (·, nothing),
    ["200", "201", "204", "500"].map (·, emptyAs "text/plain")]

theorem sortByCode_rowsThreeForms : sortByCode rowsThreeForms.flatten = tableThreeForms := by
  have husual : ∀ code ∈ rowsThreeForms.flatten.map Prod.fst, code ∈ usualCodes := by decide
  have hsorted : Ascending (sortByCode rowsThreeForms.flatten) :=
    ascending_sortByCode (fun row hr => spelled_of_usual (husual _ (List.mem_map_of_mem hr)))
      (by decide)
  have htable : Ascending tableThreeForms := by
    unfold Ascending
    decide +kernel
  refine hsorted.eq_of_mem_iff htable fun row => ?_
  rw [sortByCode, (List.mergeSort_perm _ _).mem_iff]
  simp only [rowsThreeForms, tableThreeForms, List.flatten_cons, List.flatten_nil, List.map_cons,
    List.map_nil, List.mem_append, List.mem_cons, List.not_mem_nil, or_false]
  tauto

theorem result_responses_threeForms :
    (responses Schema.Scope.bare threeForms).result = .ok tableThreeForms := by
  obtain ⟨classified, hmap, _⟩ := exists_classified listed_threeForms
  have hshares :
      ((expand classified).mapM (share Schema.Scope.bare)).result = .ok rowsThreeForms := by
    cases hmap
    rfl
  exact (result_responses_eq_ok_iff hmap).2
    ⟨_, Traced.result_mapM_eq_ok_iff.1 hshares, sortByCode_rowsThreeForms.symm⟩

/-- A family gives way to a code, and the default to both. -/
theorem responses_expanded_threeForms :
    Listed threeForms.responses ∧
      (responses Schema.Scope.bare threeForms).result = .ok tableThreeForms ∧
        Ascending tableThreeForms ∧
        (∀ code e, (code, e) ∈ tableThreeForms ↔ ∃ r, Gives threeForms.responses code r ∧
          (response Schema.Scope.bare r).result = .ok e) ∧
        (∀ code, code ∈ tableThreeForms.map Prod.fst ↔ ∃ r, Gives threeForms.responses code r) ∧
        (responses Schema.Scope.bare
          { threeForms with responses := threeForms.responses.reverse }).result =
            .ok tableThreeForms := by
  have ht := result_responses_threeForms
  obtain ⟨hascending, hmem, hcodes, hreordered⟩ := responses_expanded listed_threeForms ht
  refine ⟨listed_threeForms, ht, hascending, hmem, hcodes, ?_⟩
  apply hreordered
  · intro entry he other ho hr hs _
    rw [key_of_range_threeForms he hr, key_of_range_threeForms ho hs]
  · exact List.reverse_perm _

end

end Contract

end RestContract
