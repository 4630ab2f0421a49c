import RestContract.Proofs.DeliveredValidators
import RestContract.Proofs.ResponseTable

/-!
# What the contract delivers

The entries of a contract are printed with the characters of an alphabet that has those of the
declared identifiers. And where the keys of all responses of an operation have a form, nothing that
writes its entry fails for the key of a response.
-/

namespace RestContract

theorem delivers_part (value index : Value) : Delivers (fun _ => True) (value.part index) := by
  have hitem : ∀ items n, Delivers (fun _ => True) (Value.item items n) := by
    intro items n
    unfold Value.item
    split
    · exact .ok trivial
    · exact Delivers.fault _
  unfold Value.part
  split
  · split
    · exact .ok trivial
    · exact Delivers.fault _
  · exact hitem _ _
  · exact hitem _ _
  · exact hitem _ _
  · exact hitem _ _
  · exact Delivers.fault _

namespace Contract

open Expr Schema Validation

/-! ## Content -/

theorem delivers_namesJson (key : Value) : Delivers (fun _ => True) (namesJson key) := by
  unfold namesJson
  split
  all_goals first | exact .ok trivial | exact Delivers.fault _

theorem delivers_firstJson (names : List Value) : Delivers (fun _ => True) (firstJson names) := by
  induction names with
  | nil => exact .ok trivial
  | cons key rest ih =>
    refine (delivers_namesJson key).bind fun found _ => ?_
    split
    · exact .ok trivial
    · exact ih

theorem delivers_selectBody (names : List Value) :
    Delivers (fun _ => True) (selectBody names) := by
  refine (delivers_firstJson names).bind fun found _ => ?_
  split
  · exact .ok trivial
  · split
    · exact .ok trivial
    · exact (delivers_shown _).bind fun _ _ => .error (by rintro ⟨⟩)

theorem delivers_schemaUnder (content key : Value) :
    Delivers (fun _ => True) (schemaUnder content key) :=
  (delivers_part content key).bind fun _ _ => (delivers_asFields _).bind fun _ _ => .ok trivial

theorem delivers_selectResponse (names : List Value) :
    Delivers (fun _ => True) (selectResponse names) := by
  unfold selectResponse
  split
  · exact .ok trivial
  · split
    · exact .ok trivial
    · exact Delivers.fault _

/-! ## Entries -/

section

variable {A : Alphabet}

variable (A) in
theorem delivers_contentTypeProperty (key : Value) :
    Delivers (Property.IsOver A) (contentTypeProperty key) := by
  unfold contentTypeProperty
  split
  · exact .ok (isOver_shorthand (A.spells_of_isVisible (by decide)))
  · exact (delivers_constant A key).bind fun e he => .ok (isOver_property _ he)

theorem isOver_nothing : nothing.IsOver A := isOver_z (by decide) (by simp)

theorem isOver_group {place : Place} {all : List (Place × Property)} {e : Expr}
    (h : ∀ entry ∈ all, entry.2.IsOver A) (he : group place all = some e) : e.IsOver A := by
  unfold group at he
  split at he
  · cases he
  · next properties _ =>
    cases he
    refine isOver_z (by decide) ?_
    rw [List.forall_mem_singleton]
    refine isOver_object fun property hp => ?_
    obtain ⟨⟨p, found⟩, hf, heq⟩ := List.mem_filterMap.1 hp
    dsimp only at heq
    split at heq
    · cases heq
      exact h _ hf
    · cases heq

theorem isOver_optional {key : String} {value : Option Expr}
    (h : ∀ e, value = some e → e.IsOver A) : ∀ p ∈ Contract.optional key value, p.IsOver A := by
  cases value with
  | none => simp [Contract.optional]
  | some e => simpa [Contract.optional] using isOver_property key (h e rfl)

theorem isOver_table {named : List (String × Expr)} (h : ∀ entry ∈ named, entry.2.IsOver A) :
    (table named).IsOver A := by
  refine isOver_object fun p hp => ?_
  obtain ⟨entry, he, rfl⟩ := List.mem_map.1 hp
  exact isOver_property _ (h entry he)

theorem isOver_toExpr {entry : Entry} (hheaders : ∀ e, entry.headers = some e → e.IsOver A)
    (hquery : ∀ e, entry.query = some e → e.IsOver A)
    (hpath : ∀ e, entry.pathParams = some e → e.IsOver A)
    (hbody : ∀ e, entry.body = some e → e.IsOver A)
    (hresponses : ∀ response ∈ entry.responses, response.2.IsOver A) :
    entry.toExpr.IsOver A := by
  have htext : ∀ (s : Option String) e, s.map Expr.text = some e → e.IsOver A := by
    intro s e he
    obtain ⟨text, _, rfl⟩ := Option.map_eq_some_iff.1 he
    exact isOver_text text
  refine isOver_object ?_
  simp only [List.forall_mem_append, List.forall_mem_singleton, List.forall_mem_cons]
  refine ⟨⟨⟨⟨⟨⟨⟨⟨?_, ?_⟩, ?_⟩, ?_⟩, ?_⟩, ?_⟩, ?_⟩, ?_⟩, ?_⟩
  · exact isOver_property _ (isOver_text _)
  · exact isOver_property _ (isOver_text _)
  · exact isOver_optional (htext _)
  · exact isOver_optional hheaders
  · exact isOver_optional hquery
  · exact isOver_optional hpath
  · exact isOver_optional hbody
  · exact isOver_optional (htext _)
  · exact isOver_property _ (isOver_table hresponses)

theorem isOver_router {entries : List Entry} (h : ∀ entry ∈ entries, entry.toExpr.IsOver A) :
    (router entries).IsOver A := by
  refine isOver_c (by decide) ?_
  rw [List.forall_mem_singleton]
  refine isOver_table fun named hn => ?_
  obtain ⟨entry, he, rfl⟩ := List.mem_map.1 hn
  exact h entry he

theorem delivers_statusOf {code : String} (h : StatusKind.ofKey? code ≠ none) (method : String)
    (path : Scalar) : Delivers (fun _ => True) (Operation.statusOf method path code) := by
  unfold Operation.statusOf
  split
  · exact .ok trivial
  · next hnone => exact absurd hnone h

/-- The keys of all responses of an operation with an entry have a form. -/
theorem ofKey?_ne_none_of_assemble {scope : Scope} {operation : Operation} {entry : Entry}
    (h : (assemble scope operation).result = .ok entry) :
    ∀ key ∈ operation.responses.map Prod.fst, StatusKind.ofKey? key ≠ none := by
  obtain ⟨_, _, h⟩ := Traced.exists_of_result_bind h
  obtain ⟨_, _, h⟩ := Traced.exists_of_result_bind h
  obtain ⟨_, hr, _⟩ := Traced.exists_of_result_bind h
  obtain ⟨classified, hc, _⟩ := Traced.exists_of_result_bind hr
  intro key hk
  obtain ⟨response, hm, rfl⟩ := List.mem_map.1 hk
  obtain ⟨_, _, hform⟩ := exists_of_mem_forall₂ (mapM_eq_ok_iff.1 hc).flip hm
  rw [(classify_eq_ok_iff.1 hform).1]
  exact Option.some_ne_none _

variable {scope : Scope}
  (hscope : ∀ declaration ∈ scope.declarations, A.Spells declaration.identifier.toList)

include hscope

theorem delivers_parameter (place : Place) (fields : Fields) :
    Delivers (Property.IsOver A) (parameter scope place fields).result := by
  unfold parameter
  dsimp only
  split
  · exact YieldsOr.result_bind (delivers_shown _) fun _ _ => .error (by rintro ⟨⟩)
  · split
    · exact Delivers.fault _
    · exact (Compile.delivers_compile hscope _ _).result_bind fun e he => .ok (isOver_valued _ he)

theorem delivers_placed (operation : Operation) (fields : Fields) :
    Delivers (fun found => ∀ entry, found = some entry → entry.2.IsOver A)
      (placed scope operation fields).result := by
  have hnone : Delivers (fun found => ∀ entry, found = some entry → entry.2.IsOver A)
      (.ok none : Except Error (Option (Place × Property))) := .ok fun _ hf => nomatch hf
  unfold placed
  dsimp only
  split
  · exact YieldsOr.result_bind (P := fun _ => True) (.ok trivial) fun _ _ => hnone
  · split
    · exact hnone
    · refine (delivers_parameter hscope _ fields).result_bind fun property hp => .ok ?_
      intro entry hf
      exact Option.some.inj hf ▸ hp

theorem delivers_compileOrNothing (schema : Value) :
    Delivers (IsOver A) (compileOrNothing scope schema).result := by
  unfold compileOrNothing
  split
  · exact .ok isOver_nothing
  · exact Compile.delivers_compile hscope _ _

theorem delivers_requestBody (operation : Operation) (fields : Fields) :
    Delivers (fun body => body.1.IsOver A) (requestBody scope operation fields).result := by
  unfold requestBody
  dsimp only
  split
  · exact .error (by rintro ⟨⟩)
  · refine YieldsOr.result_bind (delivers_asParts _) fun names _ => ?_
    refine YieldsOr.result_bind (delivers_selectBody names) fun selected _ => ?_
    refine YieldsOr.result_bind (delivers_schemaUnder _ _) fun schema _ => ?_
    exact (delivers_compileOrNothing hscope schema).result_bind fun e he => .ok he

theorem delivers_body (operation : Operation) :
    Delivers (fun body => ∀ e, body.1 = some e → e.IsOver A)
      (Contract.body scope operation).result := by
  unfold Contract.body
  split
  · refine (delivers_requestBody hscope operation _).result_bind fun body hb => .ok ?_
    intro e he
    exact Option.some.inj he ▸ hb
  · split
    · exact .ok fun _ he => nomatch he
    · refine .ok fun e he => ?_
      exact Option.some.inj he ▸ isOver_nothing

theorem delivers_response (fields : Fields) :
    Delivers (IsOver A) (response scope fields).result := by
  unfold response
  dsimp only
  split
  · exact .ok isOver_nothing
  · refine YieldsOr.result_bind (delivers_asParts _) fun names _ => ?_
    refine YieldsOr.result_bind (delivers_selectResponse names) fun key _ => ?_
    refine YieldsOr.result_bind (delivers_schemaUnder _ _) fun schema _ => ?_
    refine (delivers_compileOrNothing hscope schema).result_bind fun e he => ?_
    split
    · exact .ok he
    · refine YieldsOr.result_bind (delivers_contentTypeProperty A key) fun property hp => ?_
      refine .ok (isOver_c (by decide) ?_)
      rw [List.forall_mem_singleton]
      exact isOver_object (by simpa using ⟨hp, isOver_property _ he⟩)

theorem delivers_responses {operation : Operation}
    (hforms : ∀ key ∈ operation.responses.map Prod.fst, StatusKind.ofKey? key ≠ none) :
    Delivers (fun table => ∀ entry ∈ table, entry.2.IsOver A)
      (Contract.responses scope operation).result := by
  have hclassified : Delivers (fun _ => True) (operation.responses.mapM (classify operation)) := by
    refine (YieldsOr.mapM (Q := fun _ => True) fun entry he => ?_).mono fun _ _ => trivial
    have hform := hforms entry.1 (List.mem_map_of_mem he)
    exact (delivers_statusOf hform _ _).bind fun _ _ => .ok trivial
  refine YieldsOr.result_bind hclassified fun classified _ => ?_
  have hshares : Delivers (fun lists => ∀ codes ∈ lists, ∀ entry ∈ codes, IsOver A entry.2)
      ((expand classified).mapM (share scope)).result := by
    refine YieldsOr.result_mapM fun s _ => ?_
    refine (delivers_response hscope s.response).result_bind fun e he => .ok fun entry hentry => ?_
    obtain ⟨code, _, rfl⟩ := List.mem_map.1 hentry
    exact he
  refine hshares.result_bind fun lists hl => .ok fun entry hm => ?_
  rw [sortByCode, List.mem_mergeSort] at hm
  obtain ⟨codes, hcodes, hentry⟩ := List.mem_flatten.1 hm
  exact hl codes hcodes entry hentry

/-- The entry of an operation whose responses all have keys of a form is printed with the characters
    of any alphabet that has those of the declared identifiers, or there is none, and not for the
    key of a response. -/
theorem delivers_assemble {operation : Operation}
    (hforms : ∀ key ∈ operation.responses.map Prod.fst, StatusKind.ofKey? key ≠ none) :
    Delivers (fun entry => entry.toExpr.IsOver A) (assemble scope operation).result := by
  have hparameters : Delivers (fun found => ∀ entry ∈ found, ∀ placed, entry = some placed →
      placed.2.IsOver A) (operation.parameters.mapM (placed scope operation)).result :=
    YieldsOr.result_mapM fun fields _ => delivers_placed hscope operation fields
  refine hparameters.result_bind fun found hfound => ?_
  refine (delivers_body hscope operation).result_bind fun body hbody => ?_
  refine (delivers_responses hscope hforms).result_bind fun table htable => .ok ?_
  have hplaced : ∀ entry ∈ found.filterMap id, entry.2.IsOver A := by
    intro entry he
    obtain ⟨option, ho, heq⟩ := List.mem_filterMap.1 he
    exact hfound option ho entry heq
  have hgroup : ∀ place e, group place (found.filterMap id) = some e → e.IsOver A :=
    fun _ _ => isOver_group hplaced
  exact isOver_toExpr (hgroup _) (hgroup _) (hgroup _) hbody htable

end

end Contract
end RestContract
