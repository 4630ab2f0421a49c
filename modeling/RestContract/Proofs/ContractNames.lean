import RestContract.Contract.Assembly
import RestContract.Proofs.Citation
import RestContract.Proofs.DeclarationOrder

/-!
# Names in a contract

The names that the router uses are identifiers of declarations: every validator in it is compiled
from a schema, and a schema cites nothing but declarations.
-/

namespace RestContract

open Schema Expr

theorem Compile.Cites.mem_declarations {scope : Scope} {schema : Value} {declaration : Declaration}
    (h : Compile.Cites scope schema declaration) : declaration ∈ scope.declarations := by
  induction h with
  | declared _ hf => exact (Scope.mem_of_find? hf).1
  | followed _ _ _ _ _ ih | plain _ _ _ ih => exact ih

namespace Contract

/-- All names that an expression uses are identifiers of declarations. -/
def UsesDeclared (scope : Scope) (e : Expr) : Prop :=
  ∀ name ∈ names e, ∃ declaration ∈ scope.declarations, declaration.identifier = name

section

variable {scope : Scope}

theorem UsesDeclared.of_compile {schema : Value} {p : Validation.Presence} {e : Expr}
    (h : (Compile.compile scope schema p).result = .ok e) : UsesDeclared scope e := by
  intro name hn
  obtain ⟨declaration, hc, hi⟩ := (Compile.mem_names_compile_iff h name).1 hn
  exact ⟨declaration, hc.mem_declarations, hi⟩

theorem UsesDeclared.of_names {e : Expr} (h : names e = []) : UsesDeclared scope e := by
  intro name hn
  rw [h] at hn
  cases hn

/-- The names of an object are those of its properties. -/
theorem UsesDeclared.object {properties : List Property}
    (h : ∀ property ∈ properties, ∀ key e, property = .valued key e → UsesDeclared scope e) :
    UsesDeclared scope (.object properties) := by
  intro name hn
  rw [names] at hn
  induction properties with
  | nil => cases hn
  | cons first rest ih =>
    have hrest := ih fun property hp => h property (List.mem_cons_of_mem _ hp)
    cases first with
    | shorthand _ => exact hrest hn
    | valued key e =>
      rw [namesOfProperties, List.mem_append] at hn
      rcases hn with hn | hn
      · exact h _ List.mem_cons_self key e rfl name hn
      · exact hrest hn

theorem UsesDeclared.made {method : String} {argument : Expr} (hm : method ∈ makers)
    (hi : method ≠ "instanceof") (h : UsesDeclared scope argument) :
    UsesDeclared scope (z method [argument]) ∧ UsesDeclared scope (c method [argument]) := by
  have hargs : namesOfAll [argument] = names argument := by simp [namesOfAll]
  rw [UsesDeclared, UsesDeclared, names_z _ hm hi, names_c _ hm hi, hargs]
  exact ⟨h, h⟩

theorem usesDeclared_of_parameter {place : Place} {fields : Fields} {property : Property}
    (h : (parameter scope place fields).result = .ok property) :
    ∃ key e, property = .valued key e ∧ UsesDeclared scope e := by
  unfold parameter at h
  dsimp only at h
  split at h
  · obtain ⟨_, _, h⟩ := Traced.exists_of_result_bind h
    cases h
  · split at h
    · cases h
    · obtain ⟨e, he, h⟩ := Traced.exists_of_result_bind h
      cases h
      exact ⟨_, e, rfl, .of_compile he⟩

theorem usesDeclared_of_placed {operation : Operation} {fields : Fields} {place : Place}
    {property : Property} (h : (placed scope operation fields).result = .ok (some (place, property))) :
    ∃ key e, property = .valued key e ∧ UsesDeclared scope e := by
  unfold placed at h
  dsimp only at h
  split at h
  · obtain ⟨_, _, h⟩ := Traced.exists_of_result_bind h
    cases h
  · split at h
    · cases h
    · obtain ⟨found, hf, h⟩ := Traced.exists_of_result_bind h
      cases h
      exact usesDeclared_of_parameter hf

theorem usesDeclared_of_group {place : Place} {all : List (Place × Property)} {e : Expr}
    (hall : ∀ entry ∈ all, ∃ key e, entry.2 = .valued key e ∧ UsesDeclared scope e)
    (h : group place all = some e) : UsesDeclared scope e := by
  unfold group at h
  split at h
  · cases h
  · next properties hp =>
    cases h
    refine (UsesDeclared.made (by simp [makers]) (by simp) (.object ?_)).1
    rintro property hm key e rfl
    obtain ⟨⟨p, found⟩, he, hs⟩ := List.mem_filterMap.1 hm
    dsimp only at hs
    by_cases hplace : p = place
    · rw [if_pos hplace] at hs
      obtain ⟨_, _, heq, hd⟩ := hall _ he
      cases heq.symm.trans (Option.some.inj hs)
      exact hd
    · rw [if_neg hplace] at hs
      cases hs

theorem usesDeclared_of_compileOrNothing {schema : Value} {e : Expr}
    (h : (compileOrNothing scope schema).result = .ok e) : UsesDeclared scope e := by
  unfold compileOrNothing at h
  split at h
  · cases h
    exact .of_names rfl
  · exact .of_compile h

theorem usesDeclared_of_body {operation : Operation} {e : Expr} {contentType : Option String}
    (h : (body scope operation).result = .ok (some e, contentType)) : UsesDeclared scope e := by
  unfold body at h
  split at h
  · obtain ⟨⟨found, _⟩, hb, h⟩ := Traced.exists_of_result_bind h
    cases h
    unfold requestBody at hb
    dsimp only at hb
    split at hb
    · cases hb
    · obtain ⟨_, _, hb⟩ := Traced.exists_of_result_bind hb
      obtain ⟨_, _, hb⟩ := Traced.exists_of_result_bind hb
      obtain ⟨_, _, hb⟩ := Traced.exists_of_result_bind hb
      obtain ⟨e, he, hb⟩ := Traced.exists_of_result_bind hb
      cases hb
      exact usesDeclared_of_compileOrNothing he
  · split at h
    · cases h
    · cases h
      exact .of_names rfl

theorem usesDeclared_of_response {fields : Fields} {e : Expr}
    (h : (response scope fields).result = .ok e) : UsesDeclared scope e := by
  unfold response at h
  dsimp only at h
  split at h
  · cases h
    exact .of_names rfl
  obtain ⟨_, _, h⟩ := Traced.exists_of_result_bind h
  obtain ⟨key, _, h⟩ := Traced.exists_of_result_bind h
  obtain ⟨_, _, h⟩ := Traced.exists_of_result_bind h
  obtain ⟨found, he, h⟩ := Traced.exists_of_result_bind h
  have hfound := usesDeclared_of_compileOrNothing he
  split at h
  · cases h
    exact hfound
  · obtain ⟨label, hl, h⟩ := Traced.exists_of_result_bind h
    cases h
    refine (UsesDeclared.made (by simp [makers]) (by simp) (.object ?_)).2
    intro property hp key' e heq
    simp only [List.mem_cons, List.not_mem_nil, or_false] at hp
    rcases hp with rfl | rfl
    · subst heq
      rw [Traced.result_liftM] at hl
      unfold contentTypeProperty at hl
      split at hl
      · cases hl
      · obtain ⟨l, hc, hl⟩ := exists_of_bind_eq_ok hl
        cases hl
        exact .of_names (names_constant hc)
    · cases heq
      exact hfound

theorem usesDeclared_of_responses {operation : Operation} {table : List (String × Expr)}
    (h : (responses scope operation).result = .ok table) :
    ∀ entry ∈ table, UsesDeclared scope entry.2 := by
  obtain ⟨classified, _, h⟩ := Traced.exists_of_result_bind h
  obtain ⟨shares, hs, h⟩ := Traced.exists_of_result_bind h
  cases h
  intro entry he
  rw [sortByCode, List.mem_mergeSort, List.mem_flatten] at he
  obtain ⟨codes, hc, he⟩ := he
  rw [Traced.result_mapM] at hs
  obtain ⟨s, _, hshare⟩ := exists_of_mem_mapM hs hc
  obtain ⟨e, hr, hshare⟩ := Traced.exists_of_result_bind hshare
  cases hshare
  obtain ⟨code, _, rfl⟩ := List.mem_map.1 he
  exact usesDeclared_of_response hr

theorem usesDeclared_of_table {table : List (String × Expr)}
    (h : ∀ entry ∈ table, UsesDeclared scope entry.2) : UsesDeclared scope (Contract.table table) := by
  refine .object ?_
  rintro property hp key e rfl
  obtain ⟨entry, he, heq⟩ := List.mem_map.1 hp
  cases heq
  exact h entry he

/-- The expressions in an entry use identifiers of declarations. -/
structure Entry.UsesDeclared (scope : Scope) (entry : Entry) : Prop where
  headers : ∀ e, entry.headers = some e → Contract.UsesDeclared scope e
  query : ∀ e, entry.query = some e → Contract.UsesDeclared scope e
  pathParams : ∀ e, entry.pathParams = some e → Contract.UsesDeclared scope e
  body : ∀ e, entry.body = some e → Contract.UsesDeclared scope e
  responses : ∀ response ∈ entry.responses, Contract.UsesDeclared scope response.2

theorem Entry.usesDeclared_of_assemble {operation : Operation} {entry : Entry}
    (h : (assemble scope operation).result = .ok entry) : entry.UsesDeclared scope := by
  obtain ⟨parameters, hp, h⟩ := Traced.exists_of_result_bind h
  obtain ⟨⟨body, contentType⟩, hb, h⟩ := Traced.exists_of_result_bind h
  obtain ⟨table, hr, h⟩ := Traced.exists_of_result_bind h
  cases h
  have hall : ∀ entry ∈ parameters.filterMap id,
      ∃ key e, entry.2 = .valued key e ∧ Contract.UsesDeclared scope e := by
    rintro ⟨place, property⟩ he
    rw [List.mem_filterMap] at he
    obtain ⟨found, hf, rfl⟩ := he
    rw [Traced.result_mapM] at hp
    obtain ⟨fields, _, hplaced⟩ := exists_of_mem_mapM hp hf
    exact usesDeclared_of_placed hplaced
  exact
    { headers := fun e he => usesDeclared_of_group hall he
      query := fun e he => usesDeclared_of_group hall he
      pathParams := fun e he => usesDeclared_of_group hall he
      body := by
        rintro e rfl
        exact usesDeclared_of_body hb
      responses := usesDeclared_of_responses hr }

theorem Entry.UsesDeclared.toExpr {entry : Entry} (h : entry.UsesDeclared scope) :
    Contract.UsesDeclared scope entry.toExpr := by
  have htext : ∀ s, Contract.UsesDeclared scope (Expr.text s) := fun s => .of_names rfl
  have hoptional : ∀ {key : String} {value : Option Expr} {property : Property},
      property ∈ optional key value → (∀ e, value = some e → Contract.UsesDeclared scope e) →
      ∀ key e, property = .valued key e → Contract.UsesDeclared scope e := by
    intro key value property hp hv key' e heq
    subst heq
    cases value with
    | none => cases hp
    | some found =>
      rw [optional, Option.map_some, Option.toList_some, List.mem_singleton] at hp
      cases hp
      exact hv _ rfl
  have hname : ∀ {s : Option String} e, s.map Expr.text = some e → Contract.UsesDeclared scope e := by
    rintro (_ | s) e he
    · cases he
    · cases he
      exact htext s
  refine .object fun property hp => ?_
  simp only [List.mem_append, List.mem_cons, List.not_mem_nil, or_false] at hp
  rcases hp with ((((((((rfl | rfl) | hp) | hp) | hp) | hp) | hp) | hp) | rfl)
  · rintro _ _ ⟨⟩
    exact htext _
  · rintro _ _ ⟨⟩
    exact htext _
  · exact hoptional hp hname
  · exact hoptional hp h.headers
  · exact hoptional hp h.query
  · exact hoptional hp h.pathParams
  · exact hoptional hp h.body
  · exact hoptional hp hname
  · rintro _ _ ⟨⟩
    exact usesDeclared_of_table h.responses

/-- All names that the router uses are identifiers of declarations. -/
theorem usesDeclared_router {operations : List Operation} {entries : List Entry}
    (h : List.Forall₂ (fun operation entry => (assemble scope operation).result = .ok entry)
      operations entries) : UsesDeclared scope (router entries) := by
  refine (UsesDeclared.made (by simp [makers]) (by simp) (usesDeclared_of_table ?_)).2
  intro named hn
  obtain ⟨entry, he, rfl⟩ := List.mem_map.1 hn
  obtain ⟨operation, _, ha⟩ := exists_of_mem_forall₂ h he
  exact (Entry.usesDeclared_of_assemble ha).toExpr

end

end Contract
end RestContract
