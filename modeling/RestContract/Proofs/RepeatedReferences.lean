import Mathlib.Data.Set.Card
import RestContract.Proofs.DeclarationOrder
import RestContract.Proofs.SettledRuns
import RestContract.Proofs.TakenSchemas

/-!
# References that are followed again

A reference to a declaration is written as its identifier; any other reference is compiled as if what
it leads to stood in its place. Cycles of references that the walk for dependencies meets are found
before anything is compiled. But the walk begins with the component schemas: it does not meet a
reference in a parameter, a body or a response, nor one in a place of a component schema that it
passes over. If such a reference leads to what is not declared, a component can be compiled inside
itself.

At a schema that does not come up inside itself, the compiler ends: taking a schema apart makes it
smaller, and a document has only so many components to follow references to. For a schema that does,
no room is large enough to give it a validator.
-/

namespace RestContract.Compile

open Schema Validation Relation

/-- A schema is a reference that the compiler follows to the fields of a component. -/
def Expands (scope : Scope) (schema : Value) (fields : Fields) : Prop :=
  ∃ ref, Reference.target? schema = some ref ∧ scope.find? ref = none ∧
    Components.resolve scope.components ref = .ok fields

/-- On its way to the validator of a schema, the compiler comes to another schema. -/
inductive Enters (scope : Scope) : Value → Value → Prop where
  | expanded {schema inner : Value} {fields : Fields} (he : Expands scope schema fields)
    (hi : Taken fields (fields.get "type") inner) : Enters scope schema inner
  | plain {fields : Fields} {mark : Option Nat} {inner : Value}
    (ht : Reference.target? (.map fields mark) = none)
    (hi : Taken fields (fields.get "type") inner) : Enters scope (.map fields mark) inner

/-- On its way to the validator of a schema, the compiler comes to a schema and from there to that
    schema again. -/
def Repeats (scope : Scope) (schema : Value) : Prop :=
  ∃ inner, ReflTransGen (Enters scope) schema inner ∧ TransGen (Enters scope) inner inner

/-- Every way from a schema over those that the compiler comes to has an end. -/
def Grounded (scope : Scope) (schema : Value) : Prop :=
  Acc (fun inner outer => Enters scope outer inner) schema

/-! ## What does not repeat comes to an end -/

section

variable {scope : Scope} {start schema inner : Value} {fields : Fields}

theorem Expands.eq {other : Fields} (h : Expands scope schema fields)
    (ho : Expands scope schema other) : fields = other := by
  obtain ⟨ref, ht, _, hr⟩ := h
  obtain ⟨_, ht', _, hr'⟩ := ho
  cases ht.symm.trans ht'
  exact Except.ok.inj (hr.symm.trans hr')

theorem Enters.taken {mark : Option Nat} (h : Enters scope (.map fields mark) inner)
    (ht : Reference.target? (.map fields mark) = none) : Taken fields (fields.get "type") inner := by
  cases h with
  | expanded he =>
    obtain ⟨_, ht', _⟩ := he
    cases ht.symm.trans ht'
  | plain _ hi => exact hi

theorem Expands.taken_of_enters (h : Expands scope schema fields) (hi : Enters scope schema inner) :
    Taken fields (fields.get "type") inner := by
  cases hi with
  | expanded he hi =>
    cases h.eq he
    exact hi
  | plain ht =>
    obtain ⟨_, ht', _⟩ := h
    cases ht.symm.trans ht'

/-- A component has been followed on the way from one schema to another. -/
def Passed (scope : Scope) (start schema : Value) (fields : Fields) : Prop :=
  ∃ first, ReflTransGen (Enters scope) start first ∧ TransGen (Enters scope) first schema ∧
    Expands scope first fields

/-- A component that is followed again is one inside which it is followed. -/
theorem Passed.repeats (h : Passed scope start schema fields) (he : Expands scope schema fields) :
    Repeats scope start := by
  obtain ⟨first, hs, hf, hfirst⟩ := h
  obtain ⟨inner, hi, hrest⟩ := TransGen.head'_iff.1 hf
  refine ⟨inner, hs.tail hi, ?_⟩
  exact TransGen.tail' hrest (.expanded he (hfirst.taken_of_enters hi))

theorem Passed.step (h : Passed scope start schema fields) (hi : Enters scope schema inner) :
    Passed scope start inner fields := by
  obtain ⟨first, hs, hf, he⟩ := h
  exact ⟨first, hs, hf.tail hi, he⟩

/-- The components that have not been followed on the way to a schema. -/
def unpassed (scope : Scope) (start schema : Value) : Set Fields :=
  {fields | fields ∈ componentFields scope.components ∧ ¬ Passed scope start schema fields}

theorem finite_unpassed : (unpassed scope start schema).Finite :=
  (List.finite_toSet (componentFields scope.components)).subset fun _ h => h.1

theorem unpassed_subset (hi : Enters scope schema inner) :
    unpassed scope start inner ⊆ unpassed scope start schema :=
  fun _ h => ⟨h.1, fun hp => h.2 (hp.step hi)⟩

theorem ncard_unpassed_lt (hn : ¬ Repeats scope start)
    (hs : ReflTransGen (Enters scope) start schema) (he : Expands scope schema fields)
    (hi : Enters scope schema inner) :
    (unpassed scope start inner).ncard < (unpassed scope start schema).ncard := by
  refine Set.ncard_lt_ncard ⟨unpassed_subset hi, fun h => ?_⟩ finite_unpassed
  obtain ⟨_, _, _, hr⟩ := id he
  have hmem : fields ∈ unpassed scope start schema :=
    ⟨mem_componentFields_of_resolve hr, fun hp => hn (hp.repeats he)⟩
  exact (h hmem).2 ⟨schema, hs, .single hi, he⟩

theorem grounded_of_reached (hn : ¬ Repeats scope start) {schema : Value}
    (hs : ReflTransGen (Enters scope) start schema) : Grounded scope schema :=
  Acc.intro schema fun inner (hi : Enters scope schema inner) => grounded_of_reached hn (hs.tail hi)
termination_by ((unpassed scope start schema).ncard, schema.size)
decreasing_by
  have hle : (unpassed scope start inner).ncard ≤ (unpassed scope start schema).ncard :=
    Set.ncard_le_ncard (unpassed_subset hi) finite_unpassed
  cases hi with
  | expanded he ht =>
    exact .left _ _ (ncard_unpassed_lt hn hs he (.expanded he ht))
  | @plain fields mark _ ht hm => exact .right' _ hle (size_lt_of_taken hm mark)

theorem Grounded.not_repeats (h : Grounded scope schema) : ¬ Repeats scope schema := by
  rintro ⟨inner, hs, hi⟩
  have hinner : Grounded scope inner := by
    rcases reflTransGen_iff_eq_or_transGen.1 hs with rfl | hs
    · exact h
    · exact h.inv_of_transGen (transGen_swap.2 hs)
  have hloop : TransGen (fun inner outer => Enters scope outer inner) inner inner :=
    transGen_swap.2 hi
  have hacc := acc_transGen_iff.2 hinner
  clear hs hi hinner
  induction hacc with
  | intro inner _ ih => exact ih inner hloop hloop

theorem Grounded.ends (h : Grounded scope schema) (p : Presence) : Ends scope schema p := by
  induction h generalizing p with
  | intro schema _ ih =>
    cases ht : Reference.target? schema with
    | none =>
      cases schema with
      | map fields mark =>
        refine ends_of_settles ht (settles_of_taken ht ?_ p)
        intro inner hi p
        exact ih inner (.plain ht hi) p
      | _ => exact Settles.of_step (Settles.const _)
    | some ref =>
      refine Settles.of_step ?_
      simp only [compileOver, compileWith, ht]
      refine Settles.bind_of_const fun _ _ => ?_
      cases hf : scope.find? ref with
      | some declaration => exact Settles.const _
      | none =>
        -- What the reference leads to stands in its place, so it is entered from it.
        refine Settles.bind_of_const fun fields hr => ?_
        refine settles_of_taken (Components.get?_ref_of_resolve hr) ?_ p
        intro inner hi p
        exact ih inner (.expanded ⟨ref, ht, hf, hr⟩ hi) p

/-! ## What repeats has no validator -/

/-- What passes on from a schema to those that the compiler comes to has been passed on where they
    have been compiled. -/
theorem forall_entered_of_form {P : Value → Prop} {p : Presence} {e : Expr}
    (hdown : ∀ {outer inner}, P outer → Enters scope outer inner → P inner)
    (h : Form scope (fun schema _ _ => P schema) schema p e) (hi : Enters scope schema inner) :
    P inner := by
  have hretyped : ∀ {fields : Fields}, fields.get? "$ref" = none → ∀ tag,
      P (retyped fields tag) → ∀ schema, Taken fields tag schema → P schema := by
    intro fields hr tag hP schema hm
    exact hdown hP (.plain (target?_retyped hr tag) (taken_retyped_iff.2 hm))
  cases h with
  | declared ht hf =>
    cases hi with
    | expanded he =>
      obtain ⟨_, ht', hf', _⟩ := he
      cases ht.symm.trans ht'
      cases hf.symm.trans hf'
    | plain ht' => cases ht.symm.trans ht'
  | followed ht hf hr h =>
    have hexpands : Expands scope schema _ := ⟨_, ht, hf, hr⟩
    exact forall_taken_of_concreteForm (hretyped (Components.get?_ref_of_resolve hr)) h inner
      (hexpands.taken_of_enters hi)
  | plain ht h =>
    exact forall_taken_of_concreteForm (hretyped ht) h inner (hi.taken ht)

/-- Where the compiler gives a validator, it has not come to anything endless. -/
theorem grounded_of_form {p : Presence} {e : Expr}
    (h : Form scope (fun schema _ _ => Grounded scope schema) schema p e) :
    Grounded scope schema :=
  Acc.intro schema fun _ hi => forall_entered_of_form (fun hg hi => hg.inv hi) h hi

theorem not_repeats_of_compileAt {room : Nat} {p : Presence} {e : Expr}
    (h : (compileAt scope room 0 schema p).result = .ok e) : ¬ Repeats scope schema :=
  (of_compileAt (R := fun schema _ _ => Grounded scope schema) (fun _ _ _ => grounded_of_form)
    h).not_repeats

end

/-! ## Component schemas -/

/-- On its way to the validator of a schema, the compiler comes to one that the walk for
    dependencies passes over. -/
def Misses (scope : Scope) (schema : Value) : Prop :=
  ∃ (fields : Fields) (mark : Option Nat) (inner : Value),
    ReflTransGen (Enters scope) schema (.map fields mark) ∧
      Reference.target? (.map fields mark) = none ∧ Taken fields (fields.get "type") inner ∧
      PassedOver fields inner

section

variable {scope : Scope} {schema inner : Value}

theorem Misses.head (h : Misses scope inner) (hi : Enters scope schema inner) :
    Misses scope schema := by
  obtain ⟨fields, mark, passed, hs, ht, hm, hp⟩ := h
  exact ⟨fields, mark, passed, .head hi hs, ht, hm, hp⟩

theorem grounded_empty (mark : Option Nat) : Grounded scope (.map [] mark) :=
  Acc.intro _ fun _ hi => absurd (hi.taken rfl) not_taken_nil

/-- A schema that mentions nothing but declarations is compiled without following any reference,
    unless the compiler comes to a place that the walk for dependencies passes over. -/
theorem grounded_of_readable (hread : Readable schema)
    (hm : ∀ ref ∈ mentions schema, ref ∈ scope.declarations.map (·.ref))
    (hn : ¬ Misses scope schema) : Grounded scope schema := by
  have hall : scope.declarations = scope.declarations ++ [] := (List.append_nil _).symm
  induction hread with
  -- Nothing is entered from a reference to a declaration, which becomes the identifier.
  | reference ht =>
    refine Acc.intro _ fun inner hi => ?_
    cases hi with
    | expanded he =>
      obtain ⟨_, ht, hf, hr⟩ := he
      obtain ⟨_, hfound⟩ := exists_find?_of_resolve hall ht hr hm
      cases hf.symm.trans hfound
    | plain ht' => cases ht.symm.trans ht'
  | @leaf schema hl =>
    refine Acc.intro _ fun inner hi => ?_
    cases hi with
    | expanded he =>
      obtain ⟨_, ht, _⟩ := he
      cases ht.symm.trans (target?_eq_none hl)
    | plain => exact absurd rfl (hl _ _)
  | @map fields parts mark ht hparts _ ih =>
    refine Acc.intro _ fun inner hi => ?_
    have htaken := hi.taken ht
    -- What is taken has been read by the walk, or the walk has passed it over, or it is empty.
    rcases mem_nested_or_passedOver hparts htaken with hinner | hpassed | ⟨emptyMark, rfl⟩
    · refine ih inner hinner ?_ fun hmiss => hn (hmiss.head hi)
      exact fun ref hr => hm ref (mem_mentions_of_nested ht hparts hinner hr)
    · exact absurd ⟨fields, mark, inner, .refl, ht, htaken, hpassed⟩ hn
    · exact grounded_empty emptyMark

theorem misses_of_repeats {graph : Graph} {named : List (String × Value)}
    (ha : scope.Arranged graph named) {declaration : Declaration}
    (hd : declaration ∈ scope.declarations)
    (hr : Components.resolve scope.components (.text declaration.ref) = .ok declaration.schema)
    (h : Repeats scope (.ofFields declaration.schema)) :
    Misses scope (.ofFields declaration.schema) := by
  have hmentions : ∀ ref ∈ mentions (.ofFields declaration.schema),
      ref ∈ scope.declarations.map (·.ref) := by
    intro ref hm
    obtain ⟨before, after, hsplit⟩ := List.append_of_mem hd
    have hbefore := ha.mem_before hsplit hr hm
    rw [hsplit, List.map_append]
    exact List.mem_append_left _ hbefore
  by_contra hn
  exact (grounded_of_readable (ha.readable hd hr) hmentions hn).not_repeats h

end

end RestContract.Compile
