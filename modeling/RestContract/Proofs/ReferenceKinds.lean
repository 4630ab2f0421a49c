import RestContract.Proofs.ExtractionRuns
import RestContract.Proofs.RepeatedReferences

/-!
# Kinds of components and places of references

A component that a reference leads to is looked up among those of the kind that the reference itself
names, and so is every component on the way. Where the reference stands is not asked. So a reference
to a parameter in the place of a schema is followed like any other, and what it leads to is declared
and compiled as a schema; only a chain of references that changes its kind on the way is rejected.
Whether all that is declared are schemas depends on what the component schemas mention.
-/

namespace RestContract

/-- A value is a reference to a component of a kind. -/
def NamesKind (kind : ComponentKind) (ref : Value) : Prop :=
  ∃ r, Reference.parse ref = .ok r ∧ r.kind = kind

namespace Components

variable {components : Value} {kind : ComponentKind} {ref last : Value} {steps : Nat}

/-- From one reference, a number of components of a kind that are references themselves lead to
    another one. -/
inductive Passes (components : Value) (kind : ComponentKind) : Value → Value → Nat → Prop where
  | here {ref : Value} : Passes components kind ref ref 0
  | next {ref next last : Value} {found : Fields} {steps : Nat}
    (hn : Names components kind ref found) (hr : found.get? "$ref" = some next)
    (h : Passes components kind next last steps) : Passes components kind ref last (steps + 1)

theorem named_of_stray {asked : Value} {other : Reference}
    (hl : Reference.parse last = .ok other) (hk : other.kind ≠ kind) :
    named components asked kind last = .error (.unresolvedReference asked.display) := by
  simp only [named, hl, ok_bind, hk, if_false]
  rfl

theorem follow_of_stray {asked : Value} {other : Reference}
    (h : Passes components kind ref last steps) (hl : Reference.parse last = .ok other)
    (hk : other.kind ≠ kind) {room : Nat} (hle : steps ≤ room) :
    follow components asked kind room ref = .error (.unresolvedReference asked.display) := by
  induction h generalizing room with
  | here => cases room <;> rw [follow, named_of_stray hl hk] <;> rfl
  | next hn hr _ ih =>
    cases room with
    | zero => cases hle
    | succ room =>
      rw [follow, named_eq_ok_iff.2 hn, ok_bind, hr]
      exact ih hl (by omega)

/-- A chain of references that comes to another kind leads nowhere, whatever that kind is. -/
theorem resolve_of_stray {r other : Reference} (hr : Reference.parse ref = .ok r)
    (h : Passes components r.kind ref last steps) (hle : steps ≤ maxDepth)
    (hl : Reference.parse last = .ok other) (hk : other.kind ≠ r.kind) :
    resolve components ref = .error (.unresolvedReference ref.display) := by
  rw [resolve, hr, ok_bind]
  exact follow_of_stray h hl hk hle

/-- The last component that a reference leads to is one of the kind. -/
theorem Leads.exists_names {fields : Fields} (h : Leads components kind ref fields steps) :
    ∃ last, Names components kind last fields := by
  induction h with
  | @here ref _ hn _ => exact ⟨ref, hn⟩
  | next _ _ _ ih => exact ih

end Components

/-! ## The places of references -/

/-- A place of a document where a component of one kind is expected. -/
inductive Position where
  | pathItem
  | parameter
  | requestBody
  | response
  | schema

def Position.kind : Position → ComponentKind
  | .pathItem => .pathItems
  | .parameter => .parameters
  | .requestBody => .requestBodies
  | .response => .responses
  | .schema => .schemas

/-- The paths of a document. -/
def HasPaths (document : Value) (paths : Fields) : Prop :=
  ∃ all, document.asFields = .ok all ∧ (all.get "paths").orEmptyMap.asFields = .ok paths

/-- A field of a path, the path itself resolved, holds an operation with responses. -/
inductive Offers (document components : Value) : Fields → Fields → Prop where
  | intro {paths item operation : Fields} {path : Scalar} {value resolved : Value} {key : String}
    {mark : Option Nat} (hp : HasPaths document paths) (hm : (path, value) ∈ paths)
    (hv : value.isVacant = false) (hr : Components.resolveValue components value = .ok resolved)
    (hi : resolved.asFields = .ok item) (ho : (.text key, .map operation mark) ∈ item)
    (hk : Operation.isPassedOver key = false)
    (hn : (Fields.get operation "responses").isVacant = false) :
    Offers document components item operation

/-- The component schema of a name, as it is written. -/
def HasSchema (document : Value) (name : String) (schema : Value) : Prop :=
  ∃ schemas mark, Schema.componentSchemas document = .ok (.map schemas mark) ∧
    Fields.get? schemas name = some schema

open Schema Compile Relation in
/-- A reference is followed in a place of a document that has been read: when the operations are
    extracted, when the component schemas are walked and declared, or when a schema is compiled. -/
inductive Follows (context : Context) : Position → Value → Prop where
  | pathItem {paths : Fields} {path : Scalar} {value ref : Value}
    (hp : HasPaths context.document paths) (hm : (path, value) ∈ paths)
    (ht : Reference.target? value = some ref) : Follows context .pathItem ref
  | parameter {item operation : Fields} {shared own : List Value} {value ref : Value}
    (ho : Offers context.document context.scope.components item operation)
    (hs : (item.get "parameters").orEmptyList.asParts = .ok shared)
    (hw : (operation.get "parameters").orEmptyList.asParts = .ok own)
    (hm : value ∈ Value.dedup (shared ++ own)) (ht : Reference.target? value = some ref) :
    Follows context .parameter ref
  | requestBody {item operation : Fields} {ref : Value}
    (ho : Offers context.document context.scope.components item operation)
    (ht : Reference.target? (operation.get "requestBody") = some ref) :
    Follows context .requestBody ref
  | response {item operation responses : Fields} {key : Scalar} {value ref : Value}
    (ho : Offers context.document context.scope.components item operation)
    (hr : (operation.get "responses").asFields = .ok responses) (hm : (key, value) ∈ responses)
    (ht : Reference.target? value = some ref) : Follows context .response ref
  | component {name ref : String} {schema : Value} (hs : HasSchema context.document name schema)
    (hm : ref ∈ mentions schema) : Follows context .schema (.text ref)
  | declaration {declaration : Declaration} {fields : Fields} {ref : String}
    (hd : declaration ∈ context.declarations)
    (hr : Components.resolve context.scope.components (.text declaration.ref) = .ok fields)
    (hm : ref ∈ mentions (.ofFields fields)) : Follows context .schema (.text ref)
  | compiled {schema inner ref : Value} {p : Validation.Presence} {e : Expr}
    (hc : (compile context.scope schema p).result = .ok e)
    (hi : ReflTransGen (Enters context.scope) schema inner)
    (ht : Reference.target? inner = some ref) : Follows context .schema ref

/-! ## References in operations -/

namespace Operation

variable {document components value ref : Value} {item operation : Fields}
  {operations : List Operation}

theorem exists_resolve_of_resolveValue {resolved : Value}
    (h : Components.resolveValue components value = .ok resolved)
    (ht : Reference.target? value = some ref) :
    ∃ fields, Components.resolve components ref = .ok fields := by
  rw [Components.resolveValue, ht] at h
  obtain ⟨fields, hf, _⟩ := exists_of_bind_eq_ok h
  exact ⟨fields, hf⟩

theorem exists_ofPath_of_ofDocument (h : (ofDocument document components).result = .ok operations)
    {paths : Fields} (hp : HasPaths document paths) {path : Scalar × Value} (hm : path ∈ paths) :
    ∃ found, (ofPath components path).result = .ok found := by
  obtain ⟨all, ha, hp⟩ := hp
  obtain ⟨all', paths', groups, ha', hp', hgroups, _⟩ := exists_of_ofDocument h
  cases ha.symm.trans ha'
  cases hp.symm.trans hp'
  obtain ⟨found, _, hf⟩ := exists_of_mem_forall₂ hgroups.flip hm
  exact ⟨found, hf⟩

/-- An operation that a path offers has been extracted. -/
theorem exists_extract_of_offers (h : (ofDocument document components).result = .ok operations)
    (ho : Offers document components item operation) :
    ∃ path method extracted, extract components path item method operation = .ok extracted := by
  obtain ⟨hp, hm, hv, hr, hi, ho, hk, hn⟩ := ho
  obtain ⟨found, hf⟩ := exists_ofPath_of_ofDocument h hp hm
  obtain ⟨resolved, item, held, hr', hi', hheld, _⟩ := exists_of_ofPath hf hv
  cases hr.symm.trans hr'
  cases hi.symm.trans hi'
  obtain ⟨made, _, hmade⟩ := exists_of_mem_forall₂ hheld.flip ho
  obtain ⟨key, hkey, hmade⟩ := Traced.exists_of_result_bind hmade
  cases hkey
  simp only [hk, Bool.false_eq_true, if_false] at hmade
  obtain ⟨method, _, hmade⟩ := Traced.exists_of_result_bind hmade
  simp only [hn, Bool.false_eq_true, if_false] at hmade
  obtain ⟨extracted, he, _⟩ := Traced.exists_of_result_bind hmade
  exact ⟨_, method, extracted, he⟩

variable {path : Scalar} {method : Method} {extracted : Operation}
  (h : extract components path item method operation = .ok extracted)

include h

theorem resolveValue_of_parameter {shared own : List Value}
    (hs : (item.get "parameters").orEmptyList.asParts = .ok shared)
    (hw : (operation.get "parameters").orEmptyList.asParts = .ok own)
    (hm : value ∈ Value.dedup (shared ++ own)) :
    ∃ resolved, Components.resolveValue components value = .ok resolved := by
  obtain ⟨parameters, hp, _⟩ := exists_of_bind_eq_ok h
  rw [parametersOf, hs, ok_bind, hw, ok_bind, mapM_eq_ok_iff] at hp
  obtain ⟨resolved, _, hr⟩ := exists_of_mem_forall₂ hp.flip hm
  exact ⟨resolved, hr⟩

theorem resolveValue_of_requestBody
    (ht : Reference.target? (operation.get "requestBody") = some ref) : ∃ resolved,
      Components.resolveValue components (operation.get "requestBody") = .ok resolved := by
  obtain ⟨_, _, h⟩ := exists_of_bind_eq_ok h
  obtain ⟨body, hb, _⟩ := exists_of_bind_eq_ok h
  refine ⟨body, ?_⟩
  unfold requestBodyOf at hb
  split at hb
  · next hn =>
    rw [hn] at ht
    cases ht
  · exact hb

theorem resolveValue_of_response {responses : Fields} {key : Scalar}
    (hr : (operation.get "responses").asFields = .ok responses) (hm : (key, value) ∈ responses) :
    ∃ resolved, Components.resolveValue components value = .ok resolved := by
  obtain ⟨_, _, h⟩ := exists_of_bind_eq_ok h
  obtain ⟨_, _, h⟩ := exists_of_bind_eq_ok h
  obtain ⟨found, hf, _⟩ := exists_of_bind_eq_ok h
  rw [responsesOf, hr, ok_bind] at hf
  obtain ⟨before, after, hstep⟩ := exists_of_mem_foldlM hf hm
  obtain ⟨_, _, hstep⟩ := exists_of_bind_eq_ok hstep
  obtain ⟨_, _, hstep⟩ := exists_of_bind_eq_ok hstep
  obtain ⟨resolved, hresolved, _⟩ := exists_of_bind_eq_ok hstep
  exact ⟨resolved, hresolved⟩

end Operation

/-! ## References in component schemas -/

namespace Schema

open Graph

variable {components : Value} {P : String → Prop}

theorem walked_of_walkRoot
    (hP : ∀ ref target, P ref → Components.resolve components (.text ref) = .ok target →
      ∀ other ∈ mentions (.ofFields target), P other)
    {name : String} {schema : Value} {walk final : Walk}
    (h : walkRoot components walk name schema = .ok final)
    (hw : refTo name ∉ walk.walked → ∀ ref ∈ mentions schema, P ref) :
    refTo name ∈ final.walked ∧ walk.walked ⊆ final.walked ∧
      ∀ ref ∈ final.walked, ref ∈ walk.walked ∨ ref = refTo name ∨ P ref := by
  by_cases hm : refTo name ∈ walk.walked
  · rw [walkRoot_of_walked hm] at h
    cases h
    exact ⟨hm, List.Subset.refl _, fun _ => .inl⟩
  · rw [walkRoot_of_not_walked hm] at h
    have hends := Walk.ends_of_run h
    have hreaches := hends.reaches (by simp)
    refine ⟨hreaches.kept (by simp), fun _ hw => hreaches.kept (List.mem_append_left _ hw), ?_⟩
    intro ref hr
    have hwalked := hends.walked hP (by simpa using hw hm) ref hr
    rw [List.mem_append, List.mem_singleton, or_assoc] at hwalked
    exact hwalked

/-- What is walked from some component schemas are the references to them and those of a kind that
    passes on, if all references in them are of this kind. -/
theorem walked_of_walkRoots
    (hP : ∀ ref target, P ref → Components.resolve components (.text ref) = .ok target →
      ∀ other ∈ mentions (.ofFields target), P other)
    {named before rest : List (String × Value)} (heq : named = before ++ rest)
    (hmentions : ∀ name schema, named.lookup name = some schema → ∀ ref ∈ mentions schema, P ref)
    {walk final : Walk} (hbefore : ∀ entry ∈ before, refTo entry.1 ∈ walk.walked)
    (h : rest.foldlM (fun walk (entry : String × Value) =>
      walkRoot components walk entry.1 entry.2) walk = .ok final) :
    ∀ ref ∈ final.walked, ref ∈ walk.walked ∨ (∃ name, ref = refTo name) ∨ P ref := by
  induction rest generalizing before walk with
  | nil =>
    cases h
    exact fun _ => .inl
  | cons entry rest ih =>
    obtain ⟨name, schema⟩ := entry
    rw [List.foldlM_cons] at h
    obtain ⟨next, hn, h⟩ := exists_of_bind_eq_ok h
    -- A name that has not been walked is not that of an earlier schema, so this one is found by it.
    have hschema : refTo name ∉ walk.walked → ∀ ref ∈ mentions schema, P ref := by
      intro hm
      exact hmentions name schema (heq ▸ lookup_append_of_not_walked hbefore hm rest)
    obtain ⟨hroot, hkept, hwalked⟩ := walked_of_walkRoot hP hn hschema
    have hall : ∀ other ∈ before ++ [(name, schema)], refTo other.1 ∈ next.walked := by
      intro other ho
      rcases List.mem_append.1 ho with ho | ho
      · exact hkept (hbefore other ho)
      · rw [List.mem_singleton] at ho
        subst ho
        exact hroot
    intro ref hr
    rcases ih (by simpa using heq) hall h ref hr with hr | hr
    · rcases hwalked ref hr with hr | rfl | hr
      · exact .inl hr
      · exact .inr (.inl ⟨name, rfl⟩)
      · exact .inr (.inr hr)
    · exact .inr hr

/-- What a reference to a schema leads to mentions schemas only, if all component schemas do. -/
theorem namesKind_of_mem_mentions {document components : Value} {named : List (String × Value)}
    {mark : Option Nat} (hc : Components.ofDocument document = .ok components)
    (hs : componentSchemas document = .ok (.map (textFields named) mark))
    (hm : ∀ name schema, named.lookup name = some schema → ∀ ref ∈ mentions schema,
      NamesKind .schemas (.text ref))
    (ref : String) (target : Fields) (hk : NamesKind .schemas (.text ref))
    (hr : Components.resolve components (.text ref) = .ok target) :
    ∀ other ∈ mentions (.ofFields target), NamesKind .schemas (.text other) := by
  obtain ⟨r, hparse, hk⟩ := hk
  obtain ⟨r', hparse', steps, _, hl⟩ := Components.resolve_eq_ok_iff.1 hr
  cases hparse.symm.trans hparse'
  obtain ⟨_, ⟨kind, name⟩, _, hkind, hlookup⟩ := hl.exists_names
  obtain rfl : kind = .schemas := hkind.trans hk
  obtain ⟨own, hlookup⟩ := (lookup_schemas_iff hc hs).1 hlookup
  intro other ho
  exact hm _ _ hlookup other (by rwa [mentions_map])

variable {document : Value} {context : Context}
  (hb : (Context.ofDocument document).result = .ok context)

include hb

theorem exists_resolve_of_declaration {declaration : Declaration}
    (hd : declaration ∈ context.declarations) :
    ∃ fields, Components.resolve context.scope.components (.text declaration.ref) = .ok fields := by
  obtain ⟨_, _, _, _, _, ha⟩ := exists_arranged_of_ofDocument hb
  obtain ⟨_, fields, _, _, _, _, hr, _⟩ := Declaration.exists_of_ofRef (ha.made declaration hd)
  exact ⟨fields, hr⟩

/-- What a declared component mentions is declared. -/
theorem exists_declaration_of_mention {declaration : Declaration}
    (hd : declaration ∈ context.declarations) {fields : Fields} {ref : String}
    (hr : Components.resolve context.scope.components (.text declaration.ref) = .ok fields)
    (hm : ref ∈ mentions (.ofFields fields)) :
    ∃ other ∈ context.declarations, other.ref = ref := by
  obtain ⟨_, _, _, _, _, ha⟩ := exists_arranged_of_ofDocument hb
  obtain ⟨before, after, heq⟩ := List.append_of_mem hd
  obtain ⟨other, ho, rfl⟩ := List.mem_map.1 (ha.mem_before heq hr hm)
  exact ⟨other, heq ▸ List.mem_append_left _ ho, rfl⟩

theorem exists_declaration_of_hasSchema {name : String} {schema : Value}
    (hs : HasSchema document name schema) :
    ∃ declaration ∈ context.declarations, declaration.ref = refTo name := by
  obtain ⟨graph, named, mark, _, hn, ha⟩ := exists_arranged_of_ofDocument hb
  obtain ⟨_, _, hs, hget⟩ := hs
  cases hn.symm.trans hs
  have hentry : ∃ entry ∈ named, entry.1 = name := by
    have hm := Fields.mem_of_get? hget
    obtain ⟨entry, he, heq⟩ := List.mem_map.1 hm
    cases heq
    exact ⟨entry, he, rfl⟩
  obtain ⟨entry, he, rfl⟩ := hentry
  exact List.mem_map.1 ((ha.order.complete _).2 (ha.records.rooted entry he))

/-- What a component schema mentions is declared; or the component is a reference itself, which
    leads on to another schema. -/
theorem declared_or_resolved_of_mention {name ref : String} {schema : Value}
    (hs : HasSchema document name schema) (hm : ref ∈ mentions schema) :
    (∃ declaration ∈ context.declarations, declaration.ref = ref) ∨
      NamesKind .schemas (.text ref) ∧
        ∃ fields, Components.resolve context.scope.components (.text ref) = .ok fields := by
  obtain ⟨declaration, hd, href⟩ := exists_declaration_of_hasSchema hb hs
  obtain ⟨fields, hr⟩ := exists_resolve_of_declaration hb hd
  obtain ⟨graph, named, mark, _, hn, ha⟩ := exists_arranged_of_ofDocument hb
  obtain ⟨_, _, hs, hget⟩ := hs
  cases hn.symm.trans hs
  rw [get?_textFields] at hget
  obtain ⟨r, hparse, steps, hle, hl⟩ := Components.resolve_eq_ok_iff.1 hr
  rw [href] at hparse hl
  cases hl with
  | here hnames _ =>
    obtain ⟨own, hlookup⟩ := ha.records.exists_lookup_of_names hnames
    cases hget.symm.trans hlookup
    rw [mentions_map] at hm
    exact .inl (exists_declaration_of_mention hb hd hr hm)
  | @next _ _ found _ _ hnames htarget hl =>
    obtain ⟨own, hlookup⟩ := ha.records.exists_lookup_of_names hnames
    cases hget.symm.trans hlookup
    obtain ⟨text, rfl⟩ := hl.exists_text
    have ht : Reference.target? (.map found own) = some (.text text) := htarget
    rw [mentions_of_target ht, List.mem_singleton] at hm
    subst hm
    obtain ⟨_, htext, hwritten⟩ := Reference.exists_text_of_parse hparse
    cases htext
    cases Reference.eq_of_parse?_write hwritten
    exact .inr ⟨hl.exists_parse, fields, hl.resolve (by omega)⟩

/-- All declarations are schemas by their kind exactly if the component schemas mention nothing
    else. -/
theorem forall_declarations_iff_forall_mentions :
    (∀ declaration ∈ context.declarations, NamesKind .schemas (.text declaration.ref)) ↔
      ∀ name schema, HasSchema document name schema → ∀ ref ∈ mentions schema,
        NamesKind .schemas (.text ref) := by
  constructor
  · intro h name schema hs ref hm
    rcases declared_or_resolved_of_mention hb hs hm with ⟨declaration, hd, rfl⟩ | ⟨hk, _⟩
    · exact h declaration hd
    · exact hk
  · intro h declaration hd
    obtain ⟨hc, hall, _⟩ := Context.result_ofDocument_eq_ok_iff.1 hb
    obtain ⟨graph, refs, hg, ho, hmade⟩ := result_declarations_eq_ok_iff.1 hall
    obtain ⟨named, mark, walk, hs, hw, rfl⟩ := exists_walk_of_dependencies hg
    have hmentions : ∀ name schema, named.lookup name = some schema → ∀ ref ∈ mentions schema,
        NamesKind .schemas (.text ref) := by
      intro name schema hl
      exact h name schema ⟨_, _, hs, by rw [get?_textFields, hl]⟩
    have hnode : walk.graph.IsNode declaration.ref := by
      have horder := isOrder_of_declarationOrder ho
      refine (horder.complete _).1 ?_
      rw [← map_ref_of_ofRef hmade]
      exact List.mem_map_of_mem hd
    have hwalked := walked_of_walkRoots (namesKind_of_mem_mentions hc hs hmentions)
      (List.nil_append named).symm hmentions (by simp) hw _
      ((covers_of_walkRoots hw).mem_walked hnode)
    obtain ⟨_, _, href⟩ := exists_of_mem_forall₂ hmade hd
    obtain ⟨_, _, hparse, _, _, rfl, _⟩ := Declaration.exists_of_ofRef href
    rcases hwalked with hwalked | ⟨name, hname⟩ | hk
    · cases hwalked
    -- a component schema that no reference led to is walked under its own reference
    · rw [hname] at hparse ⊢
      cases Reference.eq_of_parse?_write hparse
      exact ⟨_, by rw [Reference.parse, hparse], rfl⟩
    · exact hk

end Schema

/-! ## All references that are followed -/

namespace Compile

open Schema Relation

/-- A reference to no declaration leads to a component. -/
def Resolves (scope : Scope) (schema : Value) : Prop :=
  ∀ ref, Reference.target? schema = some ref → scope.find? ref = none →
    ∃ fields, Components.resolve scope.components ref = .ok fields

theorem resolves_of_form {scope : Scope} {R : Relates} {schema : Value} {p : Validation.Presence}
    {e : Expr} (h : Form scope R schema p e) : Resolves scope schema := by
  intro ref ht hf
  cases h with
  | declared ht' hf' =>
    cases ht.symm.trans ht'
    cases hf.symm.trans hf'
  | followed ht' _ hr =>
    cases ht.symm.trans ht'
    exact ⟨_, hr⟩
  | plain ht' => cases ht.symm.trans ht'

/-- On its way to a validator, the compiler has followed every reference that it came to. -/
theorem resolves_of_entered {scope : Scope} {schema inner : Value} {p : Validation.Presence}
    {e : Expr} (h : (compile scope schema p).result = .ok e)
    (hi : ReflTransGen (Enters scope) schema inner) : Resolves scope inner := by
  have hstep : ∀ schema p e,
      Form scope (fun schema _ _ => ∀ inner, ReflTransGen (Enters scope) schema inner →
        Resolves scope inner) schema p e →
      ∀ inner, ReflTransGen (Enters scope) schema inner → Resolves scope inner := by
    intro schema p e hform inner hi
    rcases ReflTransGen.cases_head hi with rfl | ⟨next, hn, hi⟩
    · exact resolves_of_form hform
    · refine forall_entered_of_form (fun hall hstep inner hi => ?_) hform hn inner hi
      exact hall inner (.head hstep hi)
  exact compile_induct hstep h inner hi

end Compile

/-- A reference that is followed, wherever it stands, leads to a component of its own kind. -/
theorem Follows.exists_resolve {document : Value} {context : Context} {position : Position}
    {ref : Value} (hb : (Context.ofDocument document).result = .ok context)
    (h : Follows context position ref) :
    ∃ fields, Components.resolve context.scope.components ref = .ok fields := by
  have hdocument : context.document = document := (Context.result_ofDocument_eq_ok_iff.1 hb).2.2.2.1
  have hoperations := Context.operations_of_ofDocument hb
  have hdeclared : ∀ {ref}, (∃ declaration ∈ context.declarations, declaration.ref = ref) →
      ∃ fields, Components.resolve context.scope.components (.text ref) = .ok fields := by
    rintro ref ⟨declaration, hd, rfl⟩
    exact Schema.exists_resolve_of_declaration hb hd
  subst hdocument
  cases h with
  | @pathItem paths path value _ hp hm ht =>
    obtain ⟨found, hf⟩ := Operation.exists_ofPath_of_ofDocument hoperations hp hm
    have hv : value.isVacant = false := by
      cases value with
      | map fields mark =>
        cases fields with
        | nil => cases ht
        | cons => rfl
      | _ => cases ht
    obtain ⟨resolved, _, _, hr, _⟩ := Operation.exists_of_ofPath hf hv
    exact Operation.exists_resolve_of_resolveValue hr ht
  | parameter ho hs hw hm ht =>
    obtain ⟨_, _, _, he⟩ := Operation.exists_extract_of_offers hoperations ho
    obtain ⟨_, hr⟩ := Operation.resolveValue_of_parameter he hs hw hm
    exact Operation.exists_resolve_of_resolveValue hr ht
  | requestBody ho ht =>
    obtain ⟨_, _, _, he⟩ := Operation.exists_extract_of_offers hoperations ho
    obtain ⟨_, hr⟩ := Operation.resolveValue_of_requestBody he ht
    exact Operation.exists_resolve_of_resolveValue hr ht
  | response ho hr hm ht =>
    obtain ⟨_, _, _, he⟩ := Operation.exists_extract_of_offers hoperations ho
    obtain ⟨_, hr⟩ := Operation.resolveValue_of_response he hr hm
    exact Operation.exists_resolve_of_resolveValue hr ht
  | component hs hm =>
    rcases Schema.declared_or_resolved_of_mention hb hs hm with hd | ⟨_, hr⟩
    · exact hdeclared hd
    · exact hr
  | declaration hd hr hm => exact hdeclared (Schema.exists_declaration_of_mention hb hd hr hm)
  | compiled hc hi ht =>
    cases hf : context.scope.find? ref with
    | none => exact Compile.resolves_of_entered hc hi ref ht hf
    | some declaration =>
      obtain ⟨hd, rfl⟩ := Schema.Scope.mem_of_find? hf
      exact hdeclared ⟨declaration, hd, rfl⟩

/-- Every reference that is followed leads to a component of the kind that it names itself, over
    components of this kind only; its place has no say in it. A chain of references that changes its
    kind is not resolved. And all declarations are schemas exactly if the component schemas mention
    nothing else. -/
theorem followed_within_kind {document : Value} {context : Context}
    (hb : (Context.ofDocument document).result = .ok context) :
    (∀ position ref, Follows context position ref → ∃ r fields steps,
      Reference.parse ref = .ok r ∧ steps ≤ Components.maxDepth ∧
        Components.Leads context.scope.components r.kind ref fields steps) ∧
    (∀ ref r last other steps, Reference.parse ref = .ok r →
      Components.Passes context.scope.components r.kind ref last steps →
      steps ≤ Components.maxDepth → Reference.parse last = .ok other → other.kind ≠ r.kind →
      Components.resolve context.scope.components ref =
        .error (.unresolvedReference ref.display)) ∧
    ((∀ declaration ∈ context.declarations, NamesKind .schemas (.text declaration.ref)) ↔
      ∀ name schema, HasSchema document name schema → ∀ ref ∈ Schema.mentions schema,
        NamesKind .schemas (.text ref)) := by
  refine ⟨fun position ref h => ?_, ?_, Schema.forall_declarations_iff_forall_mentions hb⟩
  · obtain ⟨fields, hr⟩ := h.exists_resolve hb
    obtain ⟨r, hparse, steps, hle, hl⟩ := Components.resolve_eq_ok_iff.1 hr
    exact ⟨r, fields, steps, hparse, hle, hl⟩
  · intro ref r last other steps hr hp hle hl hk
    exact Components.resolve_of_stray hr hp hle hl hk

/-! ## An array of a parameter -/

/-- A reference to a component that is no schema by its kind. -/
def toParameter : Value := .object [("$ref", .text "#/components/parameters/P")]

def parameterItems : List (String × Value) := [("type", .text "array"), ("items", toParameter)]

def queryParameter : List (String × Value) :=
  [("name", .text "p"), ("in", .text "query"),
    ("schema", .object [("type", .text "string")])]

def strayComponents : Value :=
  .object [("schemas", .object [("A", .object parameterItems)]),
    ("parameters", .object [("P", .object queryParameter)])]

def strayDocument : Value :=
  .object [("openapi", .text "3.0.3"), ("paths", .object []), ("components", strayComponents)]

/-- The parameter is declared before the array. -/
def strayContext : Context where
  document := strayDocument
  scope.components := strayComponents
  scope.declarations :=
    [⟨"P", "P", "#/components/parameters/P", Schema.textFields queryParameter⟩,
      ⟨"A", "A", "#/components/schemas/A", Schema.textFields parameterItems⟩]
  operations := []

open Schema in
theorem dependencies_stray : dependencies strayDocument strayComponents =
    .ok [("#/components/schemas/A", ["#/components/parameters/P"])] := by
  have hA : refTo "A" = "#/components/schemas/A" := by decide
  have hwalk : walkRoot strayComponents ⟨[("#/components/schemas/A", [])], []⟩ "A"
      (.object parameterItems) =
      .ok ⟨[("#/components/schemas/A", ["#/components/parameters/P"])],
        ["#/components/schemas/A", "#/components/parameters/P"]⟩ := by
    rw [walkRoot_of_not_walked (by simp), hA]
    refine (Walk.run_map rfl rfl).trans ?_
    refine (Walk.run_follow rfl (by simp) rfl).trans ?_
    exact (Walk.run_map rfl rfl).trans (Walk.run_nil ..)
  have hs : componentSchemas strayDocument =
      .ok (.map (textFields [("A", .object parameterItems)]) none) := rfl
  have hfold : [("A", Value.object parameterItems)].foldlM
      (fun walk (entry : String × Value) => walkRoot strayComponents walk entry.1 entry.2)
      ⟨[("A", Value.object parameterItems)].map fun entry => (refTo entry.1, []), []⟩ =
      .ok ⟨[("#/components/schemas/A", ["#/components/parameters/P"])],
        ["#/components/schemas/A", "#/components/parameters/P"]⟩ := by
    simp only [List.map_cons, List.map_nil, List.foldlM_cons, List.foldlM_nil, hA]
    rw [hwalk, ok_bind]
    rfl
  exact dependencies_of_walk hs hfold

theorem ofDocument_stray : (Context.ofDocument strayDocument).result = .ok strayContext := by
  have horder : Schema.Graph.order [("#/components/schemas/A", ["#/components/parameters/P"])] =
      .ok ["#/components/parameters/P", "#/components/schemas/A"] := by
    simp [Schema.Graph.order, Schema.Graph.allNodes, Schema.Graph.addOnce,
      Schema.Graph.searchFrom, Schema.Graph.search, Schema.Graph.edges, Schema.Path.nodes,
      List.lookup_cons, bind, Except.bind, pure, Except.pure]
  exact Context.result_ofDocument rfl dependencies_stray horder rfl rfl

theorem exists_moduleText_stray : ∃ text, (Emission.moduleText strayContext).result = .ok text :=
  ⟨_, rfl⟩

theorem follows_stray : Follows strayContext .schema (.text "#/components/parameters/P") := by
  have hs : HasSchema strayDocument "A" (.object parameterItems) := ⟨_, _, rfl, rfl⟩
  have hmentions : Schema.mentions (.object parameterItems) = ["#/components/parameters/P"] := by
    have hinside : Schema.inside (.object parameterItems) = [toParameter] := rfl
    have ht : Reference.target? toParameter = some (.text "#/components/parameters/P") := rfl
    rw [Schema.mentions_of_not_target rfl, hinside, List.flatMap_singleton,
      Schema.mentions_of_target ht]
  exact .component hs (hmentions ▸ List.mem_singleton_self _)

theorem followed_within_kind_stray :
    (Context.ofDocument strayDocument).result = .ok strayContext ∧
      (∃ r fields steps, Reference.parse (.text "#/components/parameters/P") = .ok r ∧
        steps ≤ Components.maxDepth ∧
        Components.Leads strayComponents r.kind (.text "#/components/parameters/P") fields steps) ∧
      ((∀ declaration ∈ strayContext.declarations, NamesKind .schemas (.text declaration.ref)) ↔
        ∀ name schema, HasSchema strayDocument name schema → ∀ ref ∈ Schema.mentions schema,
          NamesKind .schemas (.text ref)) := by
  obtain ⟨hkinds, _, hdeclared⟩ := followed_within_kind ofDocument_stray
  exact ⟨ofDocument_stray, hkinds _ _ follows_stray, hdeclared⟩

/-- A module is written for a document in which a reference to a parameter stands in the place of a
    schema, and the parameter is declared. -/
theorem exists_stray_declaration :
    ∃ document context text, (Context.ofDocument document).result = .ok context ∧
      (Emission.moduleText context).result = .ok text ∧
      (∃ position ref, Follows context position ref ∧ ¬ NamesKind position.kind ref) ∧
      ∃ declaration ∈ context.declarations, NamesKind .parameters (.text declaration.ref) := by
  obtain ⟨text, ht⟩ := exists_moduleText_stray
  have hparse : Reference.parse (.text "#/components/parameters/P") = .ok ⟨.parameters, "P"⟩ := rfl
  have hstray : ¬ NamesKind .schemas (.text "#/components/parameters/P") := by
    rintro ⟨r, hr, hk⟩
    cases hparse.symm.trans hr
    cases hk
  exact ⟨strayDocument, strayContext, text, ofDocument_stray, ht,
    ⟨.schema, _, follows_stray, hstray⟩, _, List.mem_cons_self, _, hparse, rfl⟩

end RestContract
