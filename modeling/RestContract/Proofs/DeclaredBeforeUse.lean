import RestContract.Proofs.ContractNames
import RestContract.Proofs.ModuleText

/-!
# Declared before use

A declaration stands after everything its component mentions. Its validator cites more than that
where the compiler goes into a schema that the walk for dependencies passes over: the members that a
schema has as an object when its list of types holds an array with items as well, and the items of
an array whose tag stands in a list inside a list of types. And a component whose keys are bytes is
compiled with texts for keys, but walked as it is.

What a declaration cites is declared before it exactly if this holds of what it cites in such a
place.
-/

namespace RestContract.Compile

open Schema Expr

/-- The walk for dependencies passes over a schema that can be taken from another one. -/
inductive PassedOver (fields : Fields) (schema : Value) : Prop where
  /-- A member of an object, where the schema is also one of an array with items. -/
  | besideItems {members : List Value} (ht : isOrHolds (fields.get "type") "array" = true)
    (hi : (fields.get "items").isNull = false) (hm : objectMembers fields = .ok members)
    (h : schema ∈ members)
  /-- The items of an array whose tag is not in the list of types itself. -/
  | deepItems (ht : isOrHolds (fields.get "type") "array" = false)
    (h : schema = fields.get "items")

/-- A schema cites a declaration in a place that the walk for dependencies passes over. -/
inductive Strays (scope : Scope) : Value → Declaration → Prop where
  | here {fields : Fields} {mark : Option Nat} {schema : Value} {declaration : Declaration}
    (ht : Reference.target? (.map fields mark) = none) (hi : Taken fields (fields.get "type") schema)
    (hp : PassedOver fields schema) (h : Cites scope schema declaration) :
    Strays scope (.map fields mark) declaration
  | inner {fields : Fields} {mark : Option Nat} {schema : Value} {declaration : Declaration}
    (ht : Reference.target? (.map fields mark) = none) (hi : Taken fields (fields.get "type") schema)
    (h : Strays scope schema declaration) : Strays scope (.map fields mark) declaration

theorem Strays.cites {scope : Scope} {schema : Value} {declaration : Declaration}
    (h : Strays scope schema declaration) : Cites scope schema declaration := by
  induction h with
  | here ht hi _ h => exact .plain ht hi h
  | inner ht hi _ ih => exact .plain ht hi ih

theorem additionalSchema_of_map {fields additional : Fields} {mark : Option Nat}
    (ha : fields.get "additionalProperties" = .map additional mark) :
    additionalSchema fields = [.map additional mark] := by
  rw [additionalSchema, ha]

theorem isNull_of_isVacant {value : Value} (h : value.isVacant = false) : value.isNull = false := by
  cases value with
  | scalar s => cases s <;> first | rfl | cases h
  | _ => rfl

/-- A schema is taken as a member of a composition, as items, or as a member of an object; a record
    of empty schemas does not even need to be one of an object. -/
theorem place_of_taken {fields : Fields} {type schema : Value}
    (h : Taken fields type schema) :
    (∃ members parts, composition fields = some members ∧ members.asParts = .ok parts ∧
      schema ∈ parts) ∨
      schema = fields.get "items" ∧ (fields.get "items").isNull = false ∨
      (∃ members, objectMembers fields = .ok members ∧ schema ∈ members) ∨
      ∃ mark, schema = .map [] mark := by
  induction h with
  | member hc hp hm => exact .inl ⟨_, _, hc, hp, hm⟩
  | tag _ _ ih => exact ih
  | items hu hi => exact .inr (.inl ⟨rfl, hi⟩)
  | @additional type additional mark hu hs ht hp ha =>
    right; right
    -- A map without keywords counts as nothing, so it alone does not make the schema an object.
    by_cases hempty : additional = []
    · exact .inr ⟨mark, by rw [hempty]⟩
    · left
      have hlike : isObjectLike fields = true := by
        simp [isObjectLike, ha, Value.isVacant, hempty]
      have hnone : (fields.get "properties").orEmptyMap = .ofFields [] := if_pos hp
      refine ⟨[] ++ additionalSchema fields, ?_, ?_⟩
      · rw [objectMembers, if_pos hlike, hnone]
        rfl
      · rw [additionalSchema_of_map ha]
        exact List.mem_singleton_self _
  | @property type schema key entries hu hs ht hn he hm =>
    right; right; left
    have hvacant : (fields.get "properties").isVacant = false := by
      by_contra hv
      rw [Bool.not_eq_false] at hv
      rw [Value.orEmptyMap, if_pos hv] at he
      cases he
      cases hm
    have hlike : isObjectLike fields = true := by
      simp [isObjectLike, isNull_of_isVacant hvacant]
    refine ⟨entries.map Prod.snd ++ additionalSchema fields, ?_, ?_⟩
    · rw [objectMembers, if_pos hlike, he]
      rfl
    · exact List.mem_append_left _ (List.mem_map_of_mem hm)

/-- The composition that a schema is compiled by is one of those that the walk goes through. -/
theorem exists_keyword_of_composition {fields : Fields} {members : Value} {parts : List Value}
    (hc : composition fields = some members) (hp : members.asParts = .ok parts) :
    ∃ keyword ∈ compositionKeywords, Schema.members fields keyword = .ok parts := by
  have hkeyword : ∀ keyword ∈ compositionKeywords, (fields.get keyword).isVacant = false →
      fields.get keyword = members →
      ∃ keyword ∈ compositionKeywords, Schema.members fields keyword = .ok parts := by
    rintro keyword hk hv rfl
    refine ⟨keyword, hk, ?_⟩
    rw [Schema.members, Value.orEmptyList, hv]
    exact hp
  unfold composition at hc
  split at hc
  · next hv => exact hkeyword _ (by simp [compositionKeywords]) hv (Option.some.inj hc)
  split at hc
  · next hv => exact hkeyword _ (by simp [compositionKeywords]) hv (Option.some.inj hc)
  split at hc
  · next hv => exact hkeyword _ (by simp [compositionKeywords]) hv (Option.some.inj hc)
  · cases hc

theorem mem_composed {fields : Fields} {members schema : Value} {parts composed : List Value}
    (hc : composition fields = some members) (hp : members.asParts = .ok parts)
    (hm : schema ∈ parts) (h : compositionMembers fields = .ok composed) : schema ∈ composed := by
  obtain ⟨lists, hl, h⟩ := exists_of_bind_eq_ok h
  cases h
  obtain ⟨keyword, hk, hmembers⟩ := exists_keyword_of_composition hc hp
  obtain ⟨list, hlist, heq⟩ := exists_of_mem_forall₂ (mapM_eq_ok_iff.1 hl).flip hk
  cases hmembers.symm.trans heq
  exact List.mem_flatten.2 ⟨parts, hlist, hm⟩

/-- What is taken from a schema stands directly inside it or is passed over, empty schemas aside. -/
theorem mem_nested_or_passedOver {fields : Fields} {type schema : Value} {inner : List Value}
    (hn : nested fields = .ok inner) (h : Taken fields type schema) :
    schema ∈ inner ∨ PassedOver fields schema ∨ ∃ mark, schema = .map [] mark := by
  obtain ⟨composed, hc, hn⟩ := exists_of_bind_eq_ok hn
  dsimp only at hn
  rcases place_of_taken h with ⟨members, parts, hm, hp, hs⟩ | ⟨rfl, hi⟩ | ⟨members, hm, hs⟩ | hempty
  · have hcomposed := mem_composed hm hp hs hc
    left
    split at hn
    · cases hn
      exact List.mem_append_left _ hcomposed
    · obtain ⟨others, _, hn⟩ := exists_of_bind_eq_ok hn
      cases hn
      exact List.mem_append_left _ hcomposed
  · cases ha : isOrHolds (fields.get "type") "array" with
    | true =>
      rw [ha, hi] at hn
      cases hn
      exact .inl (List.mem_append_right _ (List.mem_singleton_self _))
    | false => exact .inr (.inl (.deepItems ha rfl))
  · split at hn
    · next ha =>
      simp only [Bool.and_eq_true, Bool.not_eq_true'] at ha
      exact .inr (.inl (.besideItems ha.1 ha.2 hm hs))
    · obtain ⟨others, ho, hn⟩ := exists_of_bind_eq_ok hn
      cases hn
      cases hm.symm.trans ho
      exact .inl (List.mem_append_right _ hs)
  · exact .inr (.inr hempty)

theorem not_taken_nil {schema : Value} : ¬ Taken [] (Fields.get [] "type") schema := by
  have hu : Typed [] := ⟨rfl, rfl⟩
  refine not_taken_of_scalar hu ?_ ?_ ?_
  · intro first rest mark heq
    cases heq
  · intro heq
    cases heq
  · rintro (heq | ⟨hp, _⟩)
    · cases heq
    · cases hp

theorem not_cites_empty {scope : Scope} {mark : Option Nat} {declaration : Declaration} :
    ¬ Cites scope (.map [] mark) declaration := by
  intro h
  obtain ⟨schema, hm, _⟩ := (cites_map_iff scope rfl).1 h
  exact not_taken_nil hm

/-- A reference that can be resolved is declared already, where everything is that it mentions. -/
theorem exists_find?_of_resolve {scope : Scope} {before after : List Declaration}
    (heq : scope.declarations = before ++ after) {schema ref : Value} {fields : Fields}
    (ht : Reference.target? schema = some ref)
    (hr : Components.resolve scope.components ref = .ok fields)
    (hm : ∀ ref ∈ mentions schema, ref ∈ before.map (·.ref)) :
    ∃ declaration, scope.find? ref = some declaration := by
  obtain ⟨r, hp, _⟩ := exists_of_bind_eq_ok hr
  obtain ⟨text, rfl, _⟩ := Reference.exists_text_of_parse hp
  obtain ⟨found, _, hfound⟩ := Scope.exists_find?_of_mem heq
    (hm text (by rw [mentions_of_target ht]; simp))
  exact ⟨found, hfound⟩

theorem mem_mentions_of_nested {fields : Fields} {mark : Option Nat} {parts : List Value}
    {schema : Value} {ref : String} (ht : Reference.target? (.map fields mark) = none)
    (hn : nested fields = .ok parts) (hs : schema ∈ parts) (hr : ref ∈ mentions schema) :
    ref ∈ mentions (.map fields mark) := by
  rw [mentions_of_not_target ht, inside_eq ht hn]
  exact List.mem_flatMap.2 ⟨schema, hs, hr⟩

/-- Where everything that a schema mentions is declared already, the schema cites what is declared
    already, except in places that the walk for dependencies passes over. -/
theorem Cites.mem_or_strays {scope : Scope} {before after : List Declaration}
    (heq : scope.declarations = before ++ after) {schema : Value} {declaration : Declaration}
    (h : Cites scope schema declaration) (hread : Readable schema)
    (hm : ∀ ref ∈ mentions schema, ref ∈ before.map (·.ref)) :
    declaration ∈ before ∨ Strays scope schema declaration := by
  induction h with
  | @declared schema ref declaration ht hf =>
    obtain ⟨_, rfl⟩ := Scope.mem_of_find? hf
    obtain ⟨found, hb, hfound⟩ := Scope.exists_find?_of_mem heq
      (hm declaration.ref (by rw [mentions_of_target ht]; simp))
    cases hf.symm.trans hfound
    exact .inl hb
  | followed ht hf hr =>
    -- A reference that the walk has met is declared, so it is not followed any more.
    obtain ⟨_, hfound⟩ := exists_find?_of_resolve heq ht hr hm
    cases hf.symm.trans hfound
  | @plain fields mark inner declaration ht hi h ih =>
    cases hread with
    | reference ht' => cases ht.symm.trans ht'
    | leaf hl => exact absurd rfl (hl fields mark)
    | @map _ parts _ _ hn hall =>
      rcases mem_nested_or_passedOver hn hi with hinner | hpassed | ⟨emptyMark, rfl⟩
      · have hmentions : ∀ ref ∈ mentions inner, ref ∈ before.map (·.ref) :=
          fun ref hr => hm ref (mem_mentions_of_nested ht hn hinner hr)
        exact (ih (hall inner hinner) hmentions).imp_right (.inner ht hi)
      · exact .inr (.here ht hi hpassed h)
      · exact absurd h not_cites_empty

/-- A declaration cites another one, but the walk for dependencies has not met the citation. -/
inductive Overlooks (scope : Scope) (declaration : Declaration) : Declaration → Prop where
  | strayed {cited : Declaration}
    (hr : Components.resolve scope.components (.text declaration.ref) = .ok declaration.schema)
    (h : Strays scope (.ofFields declaration.schema) cited) : Overlooks scope declaration cited
  /-- A component whose keys are not all texts is not declared as it is walked. -/
  | converted {fields : Fields} {cited : Declaration}
    (hr : Components.resolve scope.components (.text declaration.ref) = .ok fields)
    (hk : fields.hasTextKeys = false) (h : Cites scope (.ofFields declaration.schema) cited) :
    Overlooks scope declaration cited

theorem Overlooks.cites {scope : Scope} {declaration cited : Declaration}
    (h : Overlooks scope declaration cited) :
    Cites scope (.ofFields declaration.schema) cited := by
  cases h with
  | strayed _ h => exact h.cites
  | converted _ _ h => exact h

/-- A declaration stands after everything it cites that the walk for dependencies has met. -/
theorem mem_before_or_overlooks {scope : Scope} {graph : Graph} {named : List (String × Value)}
    {before after : List Declaration} {declaration cited : Declaration}
    (ha : scope.Arranged graph named) (heq : scope.declarations = before ++ declaration :: after)
    (h : Cites scope (.ofFields declaration.schema) cited) :
    cited ∈ before ∨ Overlooks scope declaration cited := by
  have hd : declaration ∈ scope.declarations := heq ▸ List.mem_append_right _ List.mem_cons_self
  obtain ⟨_, fields, _, _, _, _, hr, hs⟩ := Declaration.exists_of_ofRef (ha.made _ hd)
  cases hk : fields.hasTextKeys with
  | false => exact .inr (.converted hr hk h)
  | true =>
    rw [Fields.recordFields?, if_pos hk] at hs
    cases hs
    have hmentions : ∀ ref ∈ mentions (.ofFields declaration.schema), ref ∈ before.map (·.ref) :=
      fun ref hm => ha.mem_before heq hr hm
    exact (h.mem_or_strays heq (ha.readable hd hr) hmentions).imp_right (.strayed hr)

/-- A name is the identifier of one of some declarations. -/
def DeclaredIn (declarations : List Declaration) (name : String) : Prop :=
  ∃ declaration ∈ declarations, Name.identifier declaration.name = name

theorem getElem?_of_forall₂ {α β : Type} {R : α → β → Prop} {xs : List α} {ys : List β}
    (h : List.Forall₂ R xs ys) {i : Nat} {x : α} {y : β} (hx : xs[i]? = some x)
    (hy : ys[i]? = some y) : R x y := by
  induction h generalizing i with
  | nil => cases hx
  | cons hxy _ ih =>
    cases i with
    | zero =>
      cases hx
      cases hy
      exact hxy
    | succ i => exact ih hx hy

/-- The text of a module is written from one validator for each declaration. A declaration stands
    after everything that its validator uses exactly if it stands after what it cites where the walk
    for dependencies does not come; and the router uses nothing but declarations. -/
theorem declaredBefore_iff {document : Value} {context : Context} {text : String}
    (hc : (Context.ofDocument document).result = .ok context)
    (ht : (Emission.moduleText context).result = .ok text) :
    ∃ validators entries, Emission.Writes context text validators entries ∧
      (∀ (i : Nat) declaration e, context.declarations[i]? = some declaration →
        validators[i]? = some e →
          ((∀ name ∈ names e, DeclaredIn (context.declarations.take i) name) ↔
            ∀ cited, Overlooks context.scope declaration cited →
              DeclaredIn (context.declarations.take i) (Name.identifier cited.name))) ∧
      ∀ name ∈ names (Contract.router entries), DeclaredIn context.declarations name := by
  obtain ⟨graph, named, _, _, _, ha⟩ := exists_arranged_of_ofDocument hc
  obtain ⟨validators, entries, hw⟩ := Emission.writes_of_moduleText ht
  have hidentifier : ∀ declaration ∈ context.declarations,
      Name.identifier declaration.name = declaration.identifier := by
    intro declaration hd
    obtain ⟨r, _, _, hn, hi, _⟩ := Declaration.exists_of_ofRef (ha.made declaration hd)
    rw [hn, hi]
  refine ⟨validators, entries, hw, fun i declaration e hd he => ?_, fun name hn => ?_⟩
  · have hcompiled := getElem?_of_forall₂ hw.compiled hd he
    obtain ⟨hi, hget⟩ := List.getElem?_eq_some_iff.1 hd
    have hsplit : context.declarations =
        context.declarations.take i ++ declaration :: context.declarations.drop (i + 1) := by
      rw [← hget, List.getElem_cons_drop, List.take_append_drop]
    constructor
    · intro hnames cited ho
      rw [hidentifier cited ho.cites.mem_declarations]
      exact hnames _ ((mem_names_compile_iff hcompiled _).2 ⟨cited, ho.cites, rfl⟩)
    · intro hoverlooked name hn
      obtain ⟨cited, hcites, rfl⟩ := (mem_names_compile_iff hcompiled name).1 hn
      rw [← hidentifier cited hcites.mem_declarations]
      rcases mem_before_or_overlooks ha hsplit hcites with hb | ho
      · exact ⟨cited, hb, rfl⟩
      · exact hoverlooked cited ho
  · obtain ⟨declaration, hd, rfl⟩ := Contract.usesDeclared_router hw.assembled name hn
    exact ⟨declaration, hd, hidentifier declaration hd⟩

def plainText : Value := .object [("type", .text "string")]

/-- A schema that is one of an array with items, and one of an object whose property is a
    reference. -/
def twofold : List (String × Value) :=
  [("type", .ofItems [.text "array", .text "object"]), ("items", plainText),
    ("properties", .object [("b", .object [("$ref", .text "#/components/schemas/B")])])]

def twofoldSchemas : List (String × Value) := [("A", .object twofold), ("B", plainText)]

def twofoldScope : Scope where
  components := .object [("schemas", .object twofoldSchemas)]
  declarations :=
    [⟨"A", "A", "#/components/schemas/A", textFields twofold⟩,
      ⟨"B", "B", "#/components/schemas/B", textFields [("type", .text "string")]⟩]

def twofoldContext : Context := ⟨documentOf twofoldSchemas, twofoldScope, []⟩

/-- The walk for dependencies does not come to the property. -/
theorem dependencies_twofold : dependencies (documentOf twofoldSchemas) twofoldScope.components =
    .ok [("#/components/schemas/A", []), ("#/components/schemas/B", [])] := by
  have hA : refTo "A" = "#/components/schemas/A" := by decide
  have hB : refTo "B" = "#/components/schemas/B" := by decide
  have hfirst : ∀ graph, walkRoot twofoldScope.components ⟨graph, []⟩ "A" (.object twofold) =
      .ok ⟨graph, ["#/components/schemas/A"]⟩ := by
    intro graph
    rw [walkRoot_of_not_walked (by simp), hA]
    refine (Walk.run_map rfl rfl).trans ?_
    exact (Walk.run_map rfl rfl).trans (Walk.run_nil ..)
  have hsecond : ∀ graph, walkRoot twofoldScope.components ⟨graph, ["#/components/schemas/A"]⟩ "B"
      plainText = .ok ⟨graph, ["#/components/schemas/A", "#/components/schemas/B"]⟩ := by
    intro graph
    rw [walkRoot_of_not_walked (by simp [hB]), hB]
    exact (Walk.run_map rfl rfl).trans (Walk.run_nil ..)
  have hs : componentSchemas (documentOf twofoldSchemas) =
      .ok (.map (textFields twofoldSchemas) none) := rfl
  have hwalk : twofoldSchemas.foldlM (fun walk (entry : String × Value) =>
      walkRoot twofoldScope.components walk entry.1 entry.2)
      ⟨twofoldSchemas.map fun entry => (refTo entry.1, []), []⟩ =
      .ok ⟨[("#/components/schemas/A", []), ("#/components/schemas/B", [])],
        ["#/components/schemas/A", "#/components/schemas/B"]⟩ := by
    simp only [twofoldSchemas, List.map_cons, List.map_nil, List.foldlM_cons, List.foldlM_nil, hA, hB]
    rw [hfirst, ok_bind, hsecond, ok_bind]
    rfl
  exact dependencies_of_walk hs hwalk

theorem ofDocument_twofold :
    (Context.ofDocument (documentOf twofoldSchemas)).result = .ok twofoldContext := by
  have horder : Graph.order [("#/components/schemas/A", []), ("#/components/schemas/B", [])] =
      .ok ["#/components/schemas/A", "#/components/schemas/B"] :=
    @Graph.order_of_no_targets ["#/components/schemas/A", "#/components/schemas/B"] (by decide)
  have hdeclared : ["#/components/schemas/A", "#/components/schemas/B"].mapM
      (Declaration.ofRef twofoldScope.components) = .ok twofoldScope.declarations := rfl
  exact Context.result_ofDocument rfl dependencies_twofold horder hdeclared rfl

theorem exists_moduleText_twofold : ∃ text, (Emission.moduleText twofoldContext).result = .ok text :=
  ⟨_, rfl⟩

theorem declaredBefore_iff_twofold :
    ∃ text validators entries, Emission.Writes twofoldContext text validators entries ∧
      (∀ (i : Nat) declaration e, twofoldContext.declarations[i]? = some declaration →
        validators[i]? = some e →
          ((∀ name ∈ names e, DeclaredIn (twofoldContext.declarations.take i) name) ↔
            ∀ cited, Overlooks twofoldContext.scope declaration cited →
              DeclaredIn (twofoldContext.declarations.take i) (Name.identifier cited.name))) ∧
      ∀ name ∈ names (Contract.router entries), DeclaredIn twofoldContext.declarations name := by
  obtain ⟨text, ht⟩ := exists_moduleText_twofold
  exact ⟨text, declaredBefore_iff ofDocument_twofold ht⟩

/-- The validator of the first declaration uses the identifier of the second. -/
theorem used_before_declared :
    (Context.ofDocument (documentOf twofoldSchemas)).result = .ok twofoldContext ∧
      ∃ text validators entries, (Emission.moduleText twofoldContext).result = .ok text ∧
        Emission.Writes twofoldContext text validators entries ∧
        ∃ e ∈ validators[0]?, "B" ∈ names e ∧ ¬ DeclaredIn (twofoldContext.declarations.take 0) "B" := by
  refine ⟨ofDocument_twofold, ?_⟩
  obtain ⟨text, ht⟩ := exists_moduleText_twofold
  obtain ⟨validators, entries, hw⟩ := Emission.writes_of_moduleText ht
  have hcompiled : ∃ e, (compile twofoldScope (.ofFields (textFields twofold)) .unstated).result = .ok e ∧
      "B" ∈ names e := ⟨_, rfl, by decide⟩
  obtain ⟨e, he, hn⟩ := hcompiled
  refine ⟨text, validators, entries, ht, hw, e, ?_, hn, fun ⟨_, hd, _⟩ => by cases hd⟩
  have hall := hw.compiled
  cases hall with
  | cons hfirst _ =>
    cases he.symm.trans hfirst
    rfl

end RestContract.Compile
