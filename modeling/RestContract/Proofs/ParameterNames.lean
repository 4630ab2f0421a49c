import RestContract.Proofs.MergedParameters

/-!
# Names of parameters

An entry has an object for each place that its operation has parameters in, with one property for
each of them, in their order and under their names. Parameters are told apart as they are written,
and their references are resolved afterwards. So an operation that gives a parameter of its path
anew, or refers to one that its path has written out, has both, and the object has one key twice.
-/

namespace RestContract

namespace Contract

open Validation

/-- The object for the parameters of a place, if the entry has one. -/
def Entry.parameters (entry : Entry) : Place → Option Expr
  | .header => entry.headers
  | .query => entry.query
  | .path => entry.pathParams

/-- A parameter stands in a place. -/
def StandsIn (place : Place) (fields : Fields) : Prop :=
  Place.ofValue? (fields.get "in") = some place

instance (place : Place) (fields : Fields) : Decidable (StandsIn place fields) :=
  inferInstanceAs (Decidable (_ = _))

/-- What stands before the colon of a property. -/
def label : Property → Value
  | .shorthand name => .text name
  | .valued key _ => key

/-- A property is that of a parameter: it has the name of the parameter and the validator of its
    schema. -/
def IsPropertyOf (scope : Schema.Scope) (fields : Fields) (property : Property) : Prop :=
  ∃ name e p, fields.get? "name" = some name ∧
    (Compile.compile scope (fields.get "schema") p).result = .ok e ∧ property = .valued name e

/-- The object of some properties, if there are any. -/
def objectOf : List Property → Option Expr
  | [] => none
  | properties => some (Expr.z "object" [.object properties])

variable {scope : Schema.Scope} {operation : Operation} {place : Place} {fields : Fields}

theorem isPropertyOf_of_parameter {property : Property}
    (h : (parameter scope place fields).result = .ok property) :
    IsPropertyOf scope fields property := by
  unfold parameter at h
  dsimp only at h
  split at h
  · obtain ⟨_, _, h⟩ := Traced.exists_of_result_bind h
    cases h
  · split at h
    · cases h
    · next name hname =>
      obtain ⟨e, he, h⟩ := Traced.exists_of_result_bind h
      cases h
      exact ⟨name, e, _, hname, he, rfl⟩

theorem eq_none_or_of_placed {made : Option (Place × Property)}
    (h : (placed scope operation fields).result = .ok made) :
    (Place.ofValue? (fields.get "in") = none ∧ made = none) ∨
      ∃ place property, StandsIn place fields ∧ IsPropertyOf scope fields property ∧
        made = some (place, property) := by
  unfold placed at h
  dsimp only at h
  split at h
  · next hcookie =>
    obtain ⟨_, _, h⟩ := Traced.exists_of_result_bind h
    cases h
    rw [Compile.eq_text_of_isText hcookie]
    exact .inl ⟨rfl, rfl⟩
  · split at h
    · next hnone =>
      cases h
      exact .inl ⟨hnone, rfl⟩
    · next place hplace =>
      obtain ⟨property, hp, h⟩ := Traced.exists_of_result_bind h
      cases h
      exact .inr ⟨place, property, hplace, isPropertyOf_of_parameter hp, rfl⟩

/-- The properties of a place. -/
def propertiesAt (place : Place) (all : List (Place × Property)) : List Property :=
  all.filterMap fun (p, property) => if p = place then some property else none

theorem group_eq (place : Place) (all : List (Place × Property)) :
    group place all = objectOf (propertiesAt place all) := rfl

theorem propertiesAt_cons (place : Place) (entry : Place × Property)
    (rest : List (Place × Property)) : propertiesAt place (entry :: rest) =
      if entry.1 = place then entry.2 :: propertiesAt place rest else propertiesAt place rest := by
  by_cases h : entry.1 = place <;> simp [propertiesAt, h]

theorem forall₂_propertiesAt {parameters : List Fields} {made : List (Option (Place × Property))}
    (h : List.Forall₂ (fun fields made => (placed scope operation fields).result = .ok made)
      parameters made) (place : Place) :
    List.Forall₂ (IsPropertyOf scope) (parameters.filter (StandsIn place))
      (propertiesAt place (made.filterMap id)) := by
  induction h with
  | nil => exact .nil
  | @cons fields made _ _ hfirst _ ih =>
    rcases eq_none_or_of_placed hfirst with ⟨hnone, rfl⟩ | ⟨other, property, hin, hp, rfl⟩
    · rw [List.filter_cons_of_neg (by simp [StandsIn, hnone])]
      exact ih
    · rw [List.filterMap_cons_some (f := id) rfl, propertiesAt_cons]
      by_cases heq : other = place
      · subst heq
        rw [List.filter_cons_of_pos (by simpa using hin), if_pos rfl]
        exact .cons hp ih
      · have hout : ¬ StandsIn place fields := fun h => heq (Option.some.inj (hin.symm.trans h))
        rw [List.filter_cons_of_neg (by simpa using hout), if_neg heq]
        exact ih

theorem exists_of_assemble {entry : Entry} (h : (assemble scope operation).result = .ok entry)
    (place : Place) : ∃ properties, entry.parameters place = objectOf properties ∧
      List.Forall₂ (IsPropertyOf scope) (operation.parameters.filter (StandsIn place))
        properties := by
  obtain ⟨made, hm, h⟩ := Traced.exists_of_result_bind h
  obtain ⟨_, _, h⟩ := Traced.exists_of_result_bind h
  obtain ⟨_, _, h⟩ := Traced.exists_of_result_bind h
  cases h
  refine ⟨propertiesAt place (made.filterMap id), ?_,
    forall₂_propertiesAt (Traced.result_mapM_eq_ok_iff.1 hm) place⟩
  cases place <;> exact group_eq _ _

/-- Two parameters have one name. -/
def SameName (a b : Fields) : Prop := a.get? "name" = b.get? "name"

theorem nodup_labels_iff {parameters : List Fields} {properties : List Property}
    (h : List.Forall₂ (IsPropertyOf scope) parameters properties) :
    (properties.map label).Nodup ↔ parameters.Pairwise fun a b => ¬ SameName a b := by
  have hlabels : (properties.map label).map some = parameters.map (·.get? "name") := by
    induction h with
    | nil => rfl
    | cons hfirst _ ih =>
      obtain ⟨name, e, p, hname, _, rfl⟩ := hfirst
      rw [List.map_cons, List.map_cons, List.map_cons, ih, hname]
      rfl
  rw [← List.nodup_map_iff (Option.some_injective Value), hlabels, List.Nodup, List.pairwise_map]
  rfl

end Contract

/-! ## Parameters as they are written -/

theorem Value.pairwise_dedup (items : List Value) :
    (dedup items).Pairwise fun a b => a.same b = false := by
  induction items using List.reverseRecOn with
  | nil => exact .nil
  | append_singleton items last ih =>
    rw [dedup_concat]
    split
    · exact ih
    · next hkept =>
      rw [List.pairwise_append]
      simp only [List.any_eq_true, not_exists, not_and, Bool.not_eq_true] at hkept
      simpa using ⟨ih, hkept⟩

/-- A relation that holds from each member of a list to each later one carries over to their
    partners in a related list. -/
theorem pairwise_of_forall₂ {α β : Type} {R : α → β → Prop} {S : α → α → Prop} {T : β → β → Prop}
    {xs : List α} {ys : List β} (h : List.Forall₂ R xs ys) (hs : xs.Pairwise S)
    (ht : ∀ a ∈ xs, ∀ b ∈ xs, ∀ x y, S a b → R a x → R b y → T x y) : ys.Pairwise T := by
  induction h with
  | nil => exact .nil
  | @cons a x as bs hfirst hrest ih =>
    rw [List.pairwise_cons] at hs
    rw [List.pairwise_cons]
    constructor
    · intro y hy
      obtain ⟨b, hb, hby⟩ := exists_of_mem_forall₂ hrest hy
      exact ht a List.mem_cons_self b (List.mem_cons_of_mem _ hb) x y (hs.1 b hb) hfirst hby
    · apply ih hs.2
      intro c hc d hd
      exact ht c (List.mem_cons_of_mem _ hc) d (List.mem_cons_of_mem _ hd)

namespace Contract

/-- Two values are, or refer to, parameters of one name in a place. -/
def Clash (components : Value) (place : Place) (a b : Value) : Prop :=
  ∃ x y, Copies components a x ∧ Copies components b y ∧ StandsIn place x ∧ StandsIn place y ∧
    SameName x y

/-- No name stands twice in a place if all that is listed for one name is the same as it is
    written. -/
theorem pairwise_names {components : Value} {listed : List Value} {parameters : List Fields}
    {place : Place} (h : List.Forall₂ (Copies components) (Value.dedup listed) parameters)
    (hs : ∀ a ∈ listed, ∀ b ∈ listed, Clash components place a b → a.same b = true) :
    (parameters.filter (StandsIn place)).Pairwise fun a b => ¬ SameName a b := by
  rw [List.pairwise_filter]
  apply pairwise_of_forall₂ h (Value.pairwise_dedup listed)
  intro a ha b hb x y hab hx hy hinx hiny hname
  have hsame := hs a (Shape.mem_of_mem_dedup ha) b (Shape.mem_of_mem_dedup hb)
    ⟨x, y, hx, hy, of_decide_eq_true hinx, of_decide_eq_true hiny, hname⟩
  simp [hab] at hsame

/-- The parameters of an operation are made of what its path and its own field list: of each value
    that is not the same as one that was kept before it, with references resolved. -/
structure Collects (document components : Value) (listed : List Value) (operation : Operation) :
    Prop where
  given : ∃ path item fields shared own, Offers document components item fields ∧
    Operation.extract components path item operation.method fields = .ok operation ∧
    (item.get "parameters").orEmptyList.asParts = .ok shared ∧
    (fields.get "parameters").orEmptyList.asParts = .ok own ∧ listed = shared ++ own
  copies : List.Forall₂ (Copies components) (Value.dedup listed) operation.parameters

/-- An entry has some properties for the parameters that stand in a place: one for each, in their
    order and under its name. No name stands there twice exactly if no two of these parameters have
    one name, and that is so if all that are listed for one name and place are the same as they are
    written. -/
structure HasProperties (scope : Schema.Scope) (listed : List Value) (operation : Operation)
    (entry : Entry) (place : Place) (properties : List Property) : Prop where
  object : entry.parameters place = objectOf properties
  each : List.Forall₂ (IsPropertyOf scope) (operation.parameters.filter (StandsIn place)) properties
  nodup_iff : (properties.map label).Nodup ↔
    (operation.parameters.filter (StandsIn place)).Pairwise fun a b => ¬ SameName a b
  nodup : (∀ a ∈ listed, ∀ b ∈ listed, Clash scope.components place a b → a.same b = true) →
    (properties.map label).Nodup

theorem exists_collects {document components : Value} {operations : List Operation}
    (h : (Operation.ofDocument document components).result = .ok operations)
    (hm : operation ∈ operations) : ∃ listed, Collects document components listed operation := by
  obtain ⟨path, item, fields, ho, he⟩ := Operation.exists_offers_of_mem h hm
  obtain ⟨shared, own, hshared, hown, hcopies⟩ := (Operation.records_of_extract he).2.parameters
  exact ⟨shared ++ own, ⟨path, item, fields, shared, own, ho, he, hshared, hown, rfl⟩, hcopies⟩

theorem exists_hasProperties {listed : List Value} {entry : Entry}
    (hcopies : List.Forall₂ (Copies scope.components) (Value.dedup listed) operation.parameters)
    (h : (assemble scope operation).result = .ok entry) (place : Place) :
    ∃ properties, HasProperties scope listed operation entry place properties := by
  obtain ⟨properties, hobject, heach⟩ := exists_of_assemble h place
  have hiff := nodup_labels_iff heach
  exact ⟨properties, hobject, heach, hiff, fun hs => hiff.2 (pairwise_names hcopies hs)⟩

/-- In the module of a document, the entry of each operation has one property for each of the
    parameters that are merged for the operation, in the object for the place of the parameter. -/
theorem parameter_labels {document : Value} {context : Context} {text : String}
    (hc : (Context.ofDocument document).result = .ok context)
    (ht : (Emission.moduleText context).result = .ok text) :
    ∃ validators entries, Emission.Writes context text validators entries ∧
      List.Forall₂ (fun operation entry => ∃ listed,
        Collects document context.scope.components listed operation ∧
        ∀ place, ∃ properties,
          HasProperties context.scope listed operation entry place properties)
        context.operations entries := by
  obtain ⟨validators, entries, hw⟩ := Emission.writes_of_moduleText ht
  have hcollects : ∀ operation ∈ context.operations,
      ∃ listed, Collects document context.scope.components listed operation :=
    fun operation hm => exists_collects (Context.operations_of_ofDocument hc) hm
  refine ⟨validators, entries, hw, ?_⟩
  apply ((List.forall₂_and_left _ _).2 ⟨hcollects, hw.assembled⟩).imp
  rintro operation entry ⟨⟨listed, hlisted⟩, ha⟩
  exact ⟨listed, hlisted, exists_hasProperties hlisted.copies ha⟩

/-! ### A parameter given anew -/

open Operation Schema

/-- A document with a single path and nothing else. -/
def documentWith (shared own : List Value) : Value :=
  .object [("paths", pathsWith shared own)]

/-- What such a document says. -/
def contextWith (shared own : List Value) (parameters : List Fields) : Context :=
  ⟨documentWith shared own, .bare, [recordWith parameters]⟩

theorem ofDocument_documentWith {shared own : List Value} {parameters : List Fields}
    (he : extract (.object []) (.text "/pets") (itemWith shared own) .get (operationWith own) =
      .ok (recordWith parameters)) :
    (Context.ofDocument (documentWith shared own)).result =
      .ok (contextWith shared own parameters) := by
  have hshared : (ofField (.object []) (.text "/pets") (itemWith shared own)
      (.text "parameters", .ofItems shared)).result = .ok none := by
    have hpassed : isPassedOver "parameters" = true := by decide +kernel
    simp only [ofField, keyText, Traced.result_bind, Traced.result_liftM, ok_bind, hpassed, if_true,
      Traced.result_pure]
  have hget : (ofField (.object []) (.text "/pets") (itemWith shared own)
      (.text "get", .ofFields (operationWith own))).result = .ok (some (recordWith parameters)) :=
    result_ofField (by decide +kernel) (by decide +kernel) rfl he
  have hitem : ((itemWith shared own).mapM
      (ofField (.object []) (.text "/pets") (itemWith shared own))).result =
      .ok [none, some (recordWith parameters)] := by
    rw [Traced.result_mapM_eq_ok_iff]
    exact .cons hshared (.cons hget .nil)
  have hpaths : ((textFields [("/pets", .ofFields (itemWith shared own))]).mapM
      (ofPath (.object []))).result = .ok [[recordWith parameters]] := by
    rw [Traced.result_mapM_eq_ok_iff]
    exact .cons (result_ofPath rfl rfl hitem) .nil
  have hgraph : dependencies (documentWith shared own) (.object []) = .ok [] := rfl
  have hdeclared : [].mapM (Declaration.ofRef (.object [])) = .ok [] := rfl
  exact Context.result_ofDocument rfl hgraph rfl hdeclared (result_ofDocument rfl rfl hpaths)

/-- A parameter of a query with values of a type. -/
def pageParameter (tag : String) : Fields :=
  textFields [("name", .text "page"), ("in", .text "query"),
    ("schema", .object [("type", .text tag)])]

def overridingRecord : Operation :=
  recordWith [pageParameter "string", pageParameter "integer"]

/-- The path and its operation give one parameter each, of one name. -/
def overridingContext : Context :=
  contextWith [.ofFields (pageParameter "string")] [.ofFields (pageParameter "integer")]
    [pageParameter "string", pageParameter "integer"]

theorem ofDocument_overriding :
    (Context.ofDocument overridingContext.document).result = .ok overridingContext :=
  ofDocument_documentWith rfl

def pageProperties : List Property :=
  [Expr.property "page" (Expr.chain (Expr.z "string" []) [.call "optional" []]),
    Expr.property "page" (Expr.chain (Expr.z "number" []) [.call "int" [], .call "optional" []])]

def overridingEntry : Entry := { petsEntry .get with query := objectOf pageProperties }

theorem assemble_overriding :
    (assemble overridingContext.scope overridingRecord).result = .ok overridingEntry := by
  have hparameters : (overridingRecord.parameters.mapM
      (placed overridingContext.scope overridingRecord)).result =
      .ok (pageProperties.map fun property => some (.query, property)) := rfl
  have hbody : (body overridingContext.scope overridingRecord).result = .ok (none, none) := rfl
  have hresponses : (responses overridingContext.scope overridingRecord).result =
      .ok [("200", nothing)] := responses_petsOf .get
  simp only [assemble, Traced.result_bind, hparameters, ok_bind, hbody, hresponses]
  rfl

theorem exists_moduleText_overriding :
    ∃ text, (Emission.moduleText overridingContext).result = .ok text := by
  have hentries : (overridingContext.operations.mapM
      (assemble overridingContext.scope)).result = .ok [overridingEntry] := by
    rw [Traced.result_mapM_eq_ok_iff]
    exact .cons assemble_overriding .nil
  have hschemas : (Emission.schemaLines overridingContext).result = .ok [] := rfl
  have hcheck : Expr.checkText (router [overridingEntry]) = .ok () := rfl
  have hrender : (router [overridingEntry]).render = .ok (router [overridingEntry]).print := by
    rw [Expr.render, hcheck]
  simp only [Emission.moduleText, Emission.moduleLines, Emission.contractLine, Traced.result_bind,
    hschemas, ok_bind, hentries, Traced.result_note, Traced.result_liftM, hrender,
    Traced.result_pure]
  exact ⟨_, rfl⟩

theorem parameter_labels_overriding : ∃ text,
    (Emission.moduleText overridingContext).result = .ok text ∧
    ∃ validators entries, Emission.Writes overridingContext text validators entries ∧
      List.Forall₂ (fun operation entry => ∃ listed,
        Collects overridingContext.document overridingContext.scope.components listed operation ∧
        ∀ place, ∃ properties,
          HasProperties overridingContext.scope listed operation entry place properties)
        overridingContext.operations entries := by
  obtain ⟨text, ht⟩ := exists_moduleText_overriding
  exact ⟨text, ht, parameter_labels ofDocument_overriding ht⟩

/-- A parameter that a path gives and its operation gives anew stands twice in one object. -/
theorem exists_repeated_label :
    ∃ document context text validators entries,
      (Context.ofDocument document).result = .ok context ∧
      (Emission.moduleText context).result = .ok text ∧
      Emission.Writes context text validators entries ∧
      ∃ entry ∈ entries, ∃ properties, entry.query = some (Expr.z "object" [.object properties]) ∧
        ¬ (properties.map label).Nodup := by
  obtain ⟨text, ht⟩ := exists_moduleText_overriding
  obtain ⟨validators, entries, hw⟩ := Emission.writes_of_moduleText ht
  have hassembled := hw.assembled
  cases hassembled with
  | @cons _ entry _ _ hentry _ =>
    cases assemble_overriding.symm.trans hentry
    refine ⟨_, overridingContext, text, validators, _, ofDocument_overriding, ht, hw, _,
      List.mem_cons_self, pageProperties, rfl, ?_⟩
    simp [pageProperties, label, Expr.property]

end Contract
end RestContract
