import RestContract.Proofs.Compilable
import RestContract.Proofs.DeclarationOrder

/-!
# Meaning is preserved

In the module of a document an identifier stands for the validator of its declaration. So read, the
validator of an elementary schema accepts exactly the values that are valid under the schema. What a
declaration refers to is declared before it, so the identifiers mean their components by induction
on the order of declaration.
-/

namespace RestContract.Compile

open Expr Schema Validation

/-- Identifiers of known components stand for the validators that the components are declared as. -/
def Reads (length : String → Nat) (scope : Scope) (known : String → Prop)
    (meaning : String → Sense) : Prop :=
  ∀ declaration ∈ scope.declarations, ∀ name, declaration.ref = refTo name → known name →
    ∃ e, (compile scope (.ofFields declaration.schema) .unstated).result = .ok e ∧
      meaning declaration.identifier = denote length meaning e

variable {length : String → Nat} {scope : Scope} {graph : Graph} {named : List (String × Value)}
  {known : String → Prop} {meaning : String → Sense}

/-- The schema that a known component leads to is elementary and has the same valid values. -/
theorem elementary_of_leads {components : Value} (hr : graph.Records components named)
    (hc : Closed (textFields named) known) {value : Value} {fields : Fields} {steps : Nat}
    {name : String} (h : Components.Leads components .schemas value fields steps)
    (hv : value = .text (refTo name)) (hk : known name) :
    Elementary known (.ofFields fields) ∧ ∃ component,
      (textFields named).get? name = some component ∧ Valid length (textFields named) component =
        Valid length (textFields named) (.ofFields fields) := by
  have hcomponent : ∀ {name found}, Components.Names components .schemas (.text (refTo name)) found →
      ∃ mark, (textFields named).get? name = some (.map found mark) := by
    intro name found hn
    obtain ⟨mark, hm⟩ := hr.exists_lookup_of_names hn
    exact ⟨mark, by rw [get?_textFields, hm]⟩
  -- Each component on the way is a reference to the next, so the same values are valid under it.
  induction h generalizing name with
  | here hn hp =>
    subst hv
    obtain ⟨mark, hm⟩ := hcomponent hn
    obtain ⟨component, hget, he⟩ := hc name hk
    cases hm.symm.trans hget
    exact ⟨he.unmark, _, hget, funext fun v => propext ⟨Valid.unmark, Valid.unmark⟩⟩
  | next hn hnext hl ih =>
    subst hv
    obtain ⟨mark, hm⟩ := hcomponent hn
    obtain ⟨component, hget, he⟩ := hc name hk
    cases hm.symm.trans hget
    obtain ⟨other, rfl, hother⟩ := he.exists_of_target hnext
    obtain ⟨hfields, target, htarget, hvalid⟩ := ih rfl hother
    have hfollow : Valid length (textFields named) (.map _ mark) =
        Valid length (textFields named) target :=
      funext fun v => propext (valid_reference_iff hnext htarget)
    exact ⟨hfields, _, hget, hfollow.trans hvalid⟩

/-- The components before a declaration that are known. -/
def Earlier (known : String → Prop) (before : List Declaration) (name : String) : Prop :=
  known name ∧ refTo name ∈ before.map (·.ref)

/-- The validator of a known component means the component, if the identifiers of those declared
    before it mean theirs. -/
theorem denote_declared (ha : scope.Arranged graph named) (hc : Closed (textFields named) known)
    {before after : List Declaration} {declaration : Declaration} {name : String} {e : Expr}
    (heq : scope.declarations = before ++ declaration :: after)
    (href : declaration.ref = refTo name) (hk : known name)
    (hd : Declares length scope meaning (textFields named) (Earlier known before))
    (he : (compile scope (.ofFields declaration.schema) .unstated).result = .ok e) :
    ∃ component, (textFields named).get? name = some component ∧
      denote length meaning e = .validator (Valid length (textFields named) component) false := by
  have hmem : declaration ∈ scope.declarations := heq ▸ List.mem_append_right _ List.mem_cons_self
  obtain ⟨r, fields, hp, _, _, _, hresolve, hrecord⟩ :=
    Declaration.exists_of_ofRef (ha.made declaration hmem)
  have hwritten : Reference.parse? (refTo name) = some r := href ▸ hp
  obtain rfl : r = ⟨.schemas, name⟩ := Reference.eq_of_parse?_write hwritten
  obtain ⟨_, hparse, taken, _, hl⟩ := Components.resolve_eq_ok_iff.1 hresolve
  obtain ⟨_, htext, hparse⟩ := Reference.exists_text_of_parse hparse
  cases htext
  cases hp.symm.trans hparse
  obtain ⟨helementary, component, hget, hvalid⟩ :=
    elementary_of_leads ha.records hc hl (congrArg Value.text href) hk
  have hplain := Components.get?_ref_of_resolve hresolve
  cases (helementary.recordFields? hplain).symm.trans hrecord
  have hrestricted : Elementary (Earlier known before) (.ofFields declaration.schema) :=
    helementary.restrict fun other ho hm => ⟨ho, ha.mem_before heq hresolve hm⟩
  refine ⟨component, hget, ?_⟩
  rw [hvalid]
  exact means_of_elementary hd hrestricted _ e ⟨scope.room, 0, he⟩

/-- Where every declaration means its component if those before it do, all of them do. -/
theorem declares_of_earlier (ha : scope.Arranged graph named)
    (hc : Closed (textFields named) known)
    (hstep : ∀ before declaration after name,
      scope.declarations = before ++ declaration :: after → declaration.ref = refTo name →
        known name → Declares length scope meaning (textFields named) (Earlier known before) →
          ∃ component, (textFields named).get? name = some component ∧
            meaning declaration.identifier =
              .validator (Valid length (textFields named) component) false) :
    Declares length scope meaning (textFields named) known := by
  have hall : ∀ n before after, scope.declarations = before ++ after → before.length = n →
      Declares length scope meaning (textFields named) (Earlier known before) := by
    intro n
    -- The induction is on the number of declarations before: a component uses earlier ones only.
    induction n using Nat.strong_induction_on with
    | _ n ih =>
      rintro before after heq hn other ⟨ho, hm⟩
      obtain ⟨found, hf, hfind⟩ := Scope.exists_find?_of_mem heq hm
      obtain ⟨_, hfound⟩ := Scope.mem_of_find?_text hfind
      obtain ⟨front, back, rfl⟩ := List.append_of_mem hf
      have hsplit : scope.declarations = front ++ found :: (back ++ after) := by
        rw [heq, List.append_assoc, List.cons_append]
      have hless : front.length < n := by
        rw [← hn, List.length_append, List.length_cons]
        omega
      obtain ⟨component, hget, hm⟩ :=
        hstep front found _ other hsplit hfound ho (ih _ hless front _ hsplit rfl)
      exact ⟨found, component, hfind, hget, hm⟩
  intro name hk
  obtain ⟨component, hget, _⟩ := hc name hk
  obtain ⟨entry, hentry, heq⟩ := List.mem_map.1 (Fields.mem_of_get? hget)
  cases heq
  have hm : refTo entry.1 ∈ scope.declarations.map (·.ref) :=
    (ha.order.complete _).2 (ha.records.rooted entry hentry)
  exact hall _ scope.declarations [] (List.append_nil _).symm rfl entry.1 ⟨hk, hm⟩

theorem declares_of_reads (ha : scope.Arranged graph named) (hc : Closed (textFields named) known)
    (hreads : Reads length scope known meaning) :
    Declares length scope meaning (textFields named) known := by
  refine declares_of_earlier ha hc fun before declaration after name heq href hk hd => ?_
  have hmem : declaration ∈ scope.declarations := heq ▸ List.mem_append_right _ List.mem_cons_self
  obtain ⟨e, he, hmeaning⟩ := hreads declaration hmem name href hk
  rw [hmeaning]
  exact denote_declared ha hc heq href hk hd he

/-- What identifiers stand for after one more declaration. -/
def declare (length : String → Nat) (scope : Scope) (meaning : String → Sense)
    (declaration : Declaration) (name : String) : Sense :=
  if name = declaration.identifier then
    match (compile scope (.ofFields declaration.schema) .unstated).result with
    | .ok e => denote length meaning e
    | .error _ => .nothing
  else meaning name

theorem foldl_declare_of_not_mem {declarations : List Declaration} {name : String}
    (h : name ∉ declarations.map (·.identifier)) :
    declarations.foldl (declare length scope) meaning name = meaning name := by
  induction declarations generalizing meaning with
  | nil => rfl
  | cons declaration rest ih =>
    rw [List.map_cons, List.mem_cons, not_or] at h
    rw [List.foldl_cons, ih h.2, declare, if_neg h.1]

/-- An identifier that is declared once stands for its validator, as the declarations before it are
    read. -/
theorem foldl_declare_eq {before after : List Declaration} {declaration : Declaration} {e : Expr}
    (hn : ((before ++ declaration :: after).map (·.identifier)).Nodup)
    (he : (compile scope (.ofFields declaration.schema) .unstated).result = .ok e) :
    (before ++ declaration :: after).foldl (declare length scope) meaning declaration.identifier =
      denote length (before.foldl (declare length scope) meaning) e := by
  rw [List.map_append, List.map_cons, List.nodup_append] at hn
  have hafter : declaration.identifier ∉ after.map (·.identifier) := (List.nodup_cons.1 hn.2.1).1
  rw [List.foldl_append, List.foldl_cons, foldl_declare_of_not_mem hafter, declare, if_pos rfl, he]

theorem foldl_declare_of_mem {before after : List Declaration} {declaration : Declaration}
    (hn : ((before ++ after).map (·.identifier)).Nodup) (hd : declaration ∈ before) :
    (before ++ after).foldl (declare length scope) meaning declaration.identifier =
      before.foldl (declare length scope) meaning declaration.identifier := by
  rw [List.map_append, List.nodup_append] at hn
  rw [List.foldl_append]
  refine foldl_declare_of_not_mem fun hm => ?_
  exact hn.2.2 _ (List.mem_map_of_mem hd) _ hm rfl

/-- What an identifier stands for after all declarations it stands for after those before it, so it
    means its component. -/
theorem means_of_foldl_declare (ha : scope.Arranged graph named)
    (hc : Closed (textFields named) known) (hn : (scope.declarations.map (·.identifier)).Nodup)
    {before after : List Declaration} {declaration : Declaration} {name : String} {e : Expr}
    (heq : scope.declarations = before ++ declaration :: after)
    (href : declaration.ref = refTo name) (hk : known name)
    (hd : Declares length scope (scope.declarations.foldl (declare length scope) meaning)
      (textFields named) (Earlier known before))
    (he : (compile scope (.ofFields declaration.schema) .unstated).result = .ok e) :
    ∃ component, (textFields named).get? name = some component ∧
      scope.declarations.foldl (declare length scope) meaning declaration.identifier =
        .validator (Valid length (textFields named) component) false := by
  have hbefore : Declares length scope (before.foldl (declare length scope) meaning)
      (textFields named) (Earlier known before) := by
    intro other ho
    obtain ⟨found, component, hfind, hget, hm⟩ := hd other ho
    obtain ⟨first, hf, hfirst⟩ := Scope.exists_find?_of_mem heq ho.2
    cases hfind.symm.trans hfirst
    rw [heq, foldl_declare_of_mem (heq ▸ hn) hf] at hm
    exact ⟨found, component, hfind, hget, hm⟩
  obtain ⟨component, hget, hm⟩ := denote_declared ha hc heq href hk hbefore he
  refine ⟨component, hget, ?_⟩
  rw [heq, foldl_declare_eq (heq ▸ hn) he, hm]

/-- Taking the declarations one after the other gives identifiers their meaning, if no two of them
    are declared under one identifier. -/
theorem reads_declarations {document : Value} {context : Context} {schemas : Fields}
    {mark : Option Nat} (h : (Context.ofDocument document).result = .ok context)
    (hs : componentSchemas document = .ok (.map schemas mark)) (hc : Closed schemas known)
    (hn : (context.scope.declarations.map (·.identifier)).Nodup)
    (he : ∀ declaration ∈ context.scope.declarations,
      ∃ e, (compile context.scope (.ofFields declaration.schema) .unstated).result = .ok e) :
    Reads length context.scope known
      (context.scope.declarations.foldl (declare length context.scope) fun _ => .nothing) := by
  obtain ⟨graph, named, _, _, hnamed, ha⟩ := exists_arranged_of_ofDocument h
  cases hs.symm.trans hnamed
  have hdeclares : Declares length context.scope
      (context.scope.declarations.foldl (declare length context.scope) fun _ => .nothing)
      (textFields named) known := by
    refine declares_of_earlier ha hc fun before declaration after name heq href hk hd => ?_
    obtain ⟨e, hcompiled⟩ := he declaration (heq ▸ List.mem_append_right _ List.mem_cons_self)
    exact means_of_foldl_declare ha hc hn heq href hk hd hcompiled
  intro declaration hmem name href hk
  obtain ⟨e, hcompiled⟩ := he declaration hmem
  obtain ⟨before, after, heq⟩ := List.append_of_mem hmem
  have hearlier : Declares length context.scope
      (context.scope.declarations.foldl (declare length context.scope) fun _ => .nothing)
      (textFields named) (Earlier known before) := fun other ho => hdeclares other ho.1
  obtain ⟨component, hget, hm⟩ := means_of_foldl_declare ha hc hn heq href hk hearlier hcompiled
  obtain ⟨other, hother, hdenote⟩ := denote_declared ha hc heq href hk hearlier hcompiled
  cases hget.symm.trans hother
  exact ⟨e, hcompiled, hm.trans hdenote.symm⟩

/-- In the module of a document the validator of an elementary schema, which there is for a schema
    that is not too deep, accepts exactly the values that are valid under the schema. -/
theorem accepts_iff_valid {document : Value} {context : Context} {schemas : Fields}
    {mark : Option Nat} {schema : Value}
    (h : (Context.ofDocument document).result = .ok context)
    (hs : componentSchemas document = .ok (.map schemas mark)) (hc : Closed schemas known)
    (hm : Reads length context.scope known meaning) (he : Elementary known schema) :
    (8 * schema.depth ≤ context.scope.room →
      ∀ p, ∃ e, (compile context.scope schema p).result = .ok e) ∧
    ∀ p e, (compile context.scope schema p).result = .ok e →
      (∀ v, (denote length meaning e).Accepts v ↔ Valid length schemas schema v) ∧
      ((denote length meaning e).Omissible ↔ p = .optional) := by
  obtain ⟨graph, named, _, _, hnamed, ha⟩ := exists_arranged_of_ofDocument h
  cases hs.symm.trans hnamed
  have hdeclares := declares_of_reads ha hc hm
  constructor
  · intro hdepth
    refine hasRoom_of_elementary (fun name hk => ?_) he hdepth
    obtain ⟨declaration, _, hf, _⟩ := hdeclares name hk
    exact ⟨declaration, hf⟩
  · intro p e hcompiled
    rw [means_of_elementary hdeclares he p e ⟨context.scope.room, 0, hcompiled⟩]
    exact ⟨fun v => Iff.rfl, by simp [Sense.Omissible]⟩

/-- An object with a member that may be a whole number from one on, or null. -/
def holder : List (String × Value) :=
  [("type", .text "object"),
    ("properties", .object [("b", .object [("$ref", .text "#/components/schemas/B")])]),
    ("required", .ofItems [.text "b"])]

def counter : List (String × Value) :=
  [("type", .ofItems [.text "integer", .text "null"]), ("minimum", .int 1)]

def holderSchemas : List (String × Value) := [("A", .object holder), ("B", .object counter)]

/-- Such an object, or a text of two characters and more. -/
def choice : Value :=
  .object [("oneOf", .ofItems [.object [("$ref", .text "#/components/schemas/A")],
    .object [("type", .text "string"), ("minLength", .int 2)]])]

def holderScope : Scope where
  components := .object [("schemas", .object holderSchemas)]
  declarations :=
    [⟨"B", "B", "#/components/schemas/B", textFields counter⟩,
      ⟨"A", "A", "#/components/schemas/A", textFields holder⟩]

def holderContext : Context := ⟨documentOf holderSchemas, holderScope, []⟩

theorem dependencies_holder : dependencies (documentOf holderSchemas) holderScope.components =
    .ok [("#/components/schemas/A", ["#/components/schemas/B"]), ("#/components/schemas/B", [])] := by
  have hA : refTo "A" = "#/components/schemas/A" := by decide
  have hB : refTo "B" = "#/components/schemas/B" := by decide
  have hs : componentSchemas (documentOf holderSchemas) =
      .ok (.map (textFields holderSchemas) none) := rfl
  have hfirst : walkRoot holderScope.components
      ⟨[("#/components/schemas/A", []), ("#/components/schemas/B", [])], []⟩ "A" (.object holder) =
      .ok ⟨[("#/components/schemas/A", ["#/components/schemas/B"]), ("#/components/schemas/B", [])],
        ["#/components/schemas/A", "#/components/schemas/B"]⟩ := by
    rw [walkRoot_of_not_walked (by simp), hA]
    refine (Walk.run_map rfl rfl).trans ?_
    refine (Walk.run_follow rfl (by simp) rfl).trans ?_
    exact (Walk.run_map rfl rfl).trans (Walk.run_nil ..)
  have hsecond : walkRoot holderScope.components
      ⟨[("#/components/schemas/A", ["#/components/schemas/B"]), ("#/components/schemas/B", [])],
        ["#/components/schemas/A", "#/components/schemas/B"]⟩ "B" (.object counter) =
      .ok ⟨[("#/components/schemas/A", ["#/components/schemas/B"]), ("#/components/schemas/B", [])],
        ["#/components/schemas/A", "#/components/schemas/B"]⟩ :=
    walkRoot_of_walked (by simp [hB])
  have hwalk : holderSchemas.foldlM (fun walk (entry : String × Value) =>
      walkRoot holderScope.components walk entry.1 entry.2)
      ⟨holderSchemas.map fun entry => (refTo entry.1, []), []⟩ =
      .ok ⟨[("#/components/schemas/A", ["#/components/schemas/B"]), ("#/components/schemas/B", [])],
        ["#/components/schemas/A", "#/components/schemas/B"]⟩ := by
    simp only [holderSchemas, List.map_cons, List.map_nil, List.foldlM_cons, List.foldlM_nil, hA, hB]
    rw [hfirst, ok_bind, hsecond, ok_bind]
    rfl
  exact dependencies_of_walk hs hwalk

theorem ofDocument_holder :
    (Context.ofDocument (documentOf holderSchemas)).result = .ok holderContext := by
  have horder : Graph.order
      [("#/components/schemas/A", ["#/components/schemas/B"]), ("#/components/schemas/B", [])] =
      .ok ["#/components/schemas/B", "#/components/schemas/A"] := by
    simp [Graph.order, Graph.allNodes, Graph.addOnce, Graph.searchFrom, Graph.search,
      Graph.edges, Path.nodes, List.lookup_cons, bind, Except.bind, pure, Except.pure]
  have hdeclared : ["#/components/schemas/B", "#/components/schemas/A"].mapM
      (Declaration.ofRef holderScope.components) = .ok holderScope.declarations := rfl
  exact Context.result_ofDocument rfl dependencies_holder horder hdeclared rfl

theorem shaped_counter :
    Shaped (textFields counter) (.list (["integer", "null"].map .text) none) where
  typed := rfl
  isType := .tags (by simp) (by simp [typeTags]) (by simp)
  only := by simp [counter, textFields, typedKeywords]
  minimum := by
    intro value hv
    cases hv
    rfl
  minLength := nofun
  maxLength := nofun
  maximum := nofun
  exclusiveMinimum := nofun
  exclusiveMaximum := nofun
  minItems := nofun
  maxItems := nofun
  properties := nofun
  required := nofun
  additional := nofun

theorem shaped_holder : Shaped (textFields holder) (.text "object") where
  typed := rfl
  isType := .tag (by simp [typeTags])
  only := by simp [holder, textFields, typedKeywords]
  properties := by
    intro value hv
    cases hv
    exact ⟨[("b", .object [("$ref", .text "#/components/schemas/B")])], none, rfl⟩
  required := by
    intro value hv
    cases hv
    exact ⟨["b"], none, rfl, by simp [propertiesOf, holder, textFields, Fields.get?, Value.object]⟩
  minLength := nofun
  maxLength := nofun
  minimum := nofun
  maximum := nofun
  exclusiveMinimum := nofun
  exclusiveMaximum := nofun
  minItems := nofun
  maxItems := nofun
  additional := nofun

theorem shaped_text : Shaped (textFields [("type", .text "string"), ("minLength", .int 2)])
    (.text "string") where
  typed := rfl
  isType := .tag (by simp [typeTags])
  only := by simp [textFields, typedKeywords]
  minLength := by
    intro value hv
    cases hv
    exact ⟨2, by decide, rfl⟩
  maxLength := nofun
  minimum := nofun
  maximum := nofun
  exclusiveMinimum := nofun
  exclusiveMaximum := nofun
  minItems := nofun
  maxItems := nofun
  properties := nofun
  required := nofun
  additional := nofun

theorem closed_holder : Closed (textFields holderSchemas) (· ∈ ["A", "B"]) := by
  have hB : refTo "B" = "#/components/schemas/B" := by decide
  intro name hk
  rw [List.mem_cons, List.mem_singleton] at hk
  rcases hk with rfl | rfl
  · refine ⟨.object holder, rfl, .typed shaped_holder nofun (fun _ field hf => ?_) nofun⟩
    cases hf with
    | head => exact @Elementary.reference _ _ "B" (by rw [hB]; rfl) (by simp)
    | tail _ hf => cases hf
  · exact ⟨.object counter, rfl, .typed shaped_counter nofun nofun nofun⟩

theorem elementary_choice : Elementary (· ∈ ["A", "B"]) choice := by
  have hA : refTo "A" = "#/components/schemas/A" := by decide
  refine .oneOf (by simp) fun part hp => ?_
  cases hp with
  | head => exact @Elementary.reference _ _ "A" (by rw [hA]; rfl) (by simp)
  | tail _ hp =>
    cases hp with
    | head => exact .typed shaped_text nofun nofun nofun
    | tail _ hp => cases hp

/-- What the identifiers stand for in the module of the document. -/
def holderMeaning : String → Sense :=
  holderScope.declarations.foldl (declare String.length holderScope) fun _ => .nothing

theorem reads_holder : Reads String.length holderScope (· ∈ ["A", "B"]) holderMeaning := by
  refine reads_declarations ofDocument_holder rfl closed_holder (by decide) fun declaration hd => ?_
  cases hd with
  | head => exact ⟨_, rfl⟩
  | tail _ hd =>
    cases hd with
    | head => exact ⟨_, rfl⟩
    | tail _ hd => cases hd

theorem accepts_iff_valid_choice :
    (Context.ofDocument (documentOf holderSchemas)).result = .ok holderContext ∧
      ∃ e, (compile holderScope choice .unstated).result = .ok e ∧
        ∀ v, (denote String.length holderMeaning e).Accepts v ↔
          Valid String.length (textFields holderSchemas) choice v := by
  obtain ⟨hcompiles, hmeans⟩ :=
    accepts_iff_valid ofDocument_holder rfl closed_holder reads_holder elementary_choice
  obtain ⟨e, he⟩ := hcompiles (by decide) .unstated
  exact ⟨ofDocument_holder, e, he, (hmeans _ e he).1⟩

end RestContract.Compile
