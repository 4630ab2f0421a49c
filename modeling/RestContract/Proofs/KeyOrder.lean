import RestContract.Proofs.CanonicalDeclarations
import RestContract.Proofs.Citation
import RestContract.Proofs.ModuleText

/-!
# The order of component schemas

Two documents that list the same component schemas, each name once, say the same. A component is
looked up by its name, so all references lead to the same components, and whether the schemas can be
ordered is a matter of the schemas. What is left of the order is the order of the declarations.
-/

namespace RestContract

/-- The second document lists the component schemas of the first, maybe in another order. -/
inductive Reordered (schemas others : Fields) : Value → Value → Prop where
  | mk {fields kinds : Fields} {mark kindsMark own : Option Nat}
    (hc : fields.get? "components" = some (.map kinds kindsMark))
    (hs : kinds.get? "schemas" = some (.map schemas own)) (hn : (schemas.map Prod.fst).Nodup)
    (hp : others.Perm schemas) :
    Reordered schemas others (.map fields mark)
      (.map (fields.put "components" (.map (kinds.put "schemas" (.map others own)) kindsMark)) mark)

/-! ## References -/

theorem Fields.get?_perm {fields others : Fields} (hn : (fields.map Prod.fst).Nodup)
    (hp : others.Perm fields) (name : String) : others.get? name = fields.get? name := by
  apply Option.ext
  intro value
  have hother : (others.map Prod.fst).Nodup := (hp.map Prod.fst).nodup_iff.2 hn
  rw [get?_eq_some_iff_mem hn, get?_eq_some_iff_mem hother, hp.mem_iff]

namespace Components

/-- The same components can be looked up. -/
def Alike (components others : Value) : Prop := ∀ r, lookup others r = lookup components r

variable {components others : Value}

theorem Alike.named (h : Alike components others) : named others = named components := by
  funext ref kind current
  simp only [Components.named, h _]

theorem Alike.follow (h : Alike components others) : follow others = follow components := by
  funext ref kind steps
  induction steps with
  | zero =>
    funext current
    simp only [Components.follow, h.named]
  | succ steps ih =>
    funext current
    simp only [Components.follow, h.named, ih]

theorem Alike.resolve (h : Alike components others) : resolve others = resolve components := by
  funext ref
  simp only [Components.resolve, h.follow]

theorem Alike.resolveValue (h : Alike components others) :
    resolveValue others = resolveValue components := by
  funext value
  simp only [Components.resolveValue, h.resolve]

theorem alike_of_reordered {kinds schemas reordered : Fields} {own : Option Nat}
    (mark : Option Nat) (hs : kinds.get? "schemas" = some (.map schemas own))
    (hn : (schemas.map Prod.fst).Nodup) (hp : reordered.Perm schemas) :
    Alike (.map kinds mark) (.map (kinds.put "schemas" (.map reordered own)) mark) := by
  intro r
  simp only [lookup, Value.asFields, ok_bind, Fields.get]
  by_cases hk : r.kind.name = "schemas"
  · rw [hk, Fields.get?_put_self, hs]
    simp only [Option.getD_some, Fields.get?_perm hn hp]
  · rw [Fields.get?_put_of_ne _ _ hk]

end Components

/-! ## Operations -/

theorem Operation.ofPath_eq {components others : Value} (h : Components.Alike components others) :
    Operation.ofPath others = Operation.ofPath components := by
  have hfield : Operation.ofField others = Operation.ofField components := by
    funext path item field
    simp only [ofField, extract, parametersOf, requestBodyOf, responsesOf, h.resolveValue]
  funext path
  simp only [ofPath, hfield, h.resolveValue]

theorem Operation.ofDocument_eq {fields : Fields} {mark : Option Nat} {components others : Value}
    (h : Components.Alike components others) (value : Value) :
    Operation.ofDocument (.map (fields.put "components" value) mark) others =
      Operation.ofDocument (.map fields mark) components := by
  have hpaths : (fields.put "components" value).get "paths" = fields.get "paths" := by
    rw [Fields.get, Fields.get?_put_of_ne _ _ (by decide), Fields.get]
  have hlift : ∀ found : Fields, (liftM (Except.ok found : Except Error Fields) : Traced Fields) =
      pure found := fun _ => rfl
  simp only [ofDocument, Operation.ofPath_eq h, Value.asFields, hlift, pure_bind, hpaths]

/-! ## Compiling -/

namespace Schema

/-- The same references lead to the same components, and the same to declarations, and the room is
    the same. -/
structure Scope.Alike (scope other : Scope) : Prop where
  components : Components.Alike scope.components other.components
  find : ∀ ref, other.find? ref = scope.find? ref
  room : other.room = scope.room

variable {scope other : Scope}

theorem Scope.Alike.compile (h : scope.Alike other) :
    Compile.compile other = Compile.compile scope := by
  have hwith : ∀ inner, Compile.compileWith inner other = Compile.compileWith inner scope := by
    intro inner
    funext schema p
    simp only [Compile.compileWith, h.find, h.components.resolve]
  have hat : ∀ room steps, Compile.compileAt other room steps = Compile.compileAt scope room steps := by
    intro room
    induction room with
    | zero => intro steps; rfl
    | succ room ih =>
      intro steps
      cases steps with
      | zero =>
        rw [Compile.compileAt, Compile.compileAt, hwith]
        simp only [ih]
      | succ steps => exact ih steps
  rw [Compile.compile, Compile.compile, h.room]
  exact hat _ _

theorem Scope.Alike.assemble (h : scope.Alike other) :
    Contract.assemble other = Contract.assemble scope := by
  have hparameter : Contract.parameter other = Contract.parameter scope := by
    funext place fields
    simp only [Contract.parameter, h.compile]
  have hplaced : Contract.placed other = Contract.placed scope := by
    funext operation fields
    simp only [Contract.placed, hparameter]
  have hnothing : Contract.compileOrNothing other = Contract.compileOrNothing scope := by
    funext schema
    simp only [Contract.compileOrNothing, h.compile]
  have hbody : Contract.body other = Contract.body scope := by
    funext operation
    simp only [Contract.body, Contract.requestBody, hnothing]
  have hshare : Contract.share other = Contract.share scope := by
    funext s
    simp only [Contract.share, Contract.response, hnothing]
  funext operation
  simp only [Contract.assemble, Contract.responses, hplaced, hbody, hshare]

/-! ## Declarations -/

theorem Declaration.ofRef_eq {components others : Value} (h : Components.Alike components others) :
    Declaration.ofRef others = Declaration.ofRef components := by
  funext ref
  simp only [Declaration.ofRef, h.resolve]

theorem Orderable.of_perm {components others : Value} {named reordered : List (String × Value)}
    (h : Orderable components named) (ha : Components.Alike components others)
    (hp : reordered.Perm named) : Orderable others reordered := by
  have hknown : Known reordered = Known named := by
    funext ref
    simp only [Known, hp.mem_iff]
  have huses : Uses others = Uses components := by
    funext ref used
    simp only [Uses, ha.resolve]
  constructor
  · intro entry he
    rw [hknown, ha.resolve]
    exact h.leading entry (hp.mem_iff.1 he)
  · intro entry he
    rw [hknown]
    exact h.sound entry (hp.mem_iff.1 he)
  · intro entry he
    rw [huses]
    exact h.acyclic entry (hp.mem_iff.1 he)

section

variable {document otherDocument components others : Value}
  {named reordered : List (String × Value)} {all found : List Declaration} {room : Nat}

theorem Lists.mem_iff (h : Lists document components named)
    (hd : (declarations document components).result = .ok all) {declaration : Declaration} :
    declaration ∈ all ↔ Known named declaration.ref ∧
      Declaration.ofRef components declaration.ref = .ok declaration := by
  obtain ⟨graph, ha, hk⟩ := h.exists_arranged hd
  constructor
  · intro hm
    exact ⟨(hk _).1 (ha.isNode hm), ha.made declaration hm⟩
  · rintro ⟨href, hmade⟩
    obtain ⟨other, ho, heq⟩ := List.mem_map.1 ((ha.order.complete _).2 ((hk _).2 href))
    have hother := ha.made other ho
    rw [heq] at hother
    cases hmade.symm.trans hother
    exact ho

theorem Lists.nodup_refs (h : Lists document components named)
    (hd : (declarations document components).result = .ok all) : (all.map (·.ref)).Nodup := by
  obtain ⟨graph, ha, _⟩ := h.exists_arranged hd
  exact ha.order.nodup

/-- The same component schemas have the same declarations. -/
theorem Lists.perm_declarations (h : Lists document components named)
    (ho : Lists otherDocument others reordered) (ha : Components.Alike components others)
    (hp : reordered.Perm named) (hd : (declarations document components).result = .ok all)
    (hf : (declarations otherDocument others).result = .ok found) : found.Perm all := by
  rw [List.perm_ext_iff_of_nodup (ho.nodup_refs hf).of_map (h.nodup_refs hd).of_map]
  intro declaration
  rw [ho.mem_iff hf, h.mem_iff hd, Declaration.ofRef_eq ha]
  simp only [Known, hp.mem_iff]

theorem Scope.find?_eq_some_iff (hn : (all.map (·.ref)).Nodup) {ref : Value}
    {declaration : Declaration} :
    Scope.find? ⟨components, all, room⟩ ref = some declaration ↔
      declaration ∈ all ∧ ref = .text declaration.ref := by
  constructor
  · exact Scope.mem_of_find?
  · rintro ⟨hm, rfl⟩
    have hrefs : declaration.ref ∈ all.map (·.ref) := List.mem_map_of_mem hm
    have hfound : ∃ other ∈ all, Scope.find? ⟨components, all, room⟩ (.text declaration.ref) =
        some other := Scope.exists_find?_of_mem (List.append_nil _).symm hrefs
    obtain ⟨other, ho, hfind⟩ := hfound
    obtain ⟨_, heq⟩ := Scope.mem_of_find?_text hfind
    rw [hfind, List.inj_on_of_nodup_map hn ho hm heq]

theorem Scope.alike_of_perm (hn : (all.map (·.ref)).Nodup) (ha : Components.Alike components others)
    (hp : found.Perm all) : Scope.Alike ⟨components, all, room⟩ ⟨others, found, room⟩ where
  components := ha
  find := by
    intro ref
    apply Option.ext
    intro declaration
    have hfound : (found.map (·.ref)).Nodup := (hp.map _).nodup_iff.2 hn
    rw [Scope.find?_eq_some_iff hn, Scope.find?_eq_some_iff hfound, hp.mem_iff]
  room := rfl

end

end Schema

/-! ## The module -/

namespace Emission

open Schema

theorem exists_render_exported (declarations : List Declaration) :
    ∃ text, (exported declarations).render = .ok text := by
  have hcheck : ∀ declarations : List Declaration, Expr.checkProperties
      (declarations.map fun declaration => .shorthand declaration.identifier) = .ok () := by
    intro declarations
    induction declarations with
    | nil => rfl
    | cons declaration rest ih => exact ih
  refine ⟨(exported declarations).print, ?_⟩
  rw [Expr.render, exported, Expr.checkText, hcheck]

theorem zipWith_eq_filterMap {ε α β γ : Type} {f : α → Except ε β} {xs : List α} {ys : List β}
    (h : List.Forall₂ (fun x y => f x = .ok y) xs ys) (g : α → β → γ) :
    List.zipWith g xs ys = xs.filterMap fun x => (f x).toOption.map (g x) := by
  induction h with
  | nil => rfl
  | cons hxy _ ih => simp [hxy, ih, Except.toOption]

variable {context other : Context}

theorem exists_schemaLines_of_alike (ha : context.scope.Alike other.scope)
    (hp : other.declarations.Perm context.declarations) {lines : List String}
    (h : (schemaLines context).result = .ok lines) :
    ∃ others, (schemaLines other).result = .ok others := by
  unfold schemaLines at h ⊢
  have hempty : other.declarations.isEmpty = context.declarations.isEmpty := by
    rw [Bool.eq_iff_iff, List.isEmpty_iff_length_eq_zero, List.isEmpty_iff_length_eq_zero,
      hp.length_eq]
  rw [hempty]
  split at h
  · next hd =>
    rw [if_pos hd]
    exact ⟨[], rfl⟩
  · next hd =>
    rw [if_neg hd]
    obtain ⟨consts, hc, _⟩ := Traced.exists_of_result_bind h
    have hline : declarationLine other.scope = declarationLine context.scope := by
      funext declaration
      simp only [declarationLine, ha.compile]
    have hlines : ∀ declaration ∈ other.declarations, ∃ line,
        (declarationLine other.scope declaration).result = .ok line := by
      intro declaration hm
      obtain ⟨line, _, hl⟩ := exists_of_mem_forall₂ (Traced.result_mapM_eq_ok_iff.1 hc).flip
        (hp.mem_iff.1 hm)
      refine ⟨line, ?_⟩
      rw [hline]
      exact hl
    obtain ⟨found, hfound⟩ := Traced.exists_result_mapM hlines
    obtain ⟨text, ht⟩ := exists_render_exported other.declarations
    exact Traced.exists_result_bind hfound (Traced.exists_result_bind ht ⟨_, rfl⟩)

theorem contractLine_eq_of_alike (ha : context.scope.Alike other.scope)
    (ho : other.operations = context.operations) : contractLine other = contractLine context := by
  simp only [contractLine, ha.assemble, ho]

theorem exists_moduleText_of_alike (ha : context.scope.Alike other.scope)
    (hp : other.declarations.Perm context.declarations)
    (ho : other.operations = context.operations) {text : String}
    (h : (moduleText context).result = .ok text) : ∃ found, (moduleText other).result = .ok found := by
  obtain ⟨lines, hl, _⟩ := Traced.exists_of_result_bind h
  obtain ⟨schemas, hs, hl⟩ := Traced.exists_of_result_bind hl
  obtain ⟨contract, hc, _⟩ := Traced.exists_of_result_bind hl
  obtain ⟨others, hothers⟩ := exists_schemaLines_of_alike ha hp hs
  have hcontract : (contractLine other).result = .ok contract := by
    rw [contractLine_eq_of_alike ha ho, hc]
  have hlines : ∃ found, (moduleLines other).result = .ok found :=
    Traced.exists_result_bind hothers (Traced.exists_result_bind hcontract ⟨_, rfl⟩)
  obtain ⟨found, hfound⟩ := hlines
  exact Traced.exists_result_bind hfound ⟨_, rfl⟩

/-- Where the same references lead to the same, the validators of two modules make the same lines,
    and their entries are the same. -/
theorem Writes.of_alike (ha : context.scope.Alike other.scope)
    (hp : other.declarations.Perm context.declarations)
    (ho : other.operations = context.operations) {text found : String}
    {validators others : List Expr} {entries assembled : List Contract.Entry}
    (hw : Writes context text validators entries) (hf : Writes other found others assembled) :
    assembled = entries ∧
      (List.zipWith constLine other.declarations others).Perm
        (List.zipWith constLine context.declarations validators) := by
  have hassembled := hf.assembled
  have hcompiled := hf.compiled
  rw [ha.assemble, ho] at hassembled
  rw [ha.compile] at hcompiled
  constructor
  · have hentries := mapM_eq_ok_iff.2 hw.assembled
    rw [mapM_eq_ok_iff.2 hassembled] at hentries
    exact Except.ok.inj hentries
  · rw [zipWith_eq_filterMap hcompiled, zipWith_eq_filterMap hw.compiled]
    exact hp.filterMap _

end Emission

/-! ## Documents -/

theorem orEmptyMap_of_get? {fields : Fields} {name : String} {value : Value} {mark : Option Nat}
    (h : fields.get? name = some value) : (Value.map fields mark).orEmptyMap = .map fields mark := by
  have hne : fields.isEmpty = false := by
    cases fields with
    | nil => cases h
    | cons _ _ => rfl
  rw [Value.orEmptyMap, Value.isVacant, hne]
  rfl

theorem exists_orEmptyMap_map (fields : Fields) (mark : Option Nat) :
    ∃ own, (Value.map fields mark).orEmptyMap = .map fields own := by
  rw [Value.orEmptyMap, Value.isVacant]
  split
  · next h =>
    rw [List.isEmpty_iff.1 h]
    exact ⟨none, rfl⟩
  · exact ⟨mark, rfl⟩

theorem ofDocument_map {fields kinds : Fields} {mark kindsMark : Option Nat} {value : Value}
    {name : String} (hc : fields.get? "components" = some (.map kinds kindsMark))
    (hs : kinds.get? name = some value) :
    Components.ofDocument (.map fields mark) = .ok (.map kinds kindsMark) := by
  unfold Components.ofDocument
  rw [Value.asFields, ok_bind, Fields.get, hc, Option.getD_some, orEmptyMap_of_get? hs]
  rfl

theorem exists_componentSchemas {fields kinds schemas : Fields} {mark kindsMark own : Option Nat}
    (hc : fields.get? "components" = some (.map kinds kindsMark))
    (hs : kinds.get? "schemas" = some (.map schemas own)) :
    ∃ found, Schema.componentSchemas (.map fields mark) = .ok (.map schemas found) := by
  obtain ⟨found, hfound⟩ := exists_orEmptyMap_map schemas own
  refine ⟨found, ?_⟩
  unfold Schema.componentSchemas
  rw [ofDocument_map hc hs, ok_bind, Value.asFields, ok_bind, Fields.get, hs, Option.getD_some,
    hfound]
  rfl

theorem exists_reordered_named {others : Fields} {named : List (String × Value)}
    (hp : others.Perm (Schema.textFields named)) :
    ∃ reordered, others = Schema.textFields reordered ∧ reordered.Perm named := by
  have hcomp := congrFun (congrFun (List.eq_map_comp_perm fun entry : String × Value =>
    (Scalar.text entry.1, entry.2)) others) named
  obtain ⟨reordered, heq, hperm⟩ := hcomp.mpr hp
  exact ⟨reordered, heq, hperm⟩

/-- What two documents that list the same component schemas have in common. -/
theorem Reordered.exists_lists {schemas others : Fields} {document other components : Value}
    {all : List Schema.Declaration} (h : Reordered schemas others document other)
    (hcanonical : ∀ entry ∈ schemas, Schema.Canonical entry.2)
    (hc : Components.ofDocument document = .ok components)
    (hd : (Schema.declarations document components).result = .ok all) :
    ∃ found named reordered, Components.Alike components found ∧
      Schema.Lists document components named ∧ Schema.Lists other found reordered ∧
      reordered.Perm named ∧
      Operation.ofDocument other found = Operation.ofDocument document components := by
  cases h with
  | @mk fields kinds mark kindsMark own hf hk hn hp =>
    cases (ofDocument_map hf hk).symm.trans hc
    obtain ⟨_, hs⟩ := exists_componentSchemas hf hk
    obtain ⟨_, named, _, hs', _⟩ := Schema.exists_arranged_of_declarations usualRoom hc hd
    have hnamed : schemas = Schema.textFields named := by
      injection hs.symm.trans hs' with hmap
      injection hmap
    subst hnamed
    obtain ⟨reordered, rfl, hperm⟩ := exists_reordered_named hp
    have halike := Components.alike_of_reordered kindsMark hk hn hp
    have hkinds := Fields.get?_put_self kinds "schemas" (.map (Schema.textFields reordered) own)
    have hfields := Fields.get?_put_self fields "components"
      (.map (kinds.put "schemas" (.map (Schema.textFields reordered) own)) kindsMark)
    obtain ⟨_, hothers⟩ := exists_componentSchemas hfields hkinds
    refine ⟨_, named, reordered, halike,
      Schema.lists_of_textFields hc hs hn hcanonical,
      Schema.lists_of_textFields (ofDocument_map hfields hkinds) hothers ?_ ?_, hperm,
      Operation.ofDocument_eq halike _⟩
    · exact (hp.map Prod.fst).nodup_iff.2 hn
    · intro entry he
      exact hcanonical entry (hp.mem_iff.1 he)

/-- Documents that list the same component schemas by references written from their names can be
    read alike, with the same declarations up to their order and the same operations. -/
theorem Context.exists_of_reordered {schemas others : Fields} {document other : Value}
    {context : Context} (hr : Reordered schemas others document other)
    (hcanonical : ∀ entry ∈ schemas, Schema.Canonical entry.2)
    (hc : (Context.ofDocument document).result = .ok context) :
    ∃ found, (Context.ofDocument other).result = .ok found ∧ context.scope.Alike found.scope ∧
      found.declarations.Perm context.declarations ∧ found.operations = context.operations := by
  obtain ⟨hcomponents, hd, ho, _, hroom⟩ := Context.result_ofDocument_eq_ok_iff.1 hc
  obtain ⟨components, named, reordered, halike, hlists, hother, hperm, hoperations⟩ :=
    hr.exists_lists hcanonical hcomponents hd
  have horderable := (hlists.exists_declarations_iff.1 ⟨_, hd⟩).of_perm halike hperm
  obtain ⟨found, hfound⟩ := horderable.exists_declarations hother
  have hdeclarations := hlists.perm_declarations hother halike hperm hd hfound
  have hscope : context.scope.Alike ⟨components, found, context.scope.room⟩ :=
    Schema.Scope.alike_of_perm (hlists.nodup_refs hd) halike hdeclarations
  refine ⟨⟨other, ⟨components, found, context.scope.room⟩, context.operations⟩, ?_, hscope,
    hdeclarations, rfl⟩
  refine Context.result_ofDocument_eq_ok_iff.2 ⟨hother.components_eq, hfound, ?_, rfl, hroom⟩
  rw [hoperations]
  exact ho

/-- The order in which a document lists its component schemas does not matter: with another order,
    the module has the same lines for the schemas and for the contract, and exports the schemas under
    the same identifiers. -/
theorem Emission.exists_moduleText_of_reordered {schemas others : Fields} {document other : Value}
    {context : Context} {text : String} (hr : Reordered schemas others document other)
    (hcanonical : ∀ entry ∈ schemas, Schema.Canonical entry.2)
    (hc : (Context.ofDocument document).result = .ok context)
    (ht : (Emission.moduleText context).result = .ok text) :
    ∃ found otherText validators otherValidators entries,
      (Context.ofDocument other).result = .ok found ∧
        (Emission.moduleText found).result = .ok otherText ∧
        Emission.Writes context text validators entries ∧
        Emission.Writes found otherText otherValidators entries ∧
        (List.zipWith Emission.constLine found.declarations otherValidators).Perm
          (List.zipWith Emission.constLine context.declarations validators) ∧
        (found.declarations.map (·.identifier)).Perm (context.declarations.map (·.identifier)) := by
  obtain ⟨found, hfound, ha, hp, ho⟩ := Context.exists_of_reordered hr hcanonical hc
  obtain ⟨otherText, htext⟩ := Emission.exists_moduleText_of_alike ha hp ho ht
  obtain ⟨validators, entries, hw⟩ := Emission.writes_of_moduleText ht
  obtain ⟨otherValidators, assembled, hf⟩ := Emission.writes_of_moduleText htext
  obtain ⟨rfl, hlines⟩ := Emission.Writes.of_alike ha hp ho hw hf
  exact ⟨found, otherText, validators, otherValidators, _, hfound, htext, hw, hf, hlines,
    hp.map (·.identifier)⟩

theorem reordered_documentOf {named reordered : List (String × Value)}
    (hn : (named.map Prod.fst).Nodup) (hp : reordered.Perm named) :
    Reordered (Schema.textFields named) (Schema.textFields reordered) (documentOf named)
      (documentOf reordered) := by
  let kinds : Fields := [(.text "schemas", .object named)]
  have hk : kinds.get? "schemas" = some (.map (Schema.textFields named) none) := rfl
  have hc : Fields.get? [(.text "components", .ofFields kinds)] "components" =
      some (.map kinds none) := rfl
  exact .mk hc hk (Schema.nodup_keys_textFields.2 hn) (hp.map _)

/-- A document whose first schema is a reference to the second, and the same schemas listed the
    other way round. -/
theorem Emission.exists_moduleText_of_reordered_renamed :
    ∃ context text found otherText validators otherValidators entries,
      (Context.ofDocument (documentOf Schema.renamedSchemas)).result = .ok context ∧
        (Emission.moduleText context).result = .ok text ∧
        (Context.ofDocument (documentOf Schema.renamedSchemas.reverse)).result = .ok found ∧
        (Emission.moduleText found).result = .ok otherText ∧
        Emission.Writes context text validators entries ∧
        Emission.Writes found otherText otherValidators entries ∧
        (List.zipWith Emission.constLine found.declarations otherValidators).Perm
          (List.zipWith Emission.constLine context.declarations validators) ∧
        (found.declarations.map (·.identifier)).Perm (context.declarations.map (·.identifier)) := by
  have hr := reordered_documentOf (show (Schema.renamedSchemas.map Prod.fst).Nodup by decide)
    (List.reverse_perm Schema.renamedSchemas)
  have hc : (Context.ofDocument (documentOf Schema.renamedSchemas)).result =
      .ok ⟨documentOf Schema.renamedSchemas, Schema.renamedScope, []⟩ :=
    Context.result_ofDocument_eq_ok_iff.2 ⟨rfl, Schema.declarations_renamed, rfl, rfl, rfl⟩
  have ht : ∃ text, (Emission.moduleText
      ⟨documentOf Schema.renamedSchemas, Schema.renamedScope, []⟩).result = .ok text := ⟨_, rfl⟩
  obtain ⟨text, ht⟩ := ht
  obtain ⟨found, otherText, validators, otherValidators, entries, hall⟩ :=
    Emission.exists_moduleText_of_reordered hr Schema.canonical_renamed hc ht
  obtain ⟨hfound, htext, hw, hf, hlines, hidentifiers⟩ := hall
  exact ⟨_, text, found, otherText, validators, otherValidators, entries, hc, ht, hfound, htext, hw,
    hf, hlines, hidentifiers⟩

end RestContract
