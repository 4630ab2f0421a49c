import RestContract.Proofs.ForeseenValidators

/-!
# What a document of the right shape says

The component schemas are walked and declared, and the operations are read. Every reference that is
walked leads within the schemas, so that all declarations are schemas; and the parts of an operation
are components of the kinds of their places.
-/

namespace RestContract.Shape

open Schema

/-! ## The walk for dependencies -/

/-- If a text is a reference, it is one to a schema. -/
def LeadsToSchema (ref : String) : Prop :=
  ∀ r, Reference.parse (.text ref) = .ok r → r.kind = .schemas

theorem leadsToSchema_refTo (name : String) : LeadsToSchema (refTo name) := by
  intro r hr
  obtain ⟨_, htext, hparse⟩ := Reference.exists_text_of_parse hr
  cases htext
  cases Reference.eq_of_parse?_write hparse
  rfl

theorem isNode_of_isNode_addEdge {graph : Graph} {source target node : String}
    (h : (graph.addEdge source target).IsNode node) :
    graph.IsNode node ∨ node = source ∨ node = target := by
  rcases h with h | ⟨other, h⟩
  · rcases Graph.mem_nodes_addEdge.1 h with h | rfl
    · exact .inl (.inl h)
    · exact .inr (.inl rfl)
  · rw [Graph.Depends, Graph.edges_addEdge] at h
    split at h
    · rcases Graph.mem_addOnce.1 h with h | rfl
      · exact .inl (.inr ⟨source, h⟩)
      · exact .inr (.inr rfl)
    · exact .inl (.inr ⟨other, h⟩)

/-- All nodes of a graph are references to schemas, as far as they are references. -/
def NodesLead (graph : Graph) : Prop := ∀ ref, graph.IsNode ref → LeadsToSchema ref

theorem NodesLead.addEdge {graph : Graph} {source target : String} (h : NodesLead graph)
    (hs : LeadsToSchema source) (ht : LeadsToSchema target) :
    NodesLead (graph.addEdge source target) := by
  intro ref hr
  rcases isNode_of_isNode_addEdge hr with hr | rfl | rfl
  · exact h ref hr
  · exact hs
  · exact ht

section

variable {fields : Fields} (h : IsPlain .schemas fields)

include h

theorem yields_parts {keyword : String} (hk : keyword ∈ compositionKeywords) :
    Yields (fun parts => ∀ schema ∈ parts, Suits .schemas schema) (members fields keyword) := by
  unfold members Value.orEmptyList
  split
  · exact .ok (by simp)
  · next hv =>
    obtain ⟨items, mark, heq, hs⟩ := h.exists_members hk (by simpa using hv)
    rw [heq]
    exact .ok hs

theorem yields_objectMembers :
    Yields (fun inner => ∀ schema ∈ inner, Suits .schemas schema) (objectMembers fields) := by
  unfold objectMembers
  split
  · obtain ⟨all, mark, heq, _, hs⟩ := h.exists_properties
    rw [heq]
    refine .ok (List.forall_mem_append.2 ⟨fun schema hm => ?_, fun schema hm => ?_⟩)
    · obtain ⟨field, hf, rfl⟩ := List.mem_map.1 hm
      exact hs field hf
    · unfold additionalSchema at hm
      split at hm
      · next ha => exact List.mem_singleton.1 hm ▸ h.suits_of_holds (.additional ha)
      · cases hm
  · exact .ok (by simp)

/-- The schemas inside a schema suit their places. -/
theorem yields_nested :
    Yields (fun inner => ∀ schema ∈ inner, Suits .schemas schema) (nested fields) := by
  have hcomposed : Yields (fun composed => ∀ schema ∈ composed, Suits .schemas schema)
      (compositionMembers fields) := by
    refine (YieldsOr.mapM fun keyword hk => yields_parts h hk).bind fun lists hl => .ok ?_
    intro schema hm
    obtain ⟨parts, hp, hs⟩ := List.mem_flatten.1 hm
    exact hl parts hp schema hs
  refine hcomposed.bind fun composed hc => ?_
  dsimp only
  split
  · next hi =>
    simp only [Bool.and_eq_true, Bool.not_eq_true'] at hi
    have hitems := h.suits_of_holds (.items hi.2)
    exact .ok (List.forall_mem_append.2 ⟨hc, by simpa using hitems⟩)
  · refine (yields_objectMembers h).bind fun others ho => ?_
    exact .ok (List.forall_mem_append.2 ⟨hc, ho⟩)

end

/-- A schema that waits to be walked, with the component it belongs to. What is no map is passed
    over. -/
def Waits (entry : Value × String) : Prop :=
  (IsMap entry.1 → Suits .schemas entry.1) ∧ LeadsToSchema entry.2

theorem Waits.suits_of_target {schema ref : Value} {owner : String} (h : Waits (schema, owner))
    (ht : Reference.target? schema = some ref) : Suits .schemas schema := by
  cases schema with
  | map fields mark => exact h.1 ⟨fields, mark, rfl⟩
  | _ => cases ht

theorem Suits.of_target {kind : ComponentKind} {schema ref : Value} (h : Suits kind schema)
    (ht : Reference.target? schema = some ref) :
    IsJson ref ∧ IsScalar ref ∧ ∀ r, Reference.parse ref = .ok r → r.kind = kind := by
  obtain ⟨hj, hs⟩ := h
  cases hs with
  | reference hr hs hk =>
    cases ht.symm.trans hr
    exact ⟨hj.get? hr, hs, hk⟩
  | plain hp => cases ht.symm.trans hp

theorem nodesLead_roots (names : List String) : NodesLead (names.map (refTo ·, [])) := by
  rintro ref (hr | ⟨source, hd⟩)
  · rw [List.map_map] at hr
    obtain ⟨name, _, rfl⟩ := List.mem_map.1 hr
    exact leadsToSchema_refTo name
  · rw [Graph.Depends, edges_of_no_targets (by simp)] at hd
    cases hd

theorem yields_declarationOrder {graph : Graph} (h : NodesLead graph) :
    Yields (fun refs => ∀ ref ∈ refs, LeadsToSchema ref) (declarationOrder graph) := by
  have hrun : Yields (fun _ => True) (declarationOrder graph) := by
    unfold declarationOrder
    split
    · exact .ok trivial
    · exact .error rfl
  refine hrun.self.mono fun refs ho ref hm => h ref ?_
  exact ((Graph.isOrder_of_declarationOrder ho).complete ref).1 hm

section

variable {kinds : Fields} (hc : AreComponents kinds)

include hc

/-- A walk through schemas of the right shape has a graph of references to schemas. -/
theorem yields_run {waiting : List (Value × String)} {walk : Walk}
    (hw : ∀ entry ∈ waiting, Waits entry) (hn : NodesLead walk.graph) :
    Yields (fun final => NodesLead final.graph) (Walk.run (.ofFields kinds) waiting walk) := by
  fun_induction Walk.run (.ofFields kinds) waiting walk with
  | case1 => exact .ok hn
  -- a reference that was walked before adds an edge only
  | case2 walk schema owner waiting ref ht graph hr ih =>
    obtain ⟨hfirst, hrest⟩ := List.forall_mem_cons.1 hw
    obtain ⟨_, _, hk⟩ := (hfirst.suits_of_target ht).of_target ht
    exact ih hrest (hn.addEdge hfirst.2 hk)
  -- what a new reference leads to waits next, and suits its place as the reference did
  | case3 walk schema owner waiting ref ht graph hr target hres ih =>
    obtain ⟨hfirst, hrest⟩ := List.forall_mem_cons.1 hw
    obtain ⟨hj, _, hk⟩ := (hfirst.suits_of_target ht).of_target ht
    have htarget := (yields_resolve hc hj hk).value _ hres
    have hsuits : Suits .schemas (.ofFields target) :=
      ⟨htarget.json, .plain htarget.plain htarget.shaped⟩
    exact ih (List.forall_mem_cons.2 ⟨⟨fun _ => hsuits, hk⟩, hrest⟩) (hn.addEdge hfirst.2 hk)
  | case4 walk schema owner waiting ref ht hr e hres =>
    obtain ⟨hfirst, _⟩ := List.forall_mem_cons.1 hw
    obtain ⟨hj, _, hk⟩ := (hfirst.suits_of_target ht).of_target ht
    exact .error ((yields_resolve hc hj hk).failure _ hres)
  -- a reference that is a scalar but no text can be shown, and is refused
  | case5 walk schema owner waiting ref hn ht =>
    obtain ⟨hfirst, _⟩ := List.forall_mem_cons.1 hw
    obtain ⟨hj, ⟨s, rfl⟩, _⟩ := (hfirst.suits_of_target ht).of_target ht
    rw [Value.asKey, ok_bind, hj.shown]
    exact .error rfl
  -- the schemas inside a schema wait before all others
  | case6 walk owner waiting fields mark ht inner hnested ih =>
    obtain ⟨hfirst, hrest⟩ := List.forall_mem_cons.1 hw
    have hplain := (hfirst.1 ⟨fields, mark, rfl⟩).isPlain ht
    have hinner := (yields_nested hplain).value _ hnested
    refine ih (List.forall_mem_append.2 ⟨fun entry he => ?_, hrest⟩) hn
    obtain ⟨schema, hs, rfl⟩ := List.mem_map.1 he
    exact ⟨fun _ => hinner schema hs, hfirst.2⟩
  | case7 walk owner waiting fields mark ht e hnested =>
    obtain ⟨hfirst, _⟩ := List.forall_mem_cons.1 hw
    have hplain := (hfirst.1 ⟨fields, mark, rfl⟩).isPlain ht
    exact .error ((yields_nested hplain).failure _ hnested)
  | case8 walk schema owner waiting ht hmap ih =>
    exact ih (List.forall_mem_cons.1 hw).2 hn

theorem yields_walkRoot {walk : Walk} {name : String} {schema : Value}
    (hs : IsMap schema → Suits .schemas schema) (hn : NodesLead walk.graph) :
    Yields (fun final => NodesLead final.graph) (walkRoot (.ofFields kinds) walk name schema) := by
  unfold walkRoot
  dsimp only
  split
  · exact .ok hn
  · refine yields_run hc (fun entry he => ?_) hn
    rw [List.mem_singleton.1 he]
    exact ⟨hs, leadsToSchema_refTo name⟩

/-! ## Declarations -/

theorem yields_ofRef {ref : String} (hr : LeadsToSchema ref) :
    Yields (fun declaration => IsPlain .schemas declaration.schema)
      (Declaration.ofRef (.ofFields kinds) ref) := by
  refine (yields_parse (.text ref)).bind fun r _ => ?_
  refine (yields_resolve hc (.text ref) hr).bind fun target ht => ?_
  rw [recordFields?_of_hasTextKeys ht.json.hasTextKeys]
  exact .ok ht

variable {fields : Fields} (heq : (fields.get "components").orEmptyMap = .ofFields kinds)
  (hs : OrNothing IsMap (Fields.get kinds "schemas"))

omit hc in
theorem ofDocument_eq (heq : (fields.get "components").orEmptyMap = .ofFields kinds) :
    Components.ofDocument (.ofFields fields) = .ok (.ofFields kinds) := by
  rw [Components.ofDocument, Value.asFields, ok_bind, heq]
  rfl

include hs

theorem exists_schemas : ∃ all mark, (Fields.get kinds "schemas").orEmptyMap = .map all mark ∧
    Fields.hasTextKeys all = true ∧
    ∀ field ∈ all, IsMap field.2 → Suits .schemas field.2 := by
  unfold Value.orEmptyMap
  split
  · exact ⟨[], none, rfl, rfl, by simp⟩
  · next hv =>
    obtain ⟨all, mark, heq⟩ := hs.of_not_vacant (by simpa using hv)
    have hjson : IsJson (.map all mark) := heq ▸ hc.json.get _
    refine ⟨all, mark, heq, hjson.hasTextKeys, fun field hm hmap => ?_⟩
    obtain ⟨own, ownMark, hown⟩ := hmap
    exact ⟨hjson.of_mem_map hm, hc.shaped .schemas all mark heq field hm own ownMark hown⟩

include heq

theorem yields_dependencies :
    Yields NodesLead (dependencies (.ofFields fields) (.ofFields kinds)) := by
  obtain ⟨all, mark, hall, hk, hsuits⟩ := exists_schemas hc hs
  have hschemas : componentSchemas (.ofFields fields) = .ok (.map all mark) := by
    rw [componentSchemas, ofDocument_eq heq, ok_bind, Value.asFields, ok_bind, hall]
    rfl
  have hnames : Yields (fun _ => True)
      ((all.map fun (entry : Scalar × Value) => Value.scalar entry.1).mapM asName) := by
    refine (YieldsOr.mapM (Q := fun _ => True) fun part hm => ?_).mono fun _ _ => trivial
    obtain ⟨field, hf, rfl⟩ := List.mem_map.1 hm
    obtain ⟨name, hname⟩ := exists_text_of_hasTextKeys hk hf
    rw [hname]
    exact .ok trivial
  unfold dependencies
  rw [hschemas, ok_bind, Value.asParts, Value.parts?, ok_bind]
  refine hnames.bind fun names _ => ?_
  rw [Value.asFields, ok_bind]
  refine YieldsOr.bind (P := fun walk => NodesLead walk.graph) ?_ fun walk hw => .ok hw
  refine YieldsOr.foldlM (nodesLead_roots names) fun walk entry he hn => ?_
  obtain ⟨field, hf, heq⟩ := List.mem_map.1 (List.of_mem_zip he).2
  exact yields_walkRoot hc (heq ▸ hsuits field hf) hn

theorem yields_declarations :
    Yields (fun declarations => ∀ declaration ∈ declarations, IsPlain .schemas declaration.schema)
      (declarations (.ofFields fields) (.ofFields kinds)).result := by
  refine (yields_dependencies hc heq hs).result_bind fun graph hn => ?_
  refine (yields_declarationOrder hn).result_bind fun refs hr => ?_
  refine YieldsOr.result_bind_of_ok rfl ?_
  exact YieldsOr.result_mapM fun ref hm => yields_ofRef hc (hr ref hm)

end

/-! ## Operations -/

/-- The parts of an operation are components of the kinds of their places. -/
structure HasParts (operation : Operation) : Prop where
  parameters : ∀ fields ∈ operation.parameters, IsPlain .parameters fields
  requestBody : ∀ fields, operation.requestBody = some fields → IsPlain .requestBodies fields
  responses : ∀ response ∈ operation.responses, IsPlain .responses response.2

theorem mem_of_mem_dedup {items : List Value} {item : Value} (h : item ∈ Value.dedup items) :
    item ∈ items := by
  have hkept : ∀ kept : List Value, item ∈ items.foldl (fun kept item =>
      if kept.any (·.same item) then kept else kept ++ [item]) kept → item ∈ kept ∨ item ∈ items := by
    clear h
    induction items with
    | nil => exact fun kept hm => .inl hm
    | cons first rest ih =>
      intro kept hm
      rcases ih _ hm with hm | hm
      · dsimp only at hm
        split at hm
        · exact .inl hm
        · rcases List.mem_append.1 hm with hm | hm
          · exact .inl hm
          · exact .inr (List.mem_singleton.1 hm ▸ List.mem_cons_self)
      · exact .inr (List.mem_cons_of_mem _ hm)
  simpa using hkept [] h

theorem mem_of_mem_putNamed {named : List (String × Value)} {name : String} {value : Value}
    {entry : String × Value} (h : entry ∈ Operation.putNamed named name value) :
    entry.2 = value ∨ entry ∈ named := by
  induction named with
  | nil =>
    rw [List.mem_singleton.1 h]
    exact .inl rfl
  | cons first rest ih =>
    unfold Operation.putNamed at h
    split at h
    · rcases List.mem_cons.1 h with rfl | h
      · exact .inl rfl
      · exact .inr (List.mem_cons_of_mem _ h)
    · rcases List.mem_cons.1 h with rfl | h
      · exact .inr List.mem_cons_self
      · exact (ih h).imp_right (List.mem_cons_of_mem _)

theorem exists_suitable {kind : ComponentKind} {value : Value} (hj : IsJson value)
    (h : OrNothing (IsListOf (StandsFor kind (ofKind kind))) value) :
    ∃ items mark, value.orEmptyList = .list items mark ∧ ∀ item ∈ items, Suits kind item := by
  obtain ⟨items, mark, heq, hs⟩ := h.exists_items
  have hjson : IsJson (.list items mark) := heq ▸ hj.orEmptyList
  exact ⟨items, mark, heq, fun item hm => ⟨hjson.of_mem_list hm, hs item hm⟩⟩

/-! ### Checks of a record -/

theorem yields_checkText (s : String) :
    Yields (fun _ => True) (Operation.checkText (.text s)) :=
  .ok trivial

theorem yields_checkText? {value : Value} (h : OrNull IsText value) :
    Yields (fun _ => True) (Operation.checkText? value) := by
  unfold Operation.checkText?
  split
  · exact .ok trivial
  · next hn =>
    obtain ⟨s, rfl⟩ := h.resolve_left hn
    exact (yields_checkText s).bind fun _ _ => .ok trivial

theorem yields_checkFields {kind : ComponentKind} {value : Value} (h : Resolved kind value) :
    Yields (IsPlain kind) (Operation.checkFields value) := by
  obtain ⟨fields, mark, rfl, hp⟩ := h
  unfold Operation.checkFields
  dsimp only
  rw [recordFields?_of_hasTextKeys hp.json.hasTextKeys]
  exact .ok hp

theorem yields_checkFields? {kind : ComponentKind} {value : Value}
    (h : value = .null ∨ Resolved kind value) :
    Yields (fun found => ∀ fields, found = some fields → IsPlain kind fields)
      (Operation.checkFields? value) := by
  unfold Operation.checkFields?
  split
  · exact .ok fun _ hf => nomatch hf
  · next hn =>
    refine (yields_checkFields (h.resolve_left hn)).bind fun fields hp => .ok ?_
    exact fun _ hf => Option.some.inj hf ▸ hp

theorem yields_ofDraft {draft : Operation.Draft} {path : String} (hpath : draft.path = .text path)
    (hid : OrNull IsText draft.operationId) (hsummary : OrNull IsText draft.summary)
    (hdescription : OrNull IsText draft.description)
    (hparameters : ∀ value ∈ draft.parameters, Resolved .parameters value)
    (hbody : draft.requestBody = .null ∨ Resolved .requestBodies draft.requestBody)
    (hresponses : ∀ response ∈ draft.responses, Resolved .responses response.2) :
    Yields HasParts (Operation.ofDraft draft) := by
  unfold Operation.ofDraft
  rw [hpath]
  refine (yields_checkText path).bind fun _ _ => ?_
  refine (yields_checkText? hid).bind fun _ _ => ?_
  refine (yields_checkText? hsummary).bind fun _ _ => ?_
  refine (yields_checkText? hdescription).bind fun _ _ => ?_
  refine (YieldsOr.mapM fun value hm => yields_checkFields (hparameters value hm)).bind fun _ hp => ?_
  refine (yields_checkFields? hbody).bind fun _ hb => ?_
  have hchecked : Yields (fun responses => ∀ response ∈ responses, IsPlain .responses response.2)
      (draft.responses.mapM Operation.checkResponse) := by
    refine YieldsOr.mapM fun response hm => ?_
    exact (yields_checkFields (hresponses response hm)).bind fun _ hr => .ok hr
  exact hchecked.bind fun _ hr => .ok ⟨hp, hb, hr⟩

/-! ### Extraction -/

theorem yields_methodOf (key path : String) :
    Yields (fun _ => True) (Operation.methodOf key (.text path)) := by
  unfold Operation.methodOf
  split
  · exact .ok trivial
  · rw [Scalar.shown, (IsJson.text path).shown]
    exact .error rfl

theorem yields_statusOf (method : Method) (path code : String) :
    Yields (fun _ => True) (Operation.statusOf method.name (.text path) code) := by
  unfold Operation.statusOf
  split
  · exact .ok trivial
  · rw [Scalar.shown, (IsJson.text path).shown]
    exact .error rfl

section

variable {kinds : Fields} (hc : AreComponents kinds) {item operation : Fields} {path : String}
  (ho : IsOperation operation) (hj : IsJson (.ofFields operation))

include hc ho hj

theorem yields_parametersOf (hi : IsPlain .pathItems item) :
    Yields (fun values => ∀ value ∈ values, Resolved .parameters value)
      (Operation.parametersOf (.ofFields kinds) item operation) := by
  have hshape : IsPathItem item := hi.shaped
  obtain ⟨shared, _, hshared, hs⟩ := exists_suitable (hi.json.get "parameters") hshape.parameters
  obtain ⟨own, _, hown, hw⟩ := exists_suitable (hj.get "parameters") ho.parameters
  unfold Operation.parametersOf
  rw [hshared, hown]
  refine YieldsOr.mapM fun value hm => yields_resolveValue hc ?_
  exact (List.mem_append.1 (mem_of_mem_dedup hm)).elim (hs value) (hw value)

theorem yields_requestBodyOf :
    Yields (fun body => body = .null ∨ Resolved .requestBodies body)
      (Operation.requestBodyOf (.ofFields kinds) operation) := by
  unfold Operation.requestBodyOf
  split
  · exact .ok (.inl rfl)
  · next hn =>
    have hs := ho.requestBody.resolve_left hn
    exact (yields_resolveValue hc ⟨hj.get _, hs⟩).mono fun _ hr => .inr hr

theorem yields_responsesOf {method : Method}
    (hv : (operation.get "responses").isVacant = false) :
    Yields (fun responses => ∀ response ∈ responses, Resolved .responses response.2)
      (Operation.responsesOf (.ofFields kinds) method (.text path) operation) := by
  obtain ⟨all, mark, heq, hs⟩ := ho.responses.of_not_vacant hv
  have hjson : IsJson (.map all mark) := heq ▸ hj.get _
  unfold Operation.responsesOf
  rw [heq]
  refine YieldsOr.foldlM (by simp) fun responses (key, response) hm hr => ?_
  obtain ⟨code, rfl⟩ : ∃ code, key = .text code := exists_text_of_hasTextKeys hjson.hasTextKeys hm
  refine (yields_statusOf method path code).bind fun _ _ => ?_
  refine (yields_resolveValue hc ⟨hjson.of_mem_map hm, hs _ hm⟩).bind fun resolved hres => .ok ?_
  intro entry he
  rcases mem_of_mem_putNamed he with heq | he
  · exact heq ▸ hres
  · exact hr entry he

theorem yields_extract {method : Method} (hi : IsPlain .pathItems item)
    (hv : (operation.get "responses").isVacant = false) :
    Yields HasParts (Operation.extract (.ofFields kinds) (.text path) item method operation) := by
  refine (yields_parametersOf hc ho hj hi).bind fun parameters hp => ?_
  refine (yields_requestBodyOf hc ho hj).bind fun body hb => ?_
  refine (yields_responsesOf hc ho hj hv).bind fun responses hr => ?_
  exact yields_ofDraft rfl ho.operationId ho.summary ho.description hp hb hr

end

section

variable {kinds : Fields} (hc : AreComponents kinds)

theorem yields_skip (key path : String) :
    Yields (fun found => ∀ operation, found = some operation → HasParts operation)
      (Operation.skip key path).result :=
  .ok fun _ ho => nomatch ho

include hc

theorem yields_ofField {item : Fields} {path : String} (hi : IsPlain .pathItems item)
    {field : Scalar × Value} (hm : field ∈ item) :
    Yields (fun found => ∀ operation, found = some operation → HasParts operation)
      (Operation.ofField (.ofFields kinds) (.text path) item field).result := by
  have hshape : IsPathItem item := hi.shaped
  obtain ⟨name, hname⟩ := exists_text_of_hasTextKeys hi.json.hasTextKeys hm
  obtain ⟨key, value⟩ := field
  obtain rfl : key = .text name := hname
  unfold Operation.ofField
  refine YieldsOr.result_bind_of_ok rfl ?_
  split
  · exact .ok fun _ ho => nomatch ho
  · next hpassed =>
    refine (yields_methodOf name path).result_bind fun method _ => ?_
    split
    · next operation mark heq =>
      cases heq
      split
      · exact yields_skip _ _
      · next hv =>
        have ho := hshape.operations name operation mark hm (by simpa using hpassed)
        have hj := (hi.json.of_mem_map hm).unmark
        refine (yields_extract hc ho hj hi (by simpa using hv)).result_bind fun made hmade => ?_
        exact .ok fun _ heq => Option.some.inj heq ▸ hmade
    · exact yields_skip _ _

theorem yields_ofPath {path : String} {value : Value} (hj : IsJson value)
    (hs : OrNothing (StandsFor .pathItems IsPathItem) value) :
    Yields (fun operations => ∀ operation ∈ operations, HasParts operation)
      (Operation.ofPath (.ofFields kinds) (.text path, value)).result := by
  unfold Operation.ofPath
  split
  · exact .ok (by simp)
  · next hv =>
    have hsuits : Suits .pathItems value := ⟨hj, hs.of_not_vacant (by simpa using hv)⟩
    refine (yields_resolveValue hc hsuits).result_bind fun resolved hr => ?_
    obtain ⟨item, mark, rfl, hi⟩ := hr
    refine YieldsOr.result_bind_of_ok rfl ?_
    have hfields : Yields (fun made => ∀ found ∈ made, ∀ operation, found = some operation →
        HasParts operation)
        (item.mapM (Operation.ofField (.ofFields kinds) (.text path) item)).result :=
      YieldsOr.result_mapM fun field hm => yields_ofField hc hi hm
    refine hfields.result_bind fun made hmade => .ok fun operation hm => ?_
    obtain ⟨found, hf, rfl⟩ := List.mem_filterMap.1 hm
    exact hmade _ hf operation rfl

theorem yields_ofDocument {fields : Fields} (hj : IsJson (.ofFields fields))
    (hp : OrNothing (IsMapOf (OrNothing (StandsFor .pathItems IsPathItem))) (fields.get "paths")) :
    Yields (fun operations => ∀ operation ∈ operations, HasParts operation)
      (Operation.ofDocument (.ofFields fields) (.ofFields kinds)).result := by
  obtain ⟨paths, mark, heq, hs⟩ := hp.exists_fields
  have hjson : IsJson (.map paths mark) := heq ▸ (hj.get "paths").orEmptyMap
  unfold Operation.ofDocument
  refine YieldsOr.result_bind_of_ok rfl ?_
  refine YieldsOr.result_bind_of_ok (congrArg Value.asFields heq) ?_
  have hall : Yields (fun lists => ∀ operations ∈ lists, ∀ operation ∈ operations,
      HasParts operation) (paths.mapM (Operation.ofPath (.ofFields kinds))).result := by
    refine YieldsOr.result_mapM fun (path, value) hm => ?_
    obtain ⟨name, rfl⟩ : ∃ name, path = .text name :=
      exists_text_of_hasTextKeys hjson.hasTextKeys hm
    exact yields_ofPath hc (hjson.of_mem_map hm) (hs _ hm)
  refine hall.result_bind fun lists hl => ?_
  refine YieldsOr.result_bind_of_ok rfl (.ok ?_)
  intro operation hm
  obtain ⟨operations, ho, hm⟩ := List.mem_flatten.1 hm
  exact hl operations ho operation hm

end

/-! ## Contexts -/

/-- What is known of a document of the right shape: its declarations are schemas, and the parts of
    its operations are components of their kinds. -/
structure IsContext (context : Context) : Prop where
  components : ∃ kinds, context.scope.components = .ofFields kinds ∧ AreComponents kinds
  declarations : ∀ declaration ∈ context.declarations, IsPlain .schemas declaration.schema
  operations : ∀ operation ∈ context.operations, HasParts operation

theorem yields_context {fields : Fields} (h : IsDocument fields) :
    Yields IsContext (Context.ofDocument (.ofFields fields)).result := by
  obtain ⟨kinds, heq, hc, hs⟩ := h.components
  unfold Context.ofDocument
  refine YieldsOr.result_bind_of_ok (ofDocument_eq heq) ?_
  refine (yields_declarations hc heq hs).result_bind fun declarations hd => ?_
  refine (yields_ofDocument hc h.json h.paths).result_bind fun operations ho => ?_
  refine YieldsOr.result_bind_of_ok rfl (.ok ?_)
  exact ⟨⟨kinds, rfl, hc⟩, hd, ho⟩

end RestContract.Shape
