import Mathlib.Order.Filter.AtTopBot.Basic
import Mathlib.Order.Filter.Finite
import RestContract.Generation
import RestContract.Proofs.CodeExpansion
import RestContract.Proofs.SettledValidators

/-!
# Failures of a document of the right shape

From the declarations and operations of a document to the text of its module. Where all values have
the shape of their places, a run fails only in ways that are foreseen, or because there is no room
left to step into a schema. The latter does not happen in a room that is large enough, if no schema
comes up inside itself. Nothing asks for the shapes: in a document that lacks them, a value can be
met that has no fields, and the failure is one that nobody foresaw.
-/

namespace RestContract

/-! ## The schemas of a context -/

/-- The schemas in a content map. -/
def Contract.schemasIn (content : Value) : List Value :=
  match content.asParts with
  | .ok keys => keys.filterMap fun key => (schemaUnder content key).toOption
  | .error _ => []

/-- The schemas of an operation: those of its parameters, of its body and of its responses. -/
def Contract.schemasOf (operation : Operation) : List Value :=
  operation.parameters.map (·.get "schema") ++
    (operation.requestBody.toList ++ operation.responses.map Prod.snd).flatMap fun fields =>
      schemasIn (fields.get "content")

/-- The schemas that a module holds validators of: those of the declarations and of the operations. -/
def Context.schemas (context : Context) : List Value :=
  (context.declarations.map fun declaration => .ofFields declaration.schema) ++
    context.operations.flatMap Contract.schemasOf

namespace Contract

variable {operation : Operation} {fields : Fields} {schema : Value}

theorem mem_schemasIn {content key : Value} {keys : List Value} (hk : content.asParts = .ok keys)
    (hm : key ∈ keys) (hs : schemaUnder content key = .ok schema) : schema ∈ schemasIn content := by
  rw [schemasIn, hk]
  refine List.mem_filterMap.2 ⟨key, hm, ?_⟩
  rw [hs]
  rfl

theorem mem_schemasOf_of_parameter (h : fields ∈ operation.parameters) :
    fields.get "schema" ∈ schemasOf operation :=
  List.mem_append_left _ (List.mem_map_of_mem h)

theorem mem_schemasOf_of_body (h : operation.requestBody = some fields)
    (hs : schema ∈ schemasIn (fields.get "content")) : schema ∈ schemasOf operation := by
  have hm : fields ∈ operation.requestBody.toList := by simp [h]
  exact List.mem_append_right _ (List.mem_flatMap.2 ⟨fields, List.mem_append_left _ hm, hs⟩)

theorem mem_schemasOf_of_response {entry : String × Fields} (h : entry ∈ operation.responses)
    (hs : schema ∈ schemasIn (entry.2.get "content")) : schema ∈ schemasOf operation := by
  have hm : entry.2 ∈ operation.responses.map Prod.snd := List.mem_map_of_mem h
  exact List.mem_append_right _ (List.mem_flatMap.2 ⟨entry.2, List.mem_append_right _ hm, hs⟩)

end Contract

namespace Shape

open Schema Contract Validation

/-- If a schema suits its place, it has a validator that can be written, or compiling it fails with
    an error of a kind. -/
def HasValidatorOr (E : Error → Prop) (scope : Scope) (schema : Value) : Prop :=
  Suits .schemas schema → ∀ p, YieldsOr E Expr.IsWritable (Compile.compile scope schema p).result

/-! ## Content -/

theorem exists_find? {all : Fields} {name : String} (h : .text name ∈ all.map Prod.fst) :
    ∃ field ∈ all, Fields.find? all (.text name) = some field.2 := by
  induction all with
  | nil => cases h
  | cons field rest ih =>
    obtain ⟨key, value⟩ := field
    rw [Fields.find?]
    split
    · exact ⟨_, List.mem_cons_self, rfl⟩
    · next hk =>
      rcases List.mem_cons.1 h with heq | h
      · cases heq
        simp [Scalar.same, Scalar.whole?] at hk
      · obtain ⟨field, hf, heq⟩ := ih h
        exact ⟨field, List.mem_cons_of_mem _ hf, heq⟩

/-- The content of a body or a response: a map whose keys are texts. -/
structure IsContent (content : Value) (all : Fields) : Prop where
  eq : content = .ofFields all
  json : IsJson (.ofFields all)
  media : ∀ field ∈ all, OrNothing IsMedia field.2

theorem exists_content {fields : Fields} (hj : IsJson (.ofFields fields)) (h : HasContent fields)
    (hv : (fields.get "content").isVacant = false) :
    ∃ all, IsContent (fields.get "content") all := by
  obtain ⟨all, mark, heq, hm⟩ := h.of_not_vacant hv
  have hjson : IsJson (.map all mark) := heq ▸ hj.get _
  cases hjson with
  | map hk hjv => exact ⟨all, heq, .map hk hjv, hm⟩

def keys (all : Fields) : List Value := all.map fun (key, _) => .scalar key

theorem exists_text_of_mem_keys {all : Fields} (hk : all.hasTextKeys = true) {key : Value}
    (hm : key ∈ keys all) : ∃ name, key = .text name ∧ .text name ∈ all.map Prod.fst := by
  obtain ⟨field, hf, rfl⟩ := List.mem_map.1 hm
  obtain ⟨name, hname⟩ := exists_text_of_hasTextKeys hk hf
  exact ⟨name, congrArg Value.scalar hname, hname ▸ List.mem_map_of_mem hf⟩

theorem exists_media {value : Value} (h : OrNothing IsMedia value) :
    ∃ fields mark, value.orEmptyMap = .map fields mark ∧
      OrNull SchemaOrReference (Fields.get fields "schema") := by
  unfold Value.orEmptyMap
  split
  · exact ⟨[], none, rfl, .inl rfl⟩
  · next hv => exact h.of_not_vacant (by simpa using hv)

theorem IsContent.asParts {content : Value} {all : Fields} (h : IsContent content all) :
    content.asParts = .ok (keys all) := by
  rw [h.eq]
  rfl

theorem yields_schemaUnder {content : Value} {all : Fields} (h : IsContent content all)
    {key : Value} (hm : key ∈ keys all) :
    Yields (fun schema => OrNull (Suits .schemas) schema ∧ schema ∈ schemasIn content)
      (schemaUnder content key) := by
  obtain ⟨name, rfl, hname⟩ := exists_text_of_mem_keys h.json.hasTextKeys hm
  obtain ⟨field, hf, hfind⟩ := exists_find? hname
  have hpart : content.part (.text name) = .ok field.2 := by
    rw [h.eq, Value.part, hfind]
  obtain ⟨fields, mark, heq, hs⟩ := exists_media (h.media field hf)
  have hjson : IsJson (.map fields mark) := heq ▸ (h.json.of_mem_map hf).orEmptyMap
  have hunder : schemaUnder content (.text name) = .ok (Fields.get fields "schema") := by
    rw [schemaUnder, hpart, ok_bind, heq]
    rfl
  rw [hunder]
  exact .ok ⟨hs.imp_right fun hs => ⟨hjson.get _, hs⟩, mem_schemasIn h.asParts hm hunder⟩

theorem yields_firstJson {names : List Value} (h : ∀ key ∈ names, IsText key) :
    Yields (fun found => ∀ key, found = some key → key ∈ names) (firstJson names) := by
  induction names with
  | nil => exact .ok fun _ hf => nomatch hf
  | cons key rest ih =>
    obtain ⟨⟨s, rfl⟩, hrest⟩ := List.forall_mem_cons.1 h
    unfold firstJson
    rw [namesJson, ok_bind]
    split
    · exact .ok fun _ hf => Option.some.inj hf ▸ List.mem_cons_self
    · exact (ih hrest).mono fun found hf key hk => List.mem_cons_of_mem _ (hf key hk)

theorem yields_selectBody {names : List Value} (h : ∀ key ∈ names, IsText key) :
    Yields (fun selected => selected.1 ∈ names) (selectBody names) := by
  unfold selectBody
  refine (yields_firstJson h).bind fun found hf => ?_
  split
  · next key => exact .ok (hf key rfl)
  · split
    · next hfind => exact .ok (List.mem_of_find?_eq_some hfind)
    · have hjson : IsJson (names.head?.getD (.text "")) := by
        cases names with
        | nil => exact .text ""
        | cons key rest =>
          obtain ⟨s, rfl⟩ := h key List.mem_cons_self
          exact .text s
      rw [hjson.shown]
      exact .error rfl

theorem yields_selectResponse {names : List Value} (h : names ≠ []) :
    Yields (fun key => key ∈ names) (selectResponse names) := by
  unfold selectResponse
  split
  · next hfind => exact .ok (List.mem_of_find?_eq_some hfind)
  · split
    · exact .ok List.mem_cons_self
    · exact absurd rfl h

theorem yields_contentTypeProperty {key : Value} (h : IsJson key) :
    Yields Property.IsWritable (contentTypeProperty key) := by
  unfold contentTypeProperty
  split
  · exact .ok trivial
  · exact (Expr.yields_constant h).bind fun e he => .ok (Expr.isWritable_property_iff.2 he)

/-! ## Entries -/

section

variable {E : Error → Prop} {scope : Scope} {operation : Operation}

theorem yields_compileOrNothing {schema : Value} (h : OrNull (Suits .schemas) schema)
    (hv : HasValidatorOr E scope schema) :
    YieldsOr E Expr.IsWritable (compileOrNothing scope schema).result := by
  unfold compileOrNothing
  split
  · exact .ok (by simp [nothing])
  · next hn => exact hv (h.of_not_null (by simpa using hn)) _

variable (hE : ∀ e, e.isForeseen = true → E e)

include hE

theorem yields_parameter {fields : Fields} (h : IsPlain .parameters fields)
    (hv : HasValidatorOr E scope (fields.get "schema")) (place : Place) :
    YieldsOr E Property.IsWritable (parameter scope place fields).result := by
  have hshape : IsParameter fields := h.shaped
  unfold parameter
  dsimp only
  split
  · exact YieldsOr.result_bind_of_ok (h.json.get "name").shown (.error (hE _ rfl))
  · next hn =>
    obtain ⟨hschema, hname⟩ := hshape.of_not_null (by simpa using hn)
    split
    · next hnone => simp [Fields.has, hnone] at hname
    · next name hg =>
      have hcompiled := hv ⟨h.json.get "schema", hschema⟩
      exact (hcompiled _).result_bind fun e he => .ok ⟨(h.json.get? hg).exists_writeWith _ _, he⟩

theorem yields_placed {fields : Fields} (h : IsPlain .parameters fields)
    (hv : HasValidatorOr E scope (fields.get "schema")) :
    YieldsOr E (fun found => ∀ entry, found = some entry → entry.2.IsWritable)
      (placed scope operation fields).result := by
  unfold placed
  dsimp only
  split
  · exact YieldsOr.result_bind_of_ok rfl (.ok fun _ hf => nomatch hf)
  · split
    · exact .ok fun _ hf => nomatch hf
    · refine (yields_parameter hE h hv _).result_bind fun property hp => .ok ?_
      exact fun _ hf => Option.some.inj hf ▸ hp

theorem yields_requestBody {fields : Fields} (h : IsPlain .requestBodies fields)
    (hv : ∀ schema ∈ schemasIn (fields.get "content"), HasValidatorOr E scope schema) :
    YieldsOr E (fun body => body.1.IsWritable) (requestBody scope operation fields).result := by
  unfold requestBody
  dsimp only
  split
  · exact .error (hE _ rfl)
  · next hvacant =>
    obtain ⟨all, hall⟩ := exists_content h.json h.shaped (by simpa using hvacant)
    refine YieldsOr.result_bind_of_ok hall.asParts ?_
    have htexts : ∀ key ∈ keys all, IsText key := fun key hm =>
      have ⟨name, hname, _⟩ := exists_text_of_mem_keys hall.json.hasTextKeys hm
      ⟨name, hname⟩
    refine YieldsOr.result_bind ((yields_selectBody htexts).weaken hE) fun selected hsel => ?_
    refine YieldsOr.result_bind ((yields_schemaUnder hall hsel).weaken hE) fun schema hs => ?_
    exact (yields_compileOrNothing hs.1 (hv schema hs.2)).result_bind fun e he => .ok he

theorem yields_body (h : HasParts operation)
    (hv : ∀ schema ∈ schemasOf operation, HasValidatorOr E scope schema) :
    YieldsOr E (fun body => ∀ e, body.1 = some e → e.IsWritable)
      (Contract.body scope operation).result := by
  unfold Contract.body
  split
  · next fields hf =>
    have hbody : YieldsOr E (fun body => body.1.IsWritable)
        (requestBody scope operation fields).result :=
      yields_requestBody hE (h.requestBody fields hf) fun schema hs =>
        hv schema (mem_schemasOf_of_body hf hs)
    exact hbody.result_bind fun body hb => .ok fun _ he => Option.some.inj he ▸ hb
  · split
    · exact .ok fun _ he => nomatch he
    · exact .ok fun _ he => Option.some.inj he ▸ (by simp [nothing])

theorem yields_response {fields : Fields} (h : IsPlain .responses fields)
    (hv : ∀ schema ∈ schemasIn (fields.get "content"), HasValidatorOr E scope schema) :
    YieldsOr E Expr.IsWritable (response scope fields).result := by
  unfold response
  dsimp only
  split
  · exact .ok (by simp [nothing])
  · next hn =>
    have hvacant : (fields.get "content").isVacant = false := by simpa using hn
    obtain ⟨all, hall⟩ := exists_content h.json h.shaped hvacant
    have hne : keys all ≠ [] := by
      rintro hnil
      rw [hall.eq, List.map_eq_nil_iff.1 hnil] at hvacant
      cases hvacant
    refine YieldsOr.result_bind_of_ok hall.asParts ?_
    refine YieldsOr.result_bind ((yields_selectResponse hne).weaken hE) fun key hkey => ?_
    refine YieldsOr.result_bind ((yields_schemaUnder hall hkey).weaken hE) fun schema hs => ?_
    refine (yields_compileOrNothing hs.1 (hv schema hs.2)).result_bind fun e he => ?_
    split
    · exact .ok he
    · obtain ⟨name, rfl, _⟩ := exists_text_of_mem_keys hall.json.hasTextKeys hkey
      have hproperty := (yields_contentTypeProperty (.text name)).weaken hE
      exact YieldsOr.result_bind hproperty fun property hp => .ok (by simp [hp, he])

theorem yields_responses (h : HasParts operation)
    (hv : ∀ schema ∈ schemasOf operation, HasValidatorOr E scope schema) :
    YieldsOr E (fun table => ∀ entry ∈ table, entry.2.IsWritable)
      (Contract.responses scope operation).result := by
  let good : Fields → Prop := fun fields => IsPlain .responses fields ∧
    ∀ schema ∈ schemasIn (fields.get "content"), HasValidatorOr E scope schema
  have hclassified : YieldsOr E (fun classified => ∀ entry ∈ classified, good entry.2.2)
      (operation.responses.mapM (classify operation)) := by
    refine YieldsOr.mapM fun entry he => ?_
    have hstatus := (yields_statusOf operation.method operation.path entry.1).weaken hE
    refine hstatus.bind fun kind _ => .ok ⟨h.responses entry he, fun schema hs => ?_⟩
    exact hv schema (mem_schemasOf_of_response he hs)
  refine YieldsOr.result_bind hclassified fun classified hresponses => ?_
  have hshares : YieldsOr E (fun lists => ∀ codes ∈ lists, ∀ entry ∈ codes,
      Expr.IsWritable entry.2) ((expand classified).mapM (share scope)).result := by
    refine YieldsOr.result_mapM fun s hm => ?_
    obtain ⟨hplain, hvalidators⟩ : good s.response := allRespond_expand hresponses s hm
    refine (yields_response hE hplain hvalidators).result_bind fun e he => .ok fun entry hentry => ?_
    obtain ⟨code, _, rfl⟩ := List.mem_map.1 hentry
    exact he
  refine hshares.result_bind fun lists hl => .ok fun entry hm => ?_
  rw [sortByCode, List.mem_mergeSort] at hm
  obtain ⟨codes, hcodes, hentry⟩ := List.mem_flatten.1 hm
  exact hl codes hcodes entry hentry

omit hE in
theorem isWritable_group {place : Place} {all : List (Place × Property)} {e : Expr}
    (h : ∀ entry ∈ all, entry.2.IsWritable) (he : group place all = some e) : e.IsWritable := by
  unfold group at he
  split at he
  · cases he
  · next properties _ =>
    cases he
    simp only [Expr.isWritable_z_iff, List.forall_mem_singleton, Expr.isWritable_object_iff]
    intro property hp
    obtain ⟨⟨p, found⟩, hf, heq⟩ := List.mem_filterMap.1 hp
    dsimp only at heq
    split at heq
    · cases heq
      exact h _ hf
    · cases heq

omit hE in
theorem isWritable_optional {key : String} {value : Option Expr}
    (h : ∀ e, value = some e → e.IsWritable) :
    ∀ p ∈ Contract.optional key value, p.IsWritable := by
  cases value with
  | none => simp [Contract.optional]
  | some e => simpa [Contract.optional] using h e rfl

omit hE in
theorem isWritable_table {named : List (String × Expr)} (h : ∀ entry ∈ named, entry.2.IsWritable) :
    (table named).IsWritable := by
  refine Expr.isWritable_object_iff.2 fun p hp => ?_
  obtain ⟨entry, he, rfl⟩ := List.mem_map.1 hp
  exact Expr.isWritable_property_iff.2 (h entry he)

omit hE in
theorem isWritable_toExpr {entry : Entry} (hheaders : ∀ e, entry.headers = some e → e.IsWritable)
    (hquery : ∀ e, entry.query = some e → e.IsWritable)
    (hpath : ∀ e, entry.pathParams = some e → e.IsWritable)
    (hbody : ∀ e, entry.body = some e → e.IsWritable)
    (hresponses : ∀ response ∈ entry.responses, response.2.IsWritable) :
    entry.toExpr.IsWritable := by
  have htext : ∀ (s : Option String) e, s.map Expr.text = some e → e.IsWritable := by
    intro s e he
    obtain ⟨text, _, rfl⟩ := Option.map_eq_some_iff.1 he
    exact Expr.isWritable_text text
  simp only [Entry.toExpr, Expr.isWritable_object_iff, List.forall_mem_append, List.forall_mem_cons,
    List.not_mem_nil, false_implies, implies_true, Expr.isWritable_property_iff,
    Expr.isWritable_text, and_true, true_and]
  refine ⟨⟨⟨⟨⟨⟨?_, ?_⟩, ?_⟩, ?_⟩, ?_⟩, ?_⟩, ?_⟩
  · exact isWritable_optional (htext _)
  · exact isWritable_optional hheaders
  · exact isWritable_optional hquery
  · exact isWritable_optional hpath
  · exact isWritable_optional hbody
  · exact isWritable_optional (htext _)
  · exact isWritable_table hresponses

/-- The entry of an operation can be written. -/
theorem yields_assemble (h : HasParts operation)
    (hv : ∀ schema ∈ schemasOf operation, HasValidatorOr E scope schema) :
    YieldsOr E (fun entry => entry.toExpr.IsWritable) (assemble scope operation).result := by
  have hparameters : YieldsOr E (fun found => ∀ entry ∈ found, ∀ placed, entry = some placed →
      placed.2.IsWritable) (operation.parameters.mapM (placed scope operation)).result :=
    YieldsOr.result_mapM fun fields hm =>
      yields_placed hE (h.parameters fields hm) (hv _ (mem_schemasOf_of_parameter hm))
  refine hparameters.result_bind fun found hfound => ?_
  refine (yields_body hE h hv).result_bind fun body hbody => ?_
  refine (yields_responses hE h hv).result_bind fun table htable => .ok ?_
  have hplaced : ∀ entry ∈ found.filterMap id, entry.2.IsWritable := by
    intro entry he
    obtain ⟨option, ho, heq⟩ := List.mem_filterMap.1 he
    exact hfound option ho entry heq
  have hgroup : ∀ place e, group place (found.filterMap id) = some e → e.IsWritable :=
    fun _ _ => isWritable_group hplaced
  exact isWritable_toExpr (hgroup _) (hgroup _) (hgroup _) hbody htable

end

/-! ## Modules -/

section

open Emission

variable {E : Error → Prop} {context : Context} (hE : ∀ e, e.isForeseen = true → E e)
  (h : IsContext context) (hv : ∀ schema ∈ context.schemas, HasValidatorOr E context.scope schema)

include h hv

theorem yields_declarationLine {declaration : Declaration}
    (hd : declaration ∈ context.declarations) :
    YieldsOr E (fun _ => True) (declarationLine context.scope declaration).result := by
  have hplain := h.declarations declaration hd
  have hsuits : Suits .schemas (.ofFields declaration.schema) :=
    ⟨hplain.json, .plain hplain.plain hplain.shaped⟩
  have hm : .ofFields declaration.schema ∈ context.schemas :=
    List.mem_append_left _ (List.mem_map_of_mem hd)
  refine (hv _ hm hsuits .unstated).result_bind fun e he => ?_
  exact YieldsOr.result_bind_of_ok (Expr.render_of_isWritable he) (.ok trivial)

theorem yields_schemaLines : YieldsOr E (fun _ => True) (schemaLines context).result := by
  unfold schemaLines
  split
  · exact .ok trivial
  · have hlines : YieldsOr E (fun lines => ∀ line ∈ lines, True)
        (context.declarations.mapM (declarationLine context.scope)).result :=
      YieldsOr.result_mapM fun declaration hd => yields_declarationLine h hv hd
    have hexported : (exported context.declarations).IsWritable := by
      refine Expr.isWritable_object_iff.2 fun p hp => ?_
      obtain ⟨declaration, _, rfl⟩ := List.mem_map.1 hp
      trivial
    refine hlines.result_bind fun _ _ => ?_
    exact YieldsOr.result_bind_of_ok (Expr.render_of_isWritable hexported) (.ok trivial)

include hE

theorem yields_contractLine : YieldsOr E (fun _ => True) (contractLine context).result := by
  have hentries : YieldsOr E (fun entries => ∀ entry ∈ entries, Expr.IsWritable (Entry.toExpr entry))
      (context.operations.mapM (Contract.assemble context.scope)).result := by
    refine YieldsOr.result_mapM fun operation hm => ?_
    refine yields_assemble hE (h.operations operation hm) fun schema hs => hv schema ?_
    exact List.mem_append_right _ (List.mem_flatMap.2 ⟨operation, hm, hs⟩)
  refine hentries.result_bind fun entries he => ?_
  have hrouter : (Contract.router entries).IsWritable := by
    rw [Contract.router, Expr.isWritable_c_iff, List.forall_mem_singleton]
    refine isWritable_table fun named hn => ?_
    obtain ⟨entry, hm, rfl⟩ := List.mem_map.1 hn
    exact he entry hm
  refine YieldsOr.result_bind_of_ok rfl ?_
  exact YieldsOr.result_bind_of_ok (Expr.render_of_isWritable hrouter) (.ok trivial)

theorem yields_moduleText : YieldsOr E (fun _ => True) (moduleText context).result := by
  have hlines : YieldsOr E (fun _ => True) (moduleLines context).result := by
    refine (yields_schemaLines h hv).result_bind fun _ _ => ?_
    exact (yields_contractLine hE h hv).result_bind fun _ _ => .ok trivial
  exact hlines.result_bind fun _ _ => .ok trivial

end

theorem yields_version {fields : Fields} (hj : IsJson (.ofFields fields)) :
    Yields (fun _ => True) (Document.version (.ofFields fields)) := by
  unfold Document.version
  dsimp only
  split
  · next older hg =>
    rw [(hj.get? hg).shown]
    exact .error rfl
  · split
    · exact .error rfl
    · unfold Document.supported
      rw [(hj.get "openapi").shown, ok_bind]
      split
      · exact .ok trivial
      · exact .error rfl

theorem yields_emitIn {E : Error → Prop} (hE : ∀ e, e.isForeseen = true → E e) {fields : Fields}
    (h : IsDocument fields) {room : Nat}
    (hv : ∀ context, (Context.ofDocument (.ofFields fields)).result = .ok context →
      IsContext context → ∀ schema ∈ context.schemas,
        HasValidatorOr E (context.within room).scope schema) (settings : Settings) :
    YieldsOr E (fun _ => True) (Generation.emitIn room settings (.ofFields fields)).result := by
  have hcontext := yields_context h
  have hmodule : YieldsOr E (fun _ => True) (Context.ofDocument (.ofFields fields) >>= fun context =>
      Emission.moduleText (context.within room)).result := by
    refine (hcontext.self.weaken hE).result_bind fun context hc => ?_
    have hshaped : IsContext context := hcontext.value context hc
    exact yields_moduleText hE ⟨hshaped.components, hshaped.declarations, hshaped.operations⟩
      (hv context hc hshaped)
  unfold Generation.emitIn
  split
  · exact ((yields_version h.json).weaken hE).result_bind fun _ _ => hmodule
  · exact hmodule

/-- What holds of each member of a list from some room on holds of all of them from some room on. -/
theorem exists_room_of_forall_mem {α : Type} {holds : Nat → α → Prop} {xs : List α}
    (h : ∀ x ∈ xs, ∃ room, ∀ more, room ≤ more → holds more x) :
    ∃ room, ∀ more, room ≤ more → ∀ x ∈ xs, holds more x := by
  simp only [← ge_iff_le, ← Filter.eventually_atTop] at h ⊢
  exact (Filter.eventually_all_finite (List.finite_toSet xs)).2 h

theorem compileAt_within (context : Context) (more room steps : Nat) :
    Compile.compileAt (context.within more).scope room steps =
      Compile.compileAt context.scope room steps := by
  induction room generalizing steps with
  | zero => rfl
  | succ room ih =>
    cases steps with
    | zero =>
      simp only [Compile.compileAt, ih]
      rfl
    | succ steps => exact ih steps

/-- There is room for a schema that does not come up inside itself. -/
theorem exists_room_of_not_repeats {context : Context} (h : IsContext context) {schema : Value}
    (hn : ¬ Compile.Repeats context.scope schema) :
    ∃ room, ∀ more, room ≤ more →
      HasValidatorOr (·.isForeseen = true) (context.within more).scope schema := by
  by_cases hs : Suits .schemas schema
  · obtain ⟨kinds, heq, hc⟩ := h.components
    have hpresence : ∀ p ∈ [Presence.required, .optional, .unstated], ∃ room, ∀ more, room ≤ more →
        Yields Expr.IsWritable (Compile.compile (context.within more).scope schema p).result := by
      intro p _
      obtain ⟨x, room, hx, hyields⟩ :=
        exists_of_ends hc heq ((Compile.grounded_of_reached hn .refl).ends p) hs
      refine ⟨room, fun more hle => ?_⟩
      rw [Compile.compile, compileAt_within]
      exact (hx more hle).symm ▸ hyields
    obtain ⟨room, hroom⟩ := exists_room_of_forall_mem hpresence
    exact ⟨room, fun more hle _ p => hroom more hle p (by cases p <;> simp)⟩
  · exact ⟨0, fun _ _ hsuits => absurd hsuits hs⟩

end Shape

/-- For a document of the right shape there is a module, or a failure of a category, or there is no
    room left to step into a schema. Where no schema comes up inside itself, there is room enough, and
    then the last does not happen. -/
theorem Generation.isForeseen_of_shaped {fields : Fields} (h : Shape.IsDocument fields)
    (settings : Settings) :
    (∀ room, (∃ text, (emitIn room settings (.ofFields fields)).result = .ok text) ∨
      ∃ e, (emitIn room settings (.ofFields fields)).result = .error e ∧
        (e.isForeseen = true ∨ e = .fault .endlessNesting)) ∧
    ((∀ context, (Context.ofDocument (.ofFields fields)).result = .ok context →
        ∀ schema ∈ context.schemas, ¬ Compile.Repeats context.scope schema) →
      ∃ room, ∀ more, room ≤ more →
        (∃ text, (emitIn more settings (.ofFields fields)).result = .ok text) ∨
          ∃ e, (emitIn more settings (.ofFields fields)).result = .error e ∧ e.isForeseen = true) := by
  constructor
  · intro room
    refine (Shape.yields_emitIn (fun _ => .inl) h ?_ settings).exists_or
    intro context _ hshaped schema _ hs p
    obtain ⟨kinds, heq, hc⟩ := hshaped.components
    rw [Compile.compile, Shape.compileAt_within]
    exact Shape.compilesOr_compileAt hc heq room 0 schema p hs
  · intro hn
    cases hr : (Context.ofDocument (.ofFields fields)).result with
    | error e =>
      refine ⟨0, fun more _ => (Shape.yields_emitIn (fun _ => id) h ?_ settings).exists_or⟩
      intro context hc
      cases hr.symm.trans hc
    | ok context =>
      have hshaped : Shape.IsContext context := (Shape.yields_context h).value context hr
      obtain ⟨room, hroom⟩ := Shape.exists_room_of_forall_mem fun schema hm =>
        Shape.exists_room_of_not_repeats hshaped (hn context hr schema hm)
      refine ⟨room, fun more hle => ?_⟩
      refine (Shape.yields_emitIn (fun _ => id) h ?_ settings).exists_or
      intro found hfound _
      cases hr.symm.trans hfound
      exact hroom more hle

/-! ## An object with one property -/

/-- An object with a property that follows a schema. -/
def objectOf (schema : Value) : List (String × Value) :=
  [("type", .text "object"), ("properties", .object [("x", schema)])]

def objectComponents (schema : Value) : Value :=
  .object [("schemas", .object [("A", .object (objectOf schema))])]

def objectFields (schema : Value) : Fields :=
  Schema.textFields [("openapi", .text "3.1.0"), ("paths", .object []),
    ("components", objectComponents schema)]

theorem isJson_object {schema : Value} (h : IsJson schema) :
    IsJson (.ofFields (objectFields schema)) := by
  show IsJson (.object _)
  simp [objectComponents, objectOf, h]

namespace Shape

theorem isSchema_object {schema : Value} (h : SchemaOrReference schema) :
    IsSchema (Schema.textFields (objectOf schema)) := by
  have habsent : ∀ name ∈ ["allOf", "oneOf", "anyOf", "required", "enum", "pattern", "format"],
      (Schema.textFields (objectOf schema)).get? name = none := by
    simp [Schema.get?_textFields, objectOf, List.lookup_cons]
  refine .intro (hasKeywords_of_absent habsent (.inr ⟨_, _, rfl⟩)) fun inner hi => ?_
  cases hi with
  | member hk hl =>
    simp only [Schema.compositionKeywords, List.mem_cons, List.not_mem_nil, or_false] at hk
    rcases hk with rfl | rfl | rfl <;> cases hl
  | items hn => cases hn
  | property hp hm =>
    cases hp
    rw [List.mem_singleton.1 hm]
    exact h
  | additional ha => cases ha

theorem areComponents_object {schema : Value} (hj : IsJson schema) (h : SchemaOrReference schema) :
    AreComponents
      (Schema.textFields [("schemas", .object [("A", .object (objectOf schema))])]) where
  json := by
    show IsJson (.object _)
    simp [objectOf, hj]
  shaped kind named mark hn entry he fields own heq := by
    cases kind with
    | schemas =>
      cases hn
      rw [List.mem_singleton.1 he]
      exact .plain rfl (isSchema_object h)
    | _ => cases hn

theorem isDocument_object {schema : Value} (hj : IsJson schema) (h : SchemaOrReference schema) :
    IsDocument (objectFields schema) where
  json := isJson_object hj
  components := ⟨_, rfl, areComponents_object hj h, .inr ⟨_, _, rfl⟩⟩
  paths := .inl rfl

end Shape

/-- What a document with this object says. -/
def objectContext (schema : Value) : Context where
  document := .ofFields (objectFields schema)
  scope :=
    { components := objectComponents schema
      declarations :=
        [⟨"A", "A", "#/components/schemas/A", Schema.textFields (objectOf schema)⟩] }
  operations := []

open Schema in
theorem ofDocument_object {schema : Value} (hn : nested (textFields (objectOf schema)) = .ok [schema])
    (hw : ∀ walk, Walk.run (objectComponents schema) [(schema, refTo "A")] walk = .ok walk) :
    (Context.ofDocument (.ofFields (objectFields schema))).result = .ok (objectContext schema) := by
  have hs : componentSchemas (.ofFields (objectFields schema)) =
      .ok (.map (textFields [("A", .object (objectOf schema))]) none) := rfl
  exact Context.result_ofDocument_single rfl hs ((Walk.run_map rfl hn).trans (hw _)) rfl rfl

theorem Generation.result_emitIn_object {schema : Value}
    (h : (Context.ofDocument (.ofFields (objectFields schema))).result = .ok (objectContext schema))
    (room : Nat) (settings : Settings) :
    (emitIn room settings (.ofFields (objectFields schema))).result =
      (Emission.moduleText ((objectContext schema).within room)).result := by
  have hmodule : (Context.ofDocument (.ofFields (objectFields schema)) >>= fun context =>
      Emission.moduleText (context.within room)).result =
      (Emission.moduleText ((objectContext schema).within room)).result := by
    rw [Traced.result_bind, h, ok_bind]
  have hversion : Document.version (.ofFields (objectFields schema)) = .ok "3.1.0" :=
    if_pos (by decide +kernel)
  unfold emitIn
  cases settings.checkVersion with
  | false => exact hmodule
  | true =>
    refine (Traced.result_bind _ _).trans ?_
    rw [Traced.result_liftM, hversion]
    exact hmodule

theorem ofDocument_textObject :
    (Context.ofDocument (.ofFields (objectFields Compile.plainText))).result =
      .ok (objectContext Compile.plainText) :=
  ofDocument_object rfl fun _ => (Schema.Walk.run_map rfl rfl).trans (Schema.Walk.run_nil ..)

theorem Compile.not_repeats_textObject {schema : Value}
    (hm : schema ∈ (objectContext plainText).schemas) :
    ¬ Repeats (objectContext plainText).scope schema := by
  cases List.mem_singleton.1 hm
  refine Grounded.not_repeats (Acc.intro _ fun inner hi => ?_)
  have htaken := hi.taken rfl
  generalize htype : (Schema.textFields (objectOf plainText)).get "type" = type at htaken
  -- the property is all that is entered from the object
  cases htaken with
  | member hc => cases hc
  | tag => cases htype
  | items => simp [objectOf, Schema.textFields, Fields.get, Fields.get?] at htype
  | additional _ _ _ _ ha => cases ha
  | property _ _ _ _ he hm =>
    cases he
    cases List.mem_singleton.1 hm
    exact grounded_plainText _

/-- The lines for an object with one property, which is a text. -/
def objectLines : List String :=
  ["const A = z.object(\x7b \"x\": z.string().optional() \x7d);", "",
    "export const schemas = \x7b A \x7d;", ""]

theorem Emission.result_schemaLines_textObject (room : Nat) :
    (schemaLines ((objectContext Compile.plainText).within (room + 6))).result =
      .ok objectLines := by
  rfl

theorem Emission.result_contractLine_textObject (room : Nat) :
    (contractLine ((objectContext Compile.plainText).within room)).result =
      .ok "export const contract = c.router(\x7b\x7d);" := by
  rfl

/-- The module of such an object. -/
def objectText : String :=
  "import \x7b initContract \x7d from \"@ts-rest/core\";\n" ++
    "import \x7b z \x7d from \"zod\";\n\nconst c = initContract();\n\n" ++
    "const A = z.object(\x7b \"x\": z.string().optional() \x7d);\n\n" ++
    "export const schemas = \x7b A \x7d;\n\nexport const contract = c.router(\x7b\x7d);\n"

theorem Emission.result_moduleText_textObject (room : Nat) :
    (moduleText ((objectContext Compile.plainText).within (room + 6))).result = .ok objectText := by
  have hjoined : String.join ((opening ++ objectLines ++
      ["export const contract = c.router(\x7b\x7d);"]).map (· ++ "\n")) = objectText := by
    decide +kernel
  simp only [moduleText, moduleLines, Traced.result_bind, result_schemaLines_textObject,
    result_contractLine_textObject, ok_bind, Traced.result_pure, hjoined]

/-- There is a text for an object with one property in every room for six steps and more. -/
theorem Generation.isForeseen_of_shaped_object :
    Shape.IsDocument (objectFields Compile.plainText) ∧
      (∀ context, (Context.ofDocument (.ofFields (objectFields Compile.plainText))).result =
          .ok context → ∀ schema ∈ context.schemas, ¬ Compile.Repeats context.scope schema) ∧
      (∃ room, ∀ more, room ≤ more →
        (∃ text, (emitIn more .default (.ofFields (objectFields Compile.plainText))).result =
          .ok text) ∨
        ∃ e, (emitIn more .default (.ofFields (objectFields Compile.plainText))).result = .error e ∧
          e.isForeseen = true) ∧
      ∀ room, 6 ≤ room →
        (emitIn room .default (.ofFields (objectFields Compile.plainText))).result =
          .ok objectText := by
  have hjson : IsJson Compile.plainText := by simp [Compile.plainText]
  have hshaped := Shape.isDocument_object hjson (.plain rfl Shape.isSchema_plainText)
  have hrepeats : ∀ context,
      (Context.ofDocument (.ofFields (objectFields Compile.plainText))).result = .ok context →
      ∀ schema ∈ context.schemas, ¬ Compile.Repeats context.scope schema := by
    intro context hc
    cases ofDocument_textObject.symm.trans hc
    exact fun _ => Compile.not_repeats_textObject
  refine ⟨hshaped, hrepeats, (isForeseen_of_shaped hshaped .default).2 hrepeats, fun room hle => ?_⟩
  obtain ⟨room, rfl⟩ : ∃ left, room = left + 6 := ⟨room - 6, by omega⟩
  rw [result_emitIn_object ofDocument_textObject, Emission.result_moduleText_textObject]

theorem ofDocument_anything :
    (Context.ofDocument (.ofFields (objectFields (.bool true)))).result =
      .ok (objectContext (.bool true)) := by
  refine ofDocument_object rfl fun walk => ?_
  refine (Schema.Walk.run_leaf fun _ _ h => ?_).trans (Schema.Walk.run_nil ..)
  cases h

/-- There is no module for an object with a property that can be anything, and the failure has no
    category. -/
theorem Generation.exists_unforeseen :
    ∃ fields, IsJson (.ofFields fields) ∧ ∀ settings, ∃ e,
      (emit settings (.ofFields fields)).result = .error e ∧ e.isForeseen = false ∧
        e ≠ .fault .endlessNesting := by
  refine ⟨objectFields (.bool true), isJson_object (.bool true), fun settings => ?_⟩
  refine ⟨.fault .noSuchPart, ?_, rfl, by simp⟩
  rw [emit, result_emitIn_object ofDocument_anything]
  rfl

end RestContract
