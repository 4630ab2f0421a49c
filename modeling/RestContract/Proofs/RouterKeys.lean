import Mathlib.Data.Option.Basic
import RestContract.Proofs.DeclarationOrder
import RestContract.Proofs.ExtractionRuns
import RestContract.Proofs.ModuleText

/-!
# Keys of the router

The router holds one property for each operation, in the order of the operations, and its key is the
name that the contract gives to the operation. Nothing keeps two operations from having one name:
where that happens, the last of them is the one that the router has under its name.
-/

namespace RestContract.Contract

open Schema Expr

/-- The key of a property, where it is a text. -/
def key? : Property → Option String
  | .valued (.text key) _ => some key
  | _ => none

/-- What an object has under a name: of several properties of one key, the last counts. -/
def reached : List Property → String → Option Expr
  | [], _ => none
  | .valued (.text key) e :: rest, name =>
    match reached rest name with
    | some found => some found
    | none => if key = name then some e else none
  | _ :: rest, name => reached rest name

/-- The properties of the router. -/
def routes (entries : List Entry) : List Property :=
  entries.map fun entry => Expr.property entry.name entry.toExpr

theorem router_eq (entries : List Entry) :
    router entries = Expr.c "router" [.object (routes entries)] := by
  rw [router, table, List.map_map]
  rfl

theorem keys_routes (entries : List Entry) :
    (routes entries).map key? = entries.map fun entry => some entry.name := by
  rw [routes, List.map_map]
  rfl

theorem reached_routes_of_not_mem {entries : List Entry} {name : String}
    (h : ∀ entry ∈ entries, entry.name ≠ name) : reached (routes entries) name = none := by
  induction entries with
  | nil => rfl
  | cons entry rest ih =>
    have hrest := ih fun later hl => h later (List.mem_cons_of_mem _ hl)
    have hne : entry.name ≠ name := h entry List.mem_cons_self
    show (match reached (routes rest) name with
      | some found => some found
      | none => if entry.name = name then some entry.toExpr else none) = none
    rw [hrest]
    exact if_neg hne

/-- Under the name of an entry stands the last entry of that name. -/
theorem reached_routes {before after : List Entry} {entry : Entry}
    (h : ∀ later ∈ after, later.name ≠ entry.name) :
    reached (routes (before ++ entry :: after)) entry.name = some entry.toExpr := by
  induction before with
  | nil =>
    show (match reached (routes after) entry.name with
      | some found => some found
      | none => if entry.name = entry.name then some entry.toExpr else none) = _
    rw [reached_routes_of_not_mem h]
    exact if_pos rfl
  | cons first rest ih =>
    show (match reached (routes (rest ++ entry :: after)) entry.name with
      | some found => some found
      | none => if first.name = entry.name then some first.toExpr else none) = _
    rw [ih]

theorem name_of_assemble {scope : Schema.Scope} {operation : Operation} {entry : Entry}
    (h : (assemble scope operation).result = .ok entry) : entry.name = operation.contractName := by
  obtain ⟨_, _, h⟩ := Traced.exists_of_result_bind h
  obtain ⟨_, _, h⟩ := Traced.exists_of_result_bind h
  obtain ⟨_, _, h⟩ := Traced.exists_of_result_bind h
  cases h
  rfl

theorem names_of_assemble {scope : Schema.Scope} {operations : List Operation}
    {entries : List Entry}
    (h : List.Forall₂ (fun operation entry => (assemble scope operation).result = .ok entry)
      operations entries) : entries.map Entry.name = operations.map Operation.contractName := by
  induction h with
  | nil => rfl
  | cons h _ ih => rw [List.map_cons, List.map_cons, ih, name_of_assemble h]

/-- The router of a module has one property for each operation, under the name of the operation. Its
    keys are distinct exactly if the names of the operations are, and under each name it has the last
    operation of that name. -/
theorem keys_nodup_iff {document : Value} {context : Context} {text : String}
    (hc : (Context.ofDocument document).result = .ok context)
    (ht : (Emission.moduleText context).result = .ok text) :
    (Operation.ofDocument document context.scope.components).result = .ok context.operations ∧
      ∃ validators entries properties, Emission.Writes context text validators entries ∧
      router entries = Expr.c "router" [.object properties] ∧
      List.Forall₂ (fun operation property => ∃ entry,
        (assemble context.scope operation).result = .ok entry ∧
          property = Expr.property operation.contractName entry.toExpr)
        context.operations properties ∧
      ((properties.map key?).Nodup ↔ (context.operations.map Operation.contractName).Nodup) ∧
      ∀ before operation after, context.operations = before ++ operation :: after →
        (∀ later ∈ after, later.contractName ≠ operation.contractName) →
          ∃ entry, (assemble context.scope operation).result = .ok entry ∧
            reached properties operation.contractName = some entry.toExpr := by
  obtain ⟨validators, entries, hw⟩ := Emission.writes_of_moduleText ht
  have hnames := names_of_assemble hw.assembled
  refine ⟨Context.operations_of_ofDocument hc, validators, entries, routes entries, hw,
    router_eq entries, ?_, ?_, ?_⟩
  · rw [routes, List.forall₂_map_right_iff]
    refine hw.assembled.imp fun operation entry ha => ⟨entry, ha, ?_⟩
    rw [name_of_assemble ha]
  · have hkeys : (routes entries).map key? = (entries.map Entry.name).map some := by
      rw [keys_routes, List.map_map]
      rfl
    rw [hkeys, ← hnames, List.nodup_map_iff (Option.some_injective String)]
  · intro before operation after heq hlater
    have hall := hw.assembled
    rw [heq] at hall
    obtain ⟨front, entry, back, rfl, hentry, hback⟩ := exists_split_of_forall₂ hall
    refine ⟨entry, hentry, ?_⟩
    rw [← name_of_assemble hentry]
    refine reached_routes fun later hl => ?_
    obtain ⟨other, ho, hother⟩ := exists_of_mem_forall₂ hback hl
    rw [name_of_assemble hother, name_of_assemble hentry]
    exact hlater other ho

/-- A document whose only path has an operation for each of two methods. -/
def methodValue : Value := .object [("responses", .object [("200", .object [])])]

def twoMethods : Value :=
  .object [("paths", .object [("/pets", .object [("get", methodValue), ("post", methodValue)])])]

def petsOf (method : Method) : Operation where
  method := method
  path := "/pets"
  operationId := none
  summary := none
  description := none
  parameters := []
  requestBody := none
  responses := [("200", [])]

def twoMethodsContext : Context := ⟨twoMethods, .bare, [petsOf .get, petsOf .post]⟩

def petsItem : Fields := textFields [("get", methodValue), ("post", methodValue)]

theorem ofPath_twoMethods :
    (Operation.ofPath (.object []) (.text "/pets", .ofFields petsItem)).result =
      .ok [petsOf .get, petsOf .post] := by
  have hget : (Operation.ofField (.object []) (.text "/pets") petsItem
      (.text "get", methodValue)).result = .ok (some (petsOf .get)) :=
    Operation.result_ofField (by decide +kernel) (by decide +kernel) rfl rfl
  have hpost : (Operation.ofField (.object []) (.text "/pets") petsItem
      (.text "post", methodValue)).result = .ok (some (petsOf .post)) :=
    Operation.result_ofField (by decide +kernel) (by decide +kernel) rfl rfl
  have hitem : (petsItem.mapM (Operation.ofField (.object []) (.text "/pets") petsItem)).result =
      .ok [some (petsOf .get), some (petsOf .post)] := by
    rw [Traced.result_mapM_eq_ok_iff]
    exact .cons hget (.cons hpost .nil)
  exact Operation.result_ofPath rfl rfl hitem

theorem ofDocument_twoMethods :
    (Context.ofDocument twoMethods).result = .ok twoMethodsContext := by
  have hpaths : ((textFields [("/pets", .ofFields petsItem)]).mapM
      (Operation.ofPath (.object []))).result = .ok [[petsOf .get, petsOf .post]] := by
    rw [Traced.result_mapM_eq_ok_iff]
    exact .cons ofPath_twoMethods .nil
  have hoperations : (Operation.ofDocument twoMethods (.object [])).result =
      .ok [petsOf .get, petsOf .post] := Operation.result_ofDocument rfl rfl hpaths
  have hgraph : dependencies twoMethods (.object []) = .ok [] := rfl
  have hdeclared : [].mapM (Declaration.ofRef (.object [])) = .ok [] := rfl
  exact Context.result_ofDocument rfl hgraph rfl hdeclared hoperations

theorem responses_petsOf (method : Method) :
    (responses twoMethodsContext.scope (petsOf method)).result = .ok [("200", nothing)] := by
  have hclassified : (petsOf method).responses.mapM (classify (petsOf method)) =
      .ok [(.exact, "200", [])] := rfl
  have hshares : ((expand [(.exact, "200", [])]).mapM (share twoMethodsContext.scope)).result =
      .ok [[("200", nothing)]] := rfl
  simp only [responses, Traced.result_bind, Traced.result_liftM, hclassified, ok_bind, hshares,
    Traced.result_pure]
  simp [sortByCode]

def petsEntry (method : Method) : Entry where
  name := (petsOf method).contractName
  method := method.upperName
  path := contractPath "/pets"
  summary := none
  headers := none
  query := none
  pathParams := none
  body := if method = .get then none else some nothing
  contentType := none
  responses := [("200", nothing)]

theorem assemble_petsOf (method : Method) :
    (assemble twoMethodsContext.scope (petsOf method)).result = .ok (petsEntry method) := by
  have hparameters : ((petsOf method).parameters.mapM
      (placed twoMethodsContext.scope (petsOf method))).result = .ok [] := rfl
  have hbody : (body twoMethodsContext.scope (petsOf method)).result =
      .ok (if method = .get then none else some nothing, none) := by
    cases method <;> rfl
  simp only [assemble, Traced.result_bind, hparameters, ok_bind, hbody, responses_petsOf]
  rfl

theorem exists_moduleText_twoMethods :
    ∃ text, (Emission.moduleText twoMethodsContext).result = .ok text := by
  have hentries : (twoMethodsContext.operations.mapM
      (assemble twoMethodsContext.scope)).result = .ok [petsEntry .get, petsEntry .post] := by
    rw [Traced.result_mapM_eq_ok_iff]
    exact .cons (assemble_petsOf .get) (.cons (assemble_petsOf .post) .nil)
  have hschemas : (Emission.schemaLines twoMethodsContext).result = .ok [] := rfl
  have hcheck : checkText (router [petsEntry .get, petsEntry .post]) = .ok () := rfl
  have hrender : (router [petsEntry .get, petsEntry .post]).render =
      .ok (router [petsEntry .get, petsEntry .post]).print := by
    rw [render, hcheck]
  simp only [Emission.moduleText, Emission.moduleLines, Emission.contractLine, Traced.result_bind,
    hschemas, ok_bind, hentries, Traced.result_note, Traced.result_liftM, hrender,
    Traced.result_pure]
  exact ⟨_, rfl⟩

/-- The router of a module has one property for each operation; two methods of one path can have
    one key. -/
theorem keys_nodup_iff_twoMethods :
    ∃ text, (Emission.moduleText twoMethodsContext).result = .ok text ∧
      (Operation.ofDocument twoMethods twoMethodsContext.scope.components).result =
        .ok twoMethodsContext.operations ∧
      ∃ validators entries properties, Emission.Writes twoMethodsContext text validators entries ∧
        router entries = Expr.c "router" [.object properties] ∧
        List.Forall₂ (fun operation property => ∃ entry,
          (assemble twoMethodsContext.scope operation).result = .ok entry ∧
            property = Expr.property operation.contractName entry.toExpr)
          twoMethodsContext.operations properties ∧
        ((properties.map key?).Nodup ↔
          (twoMethodsContext.operations.map Operation.contractName).Nodup) ∧
        ∀ before operation after, twoMethodsContext.operations = before ++ operation :: after →
          (∀ later ∈ after, later.contractName ≠ operation.contractName) →
            ∃ entry, (assemble twoMethodsContext.scope operation).result = .ok entry ∧
              reached properties operation.contractName = some entry.toExpr := by
  obtain ⟨text, ht⟩ := exists_moduleText_twoMethods
  exact ⟨text, ht, keys_nodup_iff ofDocument_twoMethods ht⟩

/-- The operations of two methods of one path have one key. -/
theorem not_nodup_keys :
    ∃ document context text validators entries properties,
      (Context.ofDocument document).result = .ok context ∧
      (Emission.moduleText context).result = .ok text ∧
      Emission.Writes context text validators entries ∧
      router entries = Expr.c "router" [.object properties] ∧ ¬ (properties.map key?).Nodup := by
  obtain ⟨text, ht⟩ := exists_moduleText_twoMethods
  obtain ⟨validators, entries, hw⟩ := Emission.writes_of_moduleText ht
  refine ⟨twoMethods, twoMethodsContext, text, validators, entries, routes entries,
    ofDocument_twoMethods, ht, hw, router_eq entries, ?_⟩
  have hnames := names_of_assemble hw.assembled
  have hkeys : (routes entries).map key? = (entries.map Entry.name).map some := by
    rw [keys_routes, List.map_map]
    rfl
  have hsame : (petsOf .get).contractName = (petsOf .post).contractName := rfl
  rw [hkeys, hnames]
  simp [twoMethodsContext, hsame]

end RestContract.Contract
