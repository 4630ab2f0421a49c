import RestContract.Proofs.ForeseenContext

/-!
# Validators that do not depend on the room

At a schema that does not come up inside itself over the references that are followed, the compiler
comes to an end, and from some room on it comes to the same end in every room. Where the values of
the document have the shapes of their places, this end is a validator, or a failure that is foreseen.
A component schema that is declared can only come up inside itself over a place that the walk for
dependencies passes over; a schema of a parameter can do so over any component that is not declared.
-/

namespace RestContract

namespace Shape

/-! ## Shapes of small schemas -/

/-- A schema without any of the keywords whose kinds matter. -/
theorem hasKeywords_of_absent {fields : Fields} (h : ∀ name ∈ ["allOf", "oneOf", "anyOf",
    "required", "enum", "pattern", "format"], fields.get? name = none)
    (hp : OrNothing IsMap (fields.get "properties")) : HasKeywords fields := by
  have hget : ∀ name ∈ ["allOf", "oneOf", "anyOf", "required", "enum", "pattern", "format"],
      fields.get name = .null := by
    intro name hm
    rw [Fields.get, h name hm, Option.getD_none]
  refine ⟨fun keyword hk => ?_, hp, ?_, fun values hv => ?_, ?_, ?_⟩
  · have hm : keyword ∈ ["allOf", "oneOf", "anyOf"] := hk
    rw [hget keyword (List.mem_append_left ["required", "enum", "pattern", "format"] hm)]
    exact .inl rfl
  · rw [hget _ (by simp)]
    exact .inl rfl
  · rw [h _ (by simp)] at hv
    cases hv
  · rw [hget _ (by simp)]
    exact .inl rfl
  · rw [hget _ (by simp)]
    exact ⟨_, rfl⟩

/-- A schema in which no other schema stands. -/
theorem isSchema_plainText : IsSchema (Schema.textFields [("type", .text "string")]) := by
  refine .intro (hasKeywords_of_absent (by decide) (.inl rfl)) fun inner hi => ?_
  cases hi with
  | member hk hl =>
    simp only [Schema.compositionKeywords, List.mem_cons, List.not_mem_nil, or_false] at hk
    rcases hk with rfl | rfl | rfl <;> cases hl
  | items hn => cases hn
  | property hp => cases hp
  | additional ha => cases ha

theorem suits_plainText : Suits .schemas Compile.plainText where
  json := by simp [Compile.plainText]
  shaped := .plain rfl isSchema_plainText

end Shape

namespace Compile

open Schema Validation Relation

/-! ## Ends and repetitions -/

/-- The compiler comes to an end at every schema that does not come up inside itself, and no room is
    large enough for one that does. In a document of the right shape the end is a validator or a
    failure of a category. A component schema, as it is declared, does not come up inside itself
    except over a place that the walk for dependencies passes over. -/
theorem ends_or_repeats {document : Value} {context : Context}
    (hc : (Context.ofDocument document).result = .ok context) :
    (∀ schema p, ¬ Repeats context.scope schema → Ends context.scope schema p) ∧
      (∀ schema, Repeats context.scope schema → ∀ room p e,
        (compileAt context.scope room 0 schema p).result ≠ .ok e) ∧
      (∀ fields, document = .ofFields fields → Shape.IsDocument fields →
        ∀ schema p, Shape.Suits .schemas schema → ¬ Repeats context.scope schema →
          ∃ x room, (∀ more, room ≤ more → compileAt context.scope more 0 schema p = x) ∧
            ((∃ e, x.result = .ok e) ∨ ∃ e, x.result = .error e ∧ e.isForeseen = true)) ∧
      ∀ declaration ∈ context.declarations,
        Components.resolve context.scope.components (.text declaration.ref) =
          .ok declaration.schema →
        Repeats context.scope (.ofFields declaration.schema) →
        Misses context.scope (.ofFields declaration.schema) := by
  have hends : ∀ schema p, ¬ Repeats context.scope schema → Ends context.scope schema p :=
    fun schema p hn => (grounded_of_reached hn .refl).ends p
  refine ⟨hends, fun schema hrepeats room p e he => ?_, ?_, ?_⟩
  · exact not_repeats_of_compileAt he hrepeats
  · rintro fields rfl hshaped schema p hsuits hn
    obtain ⟨kinds, hcomponents, hkinds⟩ := ((Shape.yields_context hshaped).value context hc).components
    obtain ⟨x, room, hx, hyields⟩ := Shape.exists_of_ends hkinds hcomponents (hends schema p hn) hsuits
    exact ⟨x, room, hx, hyields.exists_or⟩
  · obtain ⟨graph, named, _, _, _, ha⟩ := exists_arranged_of_ofDocument hc
    exact fun declaration => misses_of_repeats ha

/-! ## An array of itself -/

/-- A reference to a component that is no schema by its kind. -/
def toHeader : Value := .object [("$ref", .text "#/components/headers/H")]

/-- The array whose items are the component itself. -/
def selfItems : List (String × Value) := [("type", .text "array"), ("items", toHeader)]

section

variable {scope : Scope} (hf : scope.find? (.text "#/components/headers/H") = none)
  (hr : Components.resolve scope.components (.text "#/components/headers/H") =
    .ok (textFields selfItems))

include hf hr in
theorem enters_toHeader : Enters scope toHeader toHeader :=
  .expanded ⟨_, rfl, hf, hr⟩ (.items ⟨rfl, rfl⟩ rfl)

include hf hr in
theorem repeats_toHeader : Repeats scope toHeader :=
  ⟨toHeader, .refl, .single (enters_toHeader hf hr)⟩

theorem result_concrete_selfItems {inner : Nat → Compiler} {p : Presence} {e : Error}
    (h : (inner 3 toHeader .unstated).result = .error e) :
    (concrete inner (textFields selfItems) p).result = .error e := by
  have harray : (array inner (textFields selfItems)).result = .error e := by
    show (inner 3 toHeader .unstated >>= fun item => pure (Expr.z "array" [item])).result = _
    rw [Traced.result_bind, h]
    rfl
  show (array inner (textFields selfItems) >>= fun validator => _).result = _
  rw [Traced.result_bind, harray]
  rfl

include hf hr in
theorem result_compileOver_toHeader (e : Error) (room steps : Nat) (p : Presence) :
    (compileOver scope (fun _ _ => Traced.fail e) room steps toHeader p).result = .error e := by
  induction room generalizing steps p with
  | zero => rfl
  | succ room ih =>
    cases steps with
    | succ steps => exact ih steps p
    | zero =>
      have hkey : (Value.text "#/components/headers/H").asKey =
          .ok (.text "#/components/headers/H") := rfl
      have ht : Reference.target? toHeader = some (.text "#/components/headers/H") := rfl
      simp only [compileOver, compileWith, ht, hf, hr, hkey, Traced.result_bind,
        Traced.result_liftM, ok_bind]
      exact result_concrete_selfItems (ih _ _)

include hf hr in
theorem not_ends_toHeader (p : Presence) : ¬ Ends scope toHeader p := by
  rintro ⟨x, room, hx⟩
  have hresult : ∀ e, x.result = .error e := by
    intro e
    rw [← hx (fun _ _ => Traced.fail e) room (Nat.le_refl room)]
    exact result_compileOver_toHeader hf hr e room 0 p
  cases (hresult .negation).symm.trans (hresult (.fault .endlessNesting))

end

/-- A schema with a property in a place that the walk for dependencies passes over. -/
def hiddenProperty : List (String × Value) :=
  [("type", .ofItems [.text "array", .text "object"]), ("items", .object []),
    ("properties", .object [("b", toHeader)])]

def hidingScope : Scope where
  components := .object [("schemas", .object [("A", .object hiddenProperty)]),
    ("headers", .object [("H", .object selfItems)])]
  declarations := [⟨"A", "A", "#/components/schemas/A", textFields hiddenProperty⟩]

def hidingContext : Context :=
  ⟨.object [("components", hidingScope.components)], hidingScope, []⟩

theorem ofDocument_hiding :
    (Context.ofDocument hidingContext.document).result = .ok hidingContext := by
  have hs : componentSchemas hidingContext.document =
      .ok (.map (textFields [("A", .object hiddenProperty)]) none) := rfl
  have hwalk : Walk.run hidingScope.components [(.object hiddenProperty, refTo "A")]
      ⟨[(refTo "A", [])], [refTo "A"]⟩ = .ok ⟨[(refTo "A", [])], [refTo "A"]⟩ := by
    refine (Walk.run_map rfl rfl).trans ?_
    exact (Walk.run_map rfl rfl).trans (Walk.run_nil ..)
  exact Context.result_ofDocument_single rfl hs hwalk rfl rfl

def loopComponents : Value := .object [("headers", .object [("H", .object selfItems)])]

/-- A parameter whose schema is the array of itself. -/
def loopParameter : List (String × Value) :=
  [("in", .text "query"), ("name", .text "q"), ("schema", toHeader)]

def loopMethod : List (String × Value) :=
  [("parameters", .ofItems [.object loopParameter]),
    ("responses", .object [("200", .object [("description", .text "x")])])]

def loopDocument : Value :=
  .object [("openapi", .text "3.0.3"),
    ("paths", .object [("/a", .object [("get", .object loopMethod)])]),
    ("components", loopComponents)]

def loopOperation : Operation where
  method := .get
  path := "/a"
  operationId := none
  summary := none
  description := none
  parameters := [textFields loopParameter]
  requestBody := none
  responses := [("200", textFields [("description", .text "x")])]

theorem ofDocument_loop : (Context.ofDocument loopDocument).result = .ok
    ⟨loopDocument, { components := loopComponents, declarations := [] }, [loopOperation]⟩ := by
  have hfield : (Operation.ofField loopComponents (.text "/a")
      (textFields [("get", .object loopMethod)]) (.text "get", .object loopMethod)).result =
      .ok (some loopOperation) :=
    Operation.result_ofField (by decide +kernel) (by decide +kernel) rfl rfl
  have hitem : ((textFields [("get", .object loopMethod)]).mapM (Operation.ofField loopComponents
      (.text "/a") (textFields [("get", .object loopMethod)]))).result =
      .ok [some loopOperation] := by
    rw [Traced.result_mapM_eq_ok_iff]
    exact .cons hfield .nil
  have hpaths : ((textFields [("/a", .object [("get", .object loopMethod)])]).mapM
      (Operation.ofPath loopComponents)).result = .ok [[loopOperation]] := by
    rw [Traced.result_mapM_eq_ok_iff]
    exact .cons (Operation.result_ofPath rfl rfl hitem) .nil
  have hs : componentSchemas loopDocument = .ok (.map (textFields []) none) := rfl
  have hg : dependencies loopDocument loopComponents = .ok [] := dependencies_of_walk hs rfl
  exact Context.result_ofDocument rfl hg rfl rfl (Operation.result_ofDocument rfl rfl hpaths)

theorem grounded_plainText (scope : Scope) : Grounded scope plainText := by
  have hobject : ¬ IsObject (textFields [("type", .text "string")]) (.text "string") :=
    not_isObject_of_mem (by simp [plainTags])
  have hnone : ∀ inner, ¬ Taken (textFields [("type", .text "string")]) (.text "string") inner :=
    fun inner => not_taken_of_scalar ⟨rfl, rfl⟩ (by simp [Single]) (by simp) hobject
  exact Acc.intro plainText fun inner hi => absurd (hi.taken rfl) (hnone inner)

theorem repeats_hiddenProperty : Repeats hidingScope (.object hiddenProperty) := by
  have hmember : IsObject (textFields hiddenProperty) (.text "object") := .inl rfl
  have htaken : Taken (textFields hiddenProperty) (.text "object") toHeader :=
    .property ⟨rfl, rfl⟩ nofun hmember rfl rfl (List.mem_singleton_self _)
  refine ⟨toHeader, .single (.plain rfl ?_), .single (enters_toHeader rfl rfl)⟩
  exact .tag (by simp) htaken

theorem isDocument_empty :
    Shape.IsDocument (textFields [("components", .object [("schemas", .object [])])]) where
  json := by
    show IsJson (documentOf [])
    simp [documentOf]
  components := by
    refine ⟨textFields [("schemas", .object [])], rfl, ⟨?_, ?_⟩, .inr ⟨_, _, rfl⟩⟩
    · show IsJson (.object _)
      simp
    · intro kind named mark hn entry he
      cases kind with
      | schemas =>
        cases hn
        cases he
      | _ => cases hn
  paths := .inl rfl

theorem ends_or_repeats_hiding :
    (Context.ofDocument hidingContext.document).result = .ok hidingContext ∧
      (∀ p, Ends hidingScope plainText p) ∧
      (∀ room p e, (compileAt hidingScope room 0 (.object hiddenProperty) p).result ≠ .ok e) ∧
      Misses hidingScope (.object hiddenProperty) ∧
      ∃ context x room, (Context.ofDocument (documentOf [])).result = .ok context ∧
        (∀ more, room ≤ more → compileAt context.scope more 0 plainText .unstated = x) ∧
        x.result = .ok (Expr.z "string" []) := by
  obtain ⟨hends, hnever, _, hmisses⟩ := ends_or_repeats ofDocument_hiding
  obtain ⟨_, _, hshaped, _⟩ := ends_or_repeats Context.result_ofDocument_empty
  refine ⟨ofDocument_hiding, fun p => ?_, ?_, ?_, ?_⟩
  · exact hends plainText p (grounded_plainText hidingScope).not_repeats
  · exact hnever _ repeats_hiddenProperty
  · exact hmisses _ (List.mem_singleton_self _) rfl repeats_hiddenProperty
  · obtain ⟨x, room, hx, _⟩ := hshaped _ rfl isDocument_empty plainText .unstated
      Shape.suits_plainText (grounded_plainText _).not_repeats
    refine ⟨_, x, room, Context.result_ofDocument_empty, hx, ?_⟩
    rw [← hx (room + 1) (Nat.le_succ room)]
    rfl

/-- The schema of a parameter of a document that can be read comes up inside itself, and the compiler
    fails at it in every room only because the room is used up. -/
theorem not_ends_parameter :
    ∃ document context operation parameter,
      (Context.ofDocument document).result = .ok context ∧ operation ∈ context.operations ∧
        parameter ∈ operation.parameters ∧
        Repeats context.scope (parameter.get "schema") ∧
        (∀ p, ¬ Ends context.scope (parameter.get "schema") p) ∧
        ∀ room p, (compileAt context.scope room 0 (parameter.get "schema") p).result =
          .error (.fault .endlessNesting) := by
  refine ⟨loopDocument, _, loopOperation, textFields loopParameter, ofDocument_loop,
    List.mem_singleton_self _, List.mem_singleton_self _, ?_, ?_, ?_⟩
  · exact repeats_toHeader rfl rfl
  · exact not_ends_toHeader rfl rfl
  · intro room p
    rw [← compileOver_endlessNesting]
    exact result_compileOver_toHeader rfl rfl _ room 0 p

end Compile
end RestContract
