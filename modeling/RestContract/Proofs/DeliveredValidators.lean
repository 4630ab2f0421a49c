import RestContract.Compile.Schema
import RestContract.Proofs.ForeseenRuns
import RestContract.Proofs.VisibleText

/-!
# What the compiler delivers

Whatever a document is like, the validator of a schema is printed with the characters of an alphabet
that has those of the declared identifiers. And where there is no validator, the reason is not the
key of a response: nothing but the responses themselves fails for that.
-/

namespace RestContract

/-! ## Runs and their outcome -/

/-- A failure that is not about the key of a response. -/
def Error.IsElsewhere (e : Error) : Prop := e.category? ≠ some .statusCode

/-- A run gives a value with a property, or it fails for another reason than the key of a
    response. -/
abbrev Delivers {α : Type} (P : α → Prop) (x : Except Error α) : Prop :=
  YieldsOr Error.IsElsewhere P x

theorem Delivers.fault {α : Type} {P : α → Prop} (f : Fault) : Delivers P (.error (.fault f)) :=
  .error (by rintro ⟨⟩)

/-! ## Values -/

theorem delivers_asFields (value : Value) : Delivers (fun _ => True) value.asFields := by
  unfold Value.asFields
  split
  · exact .ok trivial
  · exact Delivers.fault _

theorem delivers_asParts (value : Value) : Delivers (fun _ => True) value.asParts := by
  unfold Value.asParts
  split
  · exact .ok trivial
  · exact Delivers.fault _

theorem delivers_asKey (value : Value) : Delivers (fun _ => True) value.asKey := by
  unfold Value.asKey
  split
  · exact .ok trivial
  · exact Delivers.fault _

theorem delivers_shown (value : Value) : Delivers (fun _ => True) value.shown := by
  unfold Value.shown
  split
  · exact .ok trivial
  · exact Delivers.fault _

/-! ## References -/

theorem delivers_parse (ref : Value) : Delivers (fun _ => True) (Reference.parse ref) := by
  unfold Reference.parse
  split
  · split
    · exact .ok trivial
    · exact .error (by rintro ⟨⟩)
  · exact (delivers_shown ref).bind fun _ _ => .error (by rintro ⟨⟩)

namespace Components

theorem delivers_lookup (components : Value) (r : Reference) :
    Delivers (fun _ => True) (lookup components r) := by
  refine (delivers_asFields components).bind fun kinds _ => ?_
  split
  · split <;> exact .ok trivial
  · exact .ok trivial

theorem delivers_named (components ref : Value) (kind : ComponentKind) (current : Value) :
    Delivers (fun _ => True) (named components ref kind current) := by
  refine (delivers_parse current).bind fun r _ => ?_
  split
  · refine (delivers_lookup components r).bind fun found _ => ?_
    split
    · exact .ok trivial
    · exact .error (by rintro ⟨⟩)
  · exact .error (by rintro ⟨⟩)

theorem delivers_follow (components ref : Value) (kind : ComponentKind) (steps : Nat)
    (current : Value) : Delivers (fun _ => True) (follow components ref kind steps current) := by
  induction steps generalizing current with
  | zero =>
    refine (delivers_named components ref kind current).bind fun fields _ => ?_
    split
    · exact .error (by rintro ⟨⟩)
    · exact .ok trivial
  | succ steps ih =>
    refine (delivers_named components ref kind current).bind fun fields _ => ?_
    split
    · exact ih _
    · exact .ok trivial

theorem delivers_resolve (components ref : Value) :
    Delivers (fun _ => True) (resolve components ref) :=
  (delivers_parse ref).bind fun r _ => delivers_follow components ref r.kind maxDepth ref

end Components

/-! ## Calls -/

namespace Validation

open Expr

variable {fields : Fields} {type : Value}

/-- All calls are printed with the characters of an alphabet. -/
def CallsOver (A : Alphabet) (calls : List Call) : Prop := ∀ call ∈ calls, call.IsOver A

namespace CallsOver

variable {A : Alphabet} {calls others : List Call}

theorem nil : CallsOver A [] := by simp [CallsOver]

theorem single {method : String} {args : List Expr} (hm : IsVisible method.toList)
    (h : ∀ e ∈ args, e.IsOver A) : CallsOver A [.call method args] := by
  simpa [CallsOver] using isOver_call hm h

theorem append (h : CallsOver A calls) (ho : CallsOver A others) : CallsOver A (calls ++ others) :=
  List.forall_mem_append.2 ⟨h, ho⟩

end CallsOver

variable (A : Alphabet)

theorem delivers_constant (value : Value) : Delivers (IsOver A) (Expr.constant value) := by
  unfold Expr.constant
  split
  · exact .ok (isOver_ofValue value)
  · exact Delivers.fault _

theorem delivers_callsWith (method : String) (hm : IsVisible method.toList) (value : Value) :
    Delivers (CallsOver A) (do return [← callWith method value]) := by
  refine YieldsOr.bind (P := fun call => CallsOver A [call]) ?_ fun _ hc => .ok hc
  exact (delivers_constant A value).bind fun e he => .ok (.single hm (by simpa using he))

theorem delivers_unlessVacant (keyword method : String) (hm : IsVisible method.toList) :
    Delivers (CallsOver A) (unlessVacant fields keyword method) := by
  unfold unlessVacant
  dsimp only
  split
  · exact .ok .nil
  · exact delivers_callsWith A method hm _

theorem delivers_unlessNull (keyword method : String) (hm : IsVisible method.toList) :
    Delivers (CallsOver A) (unlessNull fields keyword method) := by
  unfold unlessNull
  dsimp only
  split
  · exact .ok .nil
  · exact delivers_callsWith A method hm _

theorem delivers_patternText (value : Value) : Delivers (fun _ => True) (patternText value) := by
  unfold patternText
  split
  · exact .ok trivial
  all_goals exact Delivers.fault _

theorem delivers_patternCalls : Delivers (CallsOver A) (patternCalls fields) := by
  unfold patternCalls
  dsimp only
  split
  · exact .ok .nil
  · refine (delivers_patternText _).bind fun pattern _ => .ok (.single (by decide) ?_)
    simpa using isOver_pattern pattern

theorem callsOver_formatCall (format : String) : CallsOver A (formatCall? format).toList := by
  have hobject : ∀ (key : String) (l : Literal),
      ∀ e ∈ [object [property key (literal l)]], e.IsOver A := by
    intro key l
    rw [List.forall_mem_singleton]
    exact isOver_object (by simpa using isOver_property key (isOver_literal l))
  unfold formatCall?
  split
  · exact .single (by decide) (by simp)
  · exact .single (by decide) (by simp)
  · exact .single (by decide) (by simp)
  · exact .single (by decide) (by simp)
  · exact .single (by decide) (hobject _ _)
  · exact .single (by decide) (hobject _ _)
  · exact .single (by decide) (hobject _ _)
  · exact .nil

theorem delivers_formatCalls : Delivers (CallsOver A) (formatCalls fields) := by
  refine (delivers_asKey _).bind fun key _ => ?_
  split
  · exact .ok (callsOver_formatCall A _)
  · exact .ok .nil

theorem delivers_textCalls : Delivers (CallsOver A) (textCalls fields) := by
  have hrest : ∀ lengths, CallsOver A lengths →
      Delivers (CallsOver A)
        (do return lengths ++ (← patternCalls fields) ++ (← formatCalls fields)) := by
    intro lengths hl
    refine (delivers_patternCalls A).bind fun _ hp => ?_
    exact (delivers_formatCalls A).bind fun _ hf => .ok ((hl.append hp).append hf)
  unfold textCalls
  split
  · exact hrest [] .nil
  · refine (delivers_unlessVacant A _ _ (by decide)).bind fun _ hmin => ?_
    refine (delivers_unlessVacant A _ _ (by decide)).bind fun _ hmax => ?_
    exact hrest _ (hmin.append hmax)

theorem delivers_boundCalls (bound exclusive : Value) {inclusiveMethod exclusiveMethod : String}
    (hi : IsVisible inclusiveMethod.toList) (he : IsVisible exclusiveMethod.toList) :
    Delivers (CallsOver A) (boundCalls bound exclusive inclusiveMethod exclusiveMethod) := by
  unfold boundCalls
  split
  · dsimp only
    split
    · exact delivers_callsWith A _ he bound
    · exact delivers_callsWith A _ hi bound
  · split
    · exact delivers_callsWith A _ he exclusive
    · exact .ok .nil

theorem delivers_numberCalls (integer : Bool) :
    Delivers (CallsOver A) (numberCalls fields integer) := by
  have hint : CallsOver A (if integer then [.call "int" []] else []) := by
    split
    · exact .single (by decide) (by simp)
    · exact .nil
  unfold numberCalls
  split
  · exact .ok .nil
  · refine (delivers_boundCalls A _ _ (by decide) (by decide)).bind fun _ hl => ?_
    refine (delivers_boundCalls A _ _ (by decide) (by decide)).bind fun _ hu => ?_
    refine (delivers_unlessNull A _ _ (by decide)).bind fun _ hs => .ok ?_
    exact ((hint.append hl).append hu).append hs

theorem delivers_arrayCalls : Delivers (CallsOver A) (arrayCalls fields) := by
  refine (delivers_unlessNull A _ _ (by decide)).bind fun _ hmin => ?_
  exact (delivers_unlessNull A _ _ (by decide)).bind fun _ hmax => .ok (hmin.append hmax)

theorem delivers_constraints : Delivers (CallsOver A) (constraints fields type) := by
  unfold constraints
  split
  · exact delivers_textCalls A
  split
  · exact delivers_numberCalls A _
  split
  · exact delivers_numberCalls A _
  split
  · exact delivers_arrayCalls A
  · exact .ok .nil

theorem callsOver_presence (fields : Fields) (p : Presence) : CallsOver A (presence fields p) := by
  unfold presence
  split <;> split <;> first | exact .nil | exact .single (by decide) (by simp)

theorem delivers_coerceDefault (type value : Value) :
    Delivers (fun _ => True) (coerceDefault type value) := by
  unfold coerceDefault
  split
  · unfold textDefault
    split
    · exact .ok trivial
    · split
      · exact .ok trivial
      · exact Delivers.fault _
  · repeat' split
    all_goals exact .ok trivial

theorem delivers_defaultCalls : Delivers (CallsOver A) (defaultCalls fields type) := by
  unfold defaultCalls
  split
  · exact .ok .nil
  · have hvalue : Delivers (fun _ => True) (defaultValue fields type) := by
      unfold defaultValue
      split
      · exact delivers_coerceDefault _ _
      · exact Delivers.fault _
    refine hvalue.bind fun found _ => ?_
    split
    · exact delivers_callsWith A _ (by decide) _
    · exact .ok .nil

theorem delivers_calls (fields : Fields) (type : Value) (p : Presence) :
    Delivers (CallsOver A) (calls fields type p) := by
  refine (delivers_constraints A).bind fun _ hc => ?_
  refine (delivers_defaultCalls A).bind fun _ hd => .ok ?_
  exact (hc.append (callsOver_presence A fields p)).append hd

end Validation

/-! ## Schemas -/

namespace Compile

open Expr Schema Validation

variable (A : Alphabet)

theorem delivers_constant (value : Value) : Delivers (IsOver A) (Compile.constant value) :=
  (Validation.delivers_constant A value).bind fun _ he =>
    .ok (isOver_z (by decide) (by simpa using he))

theorem delivers_enumeration (type : Value) (values : List Value) :
    Delivers (IsOver A) (enumeration type values).result := by
  unfold enumeration
  split
  · exact .ok (isOver_z (by decide) (by simp))
  · split
    · exact delivers_constant A _
    · dsimp only
      refine YieldsOr.result_bind (P := fun es => ∀ e ∈ es, IsOver A e) ?_ fun es hes => .ok ?_
      · refine YieldsOr.mapM fun v _ => ?_
        split
        · exact Validation.delivers_constant A v
        · exact delivers_constant A v
      · exact isOver_z (by decide) (by simpa using isOver_array hes)

variable {A}

theorem isOver_union {es : List Expr} (h : ∀ e ∈ es, e.IsOver A) : (union es).IsOver A := by
  unfold union
  split
  · exact h _ List.mem_cons_self
  · exact isOver_z (by decide) (by simpa using isOver_array h)

theorem isOver_joinBy {es : List Expr} {method : String} (hm : IsVisible method.toList)
    (h : ∀ e ∈ es, e.IsOver A) : (joinBy method es).IsOver A := by
  cases es with
  | nil => exact isOver_array (by simp)
  | cons first rest =>
    rw [List.forall_mem_cons] at h
    refine isOver_chain h.1 fun call hc => ?_
    obtain ⟨e, he, rfl⟩ := List.mem_map.1 hc
    exact isOver_call hm (by simpa using h.2 e he)

theorem isOver_anyOf {es : List Expr} (h : ∀ e ∈ es, e.IsOver A) : (anyOf es).IsOver A := by
  refine isOver_union fun e he => ?_
  obtain ⟨selection, hs, rfl⟩ := List.mem_map.1 he
  exact isOver_joinBy (by decide) fun e he => h e ((mem_selections.1 hs).1.subset he)

theorem delivers_requiredKeys (fields : Fields) :
    Delivers (fun _ => True) (requiredKeys fields) := by
  refine (delivers_asParts _).bind fun items _ => ?_
  have hkeys : Delivers (fun _ => True) (items.mapM requiredKey) := by
    refine (YieldsOr.mapM (Q := fun _ => True) fun item _ => ?_).mono fun _ _ => trivial
    unfold requiredKey
    repeat' split
    · exact .ok trivial
    · exact .ok trivial
    · exact Delivers.fault _
  exact hkeys.bind fun _ _ => .ok trivial

section

/-- Nested schemas have validators over an alphabet. -/
def DeliversOver (A : Alphabet) (inner : Nat → Compiler) : Prop :=
  ∀ steps schema p, Delivers (IsOver A) (inner steps schema p).result

variable {inner : Nat → Compiler} (hinner : DeliversOver A inner)

include hinner

theorem delivers_members (steps : Nat) (value : Value) :
    Delivers (fun es => ∀ e ∈ es, IsOver A e) (members inner steps value).result := by
  refine YieldsOr.result_bind (delivers_asParts value) fun items _ => ?_
  exact YieldsOr.result_mapM fun item _ => hinner _ _ _

theorem delivers_alternatives (value : Value) :
    Delivers (IsOver A) (alternatives inner value).result := by
  refine YieldsOr.result_bind (delivers_asParts value) fun items _ => ?_
  split
  · exact .error (by rintro ⟨⟩)
  · exact (delivers_members hinner 4 value).result_bind fun es hes => .ok (isOver_anyOf hes)

theorem delivers_property (required : List Scalar) (key : Scalar) (schema : Value) :
    Delivers (Property.IsOver A) (property inner required key schema).result :=
  (hinner _ _ _).result_bind fun _ he => .ok (isOver_valued _ he)

variable (fields : Fields)

theorem delivers_properties : Delivers (IsOver A) (properties inner fields).result := by
  refine YieldsOr.result_bind (delivers_requiredKeys fields) fun required _ => ?_
  refine YieldsOr.result_bind (delivers_asFields _) fun all _ => ?_
  have hcompiled : Delivers (fun properties => ∀ p ∈ properties, Property.IsOver A p)
      (all.mapM fun (key, schema) => property inner required key schema).result :=
    YieldsOr.result_mapM fun (key, schema) _ => delivers_property hinner required key schema
  refine hcompiled.result_bind fun properties hp => .ok (isOver_z (by decide) ?_)
  simpa using isOver_object hp

theorem delivers_object : Delivers (IsOver A) (Compile.object inner fields).result := by
  unfold Compile.object
  split
  · split
    · exact .ok (isOver_z (by decide) (by simpa using isOver_z (by decide) (by simp)))
    · refine (hinner _ _ _).result_bind fun e he => ?_
      exact .ok (isOver_z (by decide) (by simpa using he))
    · exact delivers_properties hinner fields
  · exact delivers_properties hinner fields

theorem delivers_array : Delivers (IsOver A) (Compile.array inner fields).result := by
  unfold Compile.array
  dsimp only
  split
  · exact .ok (isOver_z (by decide) (by simpa using isOver_z (by decide) (by simp)))
  · refine (hinner _ _ _).result_bind fun e he => ?_
    exact .ok (isOver_z (by decide) (by simpa using he))

omit hinner in
theorem isOver_compiledText : (Compile.text fields).IsOver A := by
  unfold Compile.text
  split
  · refine isOver_z (by decide) ?_
    simpa using isOver_identifier (A.spells_of_isVisible (by decide : IsVisible "File".toList))
  · exact isOver_z (by decide) (by simp)

theorem delivers_ofTag (type : Value) : Delivers (IsOver A) (ofTag inner fields type).result := by
  have hbare : ∀ {method : String}, IsVisible method.toList →
      Delivers (IsOver A) (Except.ok (Expr.z method []) : Except Error Expr) :=
    fun hm => .ok (isOver_z hm (by simp))
  unfold ofTag
  split
  · exact .ok (isOver_compiledText fields)
  · split
    · exact hbare (by decide)
    · split
      · exact hbare (by decide)
      · split
        · exact hbare (by decide)
        · split
          · exact delivers_array hinner fields
          · split
            · exact delivers_object hinner fields
            · split
              · exact hbare (by decide)
              · exact hbare (by decide)
              · exact YieldsOr.result_bind (delivers_shown type) fun _ _ => .error (by rintro ⟨⟩)

theorem delivers_ofType (type : Value) :
    Delivers (IsOver A) (ofType inner fields type).result := by
  unfold ofType
  split
  · next first second rest mark =>
    have hmembers : Delivers (fun es => ∀ e ∈ es, IsOver A e)
        ((first :: second :: rest).mapM fun tag => inner 4 (retyped fields tag) .unstated).result :=
      YieldsOr.result_mapM fun tag _ => hinner _ _ _
    refine hmembers.result_bind fun es hes => .ok (isOver_z (by decide) ?_)
    simpa using isOver_array hes
  · exact delivers_ofTag hinner fields _

theorem delivers_base (type : Value) : Delivers (IsOver A) (base inner fields type).result := by
  unfold base
  split
  · exact .error (by rintro ⟨⟩)
  · split
    · exact (delivers_members hinner _ _).result_bind fun es hes => .ok (isOver_union hes)
    · split
      · exact (delivers_members hinner _ _).result_bind fun es hes =>
          .ok (isOver_joinBy (by decide) hes)
      · split
        · exact delivers_alternatives hinner _
        · split
          · exact YieldsOr.result_bind (delivers_asParts _) fun values _ =>
              delivers_enumeration A type values
          · exact delivers_ofType hinner fields type

theorem delivers_concrete (p : Presence) :
    Delivers (IsOver A) (concrete inner fields p).result := by
  unfold concrete
  split
  · exact hinner _ _ _
  · refine (delivers_base hinner fields _).result_bind fun e he => ?_
    refine YieldsOr.result_bind (delivers_calls A fields _ p) fun calls hc => ?_
    exact .ok (isOver_chain he hc)

end

section

variable {scope : Scope}
  (hscope : ∀ declaration ∈ scope.declarations, A.Spells declaration.identifier.toList)

include hscope

theorem delivers_compileWith {inner : Nat → Compiler} (hinner : DeliversOver A inner)
    (schema : Value) (p : Presence) :
    Delivers (IsOver A) (compileWith inner scope schema p).result := by
  unfold compileWith
  split
  · exact YieldsOr.result_bind (delivers_asFields schema) fun fields _ =>
      delivers_concrete hinner fields p
  · next ref _ =>
    refine YieldsOr.result_bind (delivers_asKey ref) fun _ _ => ?_
    split
    · next declaration hf =>
      refine .ok (isOver_chain (isOver_identifier ?_) (callsOver_presence A [] p))
      exact hscope declaration (Scope.mem_of_find? hf).1
    · exact YieldsOr.result_bind (Components.delivers_resolve scope.components ref)
        fun fields _ => delivers_concrete hinner fields p

theorem delivers_compileAt (room : Nat) : DeliversOver A (compileAt scope room) := by
  intro steps schema p
  -- on the room, whatever is left of the steps: nested schemas have less room
  induction room generalizing steps schema p with
  | zero => exact Delivers.fault _
  | succ room ih =>
    cases steps with
    | zero => exact delivers_compileWith hscope (fun steps schema p => ih (steps - 1) schema p) _ p
    | succ steps => exact ih steps schema p

/-- The validator of a schema is printed with the characters of any alphabet that has those of the
    declared identifiers, or there is none, and not for the key of a response. -/
theorem delivers_compile (schema : Value) (p : Presence) :
    Delivers (IsOver A) (compile scope schema p).result :=
  delivers_compileAt hscope scope.room 0 schema p

end

end Compile
end RestContract
