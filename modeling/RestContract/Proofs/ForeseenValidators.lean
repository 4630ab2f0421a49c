import RestContract.Proofs.DocumentShape
import RestContract.Proofs.SettledRuns

/-!
# Validators of shaped schemas

A schema of the right shape has a validator that can be written, or it is refused for a reason that
is foreseen. The rules are taken in the order in which the compiler uses them: each is given the
fields of a schema and yields something writable, provided that the schemas inside do.
-/

namespace RestContract.Shape

open Expr Schema Validation Compile

/-! ## Calls -/

section

variable {fields : Fields} {type value : Value}

def AllWritable (calls : List Call) : Prop := ∀ call ∈ calls, call.IsWritable

theorem AllWritable.nil : AllWritable [] := fun _ h => absurd h List.not_mem_nil

theorem AllWritable.single {call : Call} (h : call.IsWritable) : AllWritable [call] := by
  simpa [AllWritable] using h

theorem AllWritable.append {a b : List Call} (ha : AllWritable a) (hb : AllWritable b) :
    AllWritable (a ++ b) :=
  List.forall_mem_append.2 ⟨ha, hb⟩

theorem yields_callWith (h : IsJson value) (method : String) :
    Yields Call.IsWritable (callWith method value) :=
  (yields_constant h).bind fun _ he => .ok (by simpa using he)

theorem yields_callsWith (h : IsJson value) (method : String) :
    Yields AllWritable (do return [← callWith method value]) :=
  (yields_callWith h method).bind fun _ hc => .ok (.single hc)

theorem yields_unlessVacant (hj : IsJson (.ofFields fields)) (keyword method : String) :
    Yields AllWritable (unlessVacant fields keyword method) := by
  unfold unlessVacant
  dsimp only
  split
  · exact .ok .nil
  · exact yields_callsWith (hj.get keyword) method

theorem yields_unlessNull (hj : IsJson (.ofFields fields)) (keyword method : String) :
    Yields AllWritable (unlessNull fields keyword method) := by
  unfold unlessNull
  dsimp only
  split
  · exact .ok .nil
  · exact yields_callsWith (hj.get keyword) method

theorem yields_patternCalls (hk : HasKeywords fields) :
    Yields AllWritable (patternCalls fields) := by
  unfold patternCalls
  dsimp only
  split
  · exact .ok .nil
  · next hv =>
    obtain ⟨s, hs⟩ := hk.pattern.of_not_vacant (by simpa using hv)
    rw [hs]
    exact .ok (.single (by simp))

theorem isWritable_formatCall {format : String} {call : Call} (h : formatCall? format = some call) :
    call.IsWritable := by
  unfold formatCall? at h
  split at h <;> cases h <;> simp

theorem yields_formatCalls (hk : HasKeywords fields) : Yields AllWritable (formatCalls fields) := by
  obtain ⟨s, hs⟩ := hk.format
  unfold formatCalls
  rw [hs, Value.asKey, ok_bind]
  split
  · refine .ok fun call hm => ?_
    exact isWritable_formatCall (Option.mem_toList.1 hm)
  · exact .ok .nil

theorem yields_textCalls (hj : IsJson (.ofFields fields)) (hk : HasKeywords fields) :
    Yields AllWritable (textCalls fields) := by
  have hrest : ∀ lengths, AllWritable lengths →
      Yields AllWritable
        (do return lengths ++ (← patternCalls fields) ++ (← formatCalls fields)) := by
    intro lengths hl
    refine (yields_patternCalls hk).bind fun _ hp => ?_
    exact (yields_formatCalls hk).bind fun _ hf => .ok ((hl.append hp).append hf)
  unfold textCalls
  split
  · exact hrest [] .nil
  · refine (yields_unlessVacant hj _ _).bind fun _ hmin => ?_
    refine (yields_unlessVacant hj _ _).bind fun _ hmax => ?_
    exact hrest _ (hmin.append hmax)

theorem yields_boundCalls {bound exclusive : Value} (hb : IsJson bound) (he : IsJson exclusive)
    (inclusiveMethod exclusiveMethod : String) :
    Yields AllWritable (boundCalls bound exclusive inclusiveMethod exclusiveMethod) := by
  unfold boundCalls
  split
  · exact yields_callsWith hb _
  · split
    · exact yields_callsWith he _
    · exact .ok .nil

theorem yields_numberCalls (hj : IsJson (.ofFields fields)) (integer : Bool) :
    Yields AllWritable (numberCalls fields integer) := by
  unfold numberCalls
  split
  · exact .ok .nil
  · refine (yields_boundCalls (hj.get _) (hj.get _) _ _).bind fun _ hl => ?_
    refine (yields_boundCalls (hj.get _) (hj.get _) _ _).bind fun _ hu => ?_
    refine (yields_unlessNull hj _ _).bind fun _ hs => .ok ?_
    have hint : AllWritable (if integer then [.call "int" []] else []) := by
      split <;> simp [AllWritable]
    exact ((hint.append hl).append hu).append hs

theorem yields_arrayCalls (hj : IsJson (.ofFields fields)) :
    Yields AllWritable (arrayCalls fields) := by
  refine (yields_unlessNull hj _ _).bind fun _ hmin => ?_
  exact (yields_unlessNull hj _ _).bind fun _ hmax => .ok (hmin.append hmax)

theorem yields_constraints (hj : IsJson (.ofFields fields)) (hk : HasKeywords fields) :
    Yields AllWritable (constraints fields type) := by
  unfold constraints
  split
  · exact yields_textCalls hj hk
  · split
    · exact yields_numberCalls hj _
    · split
      · exact yields_numberCalls hj _
      · split
        · exact yields_arrayCalls hj
        · exact .ok .nil

theorem allWritable_presence (fields : Fields) (p : Presence) :
    AllWritable (presence fields p) := by
  unfold presence
  split <;> cases p <;> simp [AllWritable]

/-- A default is a value of JSON again, or it is dropped. -/
theorem yields_coerceDefault (h : IsJson value) :
    Yields (fun found => ∀ v, found = some v → IsJson v) (coerceDefault type value) := by
  have hnone : ∀ v, (none : Option Value) = some v → IsJson v := fun _ h => nomatch h
  have hsome : ∀ {found : Value}, IsJson found → ∀ v, some found = some v → IsJson v :=
    fun hf v hv => Option.some.inj hv ▸ hf
  unfold coerceDefault
  split
  · unfold textDefault
    split
    · exact .ok (hsome h)
    · obtain ⟨s, hs⟩ := h.exists_writeWith Json.quoteAscii []
      rw [Json.write, hs]
      exact .ok (hsome (.text s))
  · split
    · unfold numberDefault
      split
      · split
        · split
          · exact .ok (hsome (.double _))
          · exact .ok hnone
        · exact .ok hnone
      · split
        · exact .ok (hsome h)
        · exact .ok hnone
    · split
      · exact .ok (hsome (.bool _))
      · split
        · unfold arrayDefault
          split
          · exact .ok (hsome h)
          · exact .ok hnone
        · exact .ok hnone

theorem yields_defaultCalls (hj : IsJson (.ofFields fields)) :
    Yields AllWritable (defaultCalls fields type) := by
  unfold defaultCalls
  split
  · exact .ok .nil
  · next hd =>
    have hvalue : Yields (fun found => ∀ v, found = some v → IsJson v)
        (defaultValue fields type) := by
      unfold defaultValue
      split
      · next value hg => exact yields_coerceDefault (hj.get? hg)
      · next hg => simp [Fields.has, hg] at hd
    refine hvalue.bind fun found hf => ?_
    cases found with
    | some v => exact yields_callsWith (hf v rfl) _
    | none => exact .ok .nil

theorem yields_calls (hj : IsJson (.ofFields fields)) (hk : HasKeywords fields) (p : Presence) :
    Yields AllWritable (calls fields type p) := by
  refine (yields_constraints hj hk).bind fun _ hc => ?_
  refine (yields_defaultCalls hj).bind fun _ hd => .ok ?_
  exact (hc.append (allWritable_presence fields p)).append hd

end

/-! ## Enumerations and combinations -/

theorem yields_enumeration {type : Value} {values : List Value} (h : ∀ v ∈ values, IsJson v) :
    Yields IsWritable (enumeration type values).result := by
  have hconstant : ∀ v ∈ values, Yields IsWritable (Compile.constant v) := fun v hv =>
    (yields_constant (h v hv)).bind fun _ he => .ok (by simpa using he)
  unfold enumeration
  split
  · exact .ok (by simp)
  · split
    · exact hconstant _ List.mem_cons_self
    · dsimp only
      refine YieldsOr.result_bind (P := fun es => ∀ e ∈ es, IsWritable e) ?_ fun es hes => .ok ?_
      · refine YieldsOr.mapM fun v hv => ?_
        split
        · exact yields_constant (h v hv)
        · exact hconstant v hv
      · simpa using hes

theorem isWritable_union {es : List Expr} (h : ∀ e ∈ es, e.IsWritable) : (union es).IsWritable := by
  unfold union
  split
  · exact h _ List.mem_cons_self
  · simpa using h

theorem isWritable_joinBy {es : List Expr} (h : ∀ e ∈ es, e.IsWritable) (method : String) :
    (joinBy method es).IsWritable := by
  cases es with
  | nil => simp [joinBy]
  | cons first rest =>
    rw [List.forall_mem_cons] at h
    refine isWritable_chain h.1 fun call hm => ?_
    obtain ⟨e, he, rfl⟩ := List.mem_map.1 hm
    simpa using h.2 e he

theorem isWritable_anyOf {es : List Expr} (h : ∀ e ∈ es, e.IsWritable) : (anyOf es).IsWritable := by
  refine isWritable_union fun e he => ?_
  obtain ⟨selection, hs, rfl⟩ := List.mem_map.1 he
  exact isWritable_joinBy (fun e he => h e ((mem_selections.1 hs).1.subset he)) _

/-! ## What stands inside a schema -/

section

variable {fields : Fields} (h : IsPlain .schemas fields)

include h

theorem IsPlain.hasKeywords : HasKeywords fields := by
  cases h.shaped with
  | intro hk _ => exact hk

theorem IsPlain.exists_members {keyword : String} (hk : keyword ∈ compositionKeywords)
    (hv : (fields.get keyword).isVacant = false) :
    ∃ items mark, fields.get keyword = .list items mark ∧ ∀ item ∈ items, Suits .schemas item := by
  obtain ⟨items, mark, heq⟩ := (h.hasKeywords.composed keyword hk).of_not_vacant hv
  exact ⟨items, mark, heq, fun item hm => h.suits_of_holds (.member hk heq hm)⟩

theorem IsPlain.exists_properties :
    ∃ all mark, (fields.get "properties").orEmptyMap = .map all mark ∧
      Fields.hasTextKeys all = true ∧ ∀ field ∈ all, Suits .schemas field.2 := by
  unfold Value.orEmptyMap
  split
  · exact ⟨[], none, rfl, rfl, by simp⟩
  · next hv =>
    obtain ⟨all, mark, heq⟩ := h.hasKeywords.properties.of_not_vacant (by simpa using hv)
    exact ⟨all, mark, heq, (heq ▸ h.json.get _ : IsJson (.map all mark)).hasTextKeys,
      fun field hm => h.suits_of_holds (.property heq hm)⟩

theorem IsPlain.exists_required :
    ∃ items mark, (fields.get "required").orEmptyList = .list items mark ∧
      ∀ item ∈ items, IsScalar item :=
  h.hasKeywords.required.exists_items

theorem yields_requiredKeys : Yields (fun _ => True) (requiredKeys fields) := by
  obtain ⟨items, mark, heq, hs⟩ := h.exists_required
  have hkeys : Yields (fun _ => True) (items.mapM requiredKey) := by
    refine (YieldsOr.mapM (Q := fun _ => True) fun item hm => ?_).mono fun _ _ => trivial
    obtain ⟨s, rfl⟩ := hs item hm
    exact .ok trivial
  unfold requiredKeys
  rw [heq, Value.asParts, Value.parts?, ok_bind]
  exact hkeys.bind fun _ _ => .ok trivial

end

/-! ## Schemas -/

/-- Schemas that suit their places have validators that can be written, or fail with an error of a
    kind. -/
def CompilesOr (E : Error → Prop) (compiler : Compiler) : Prop :=
  ∀ schema p, Suits .schemas schema → YieldsOr E IsWritable (compiler schema p).result

section

variable {E : Error → Prop} {inner : Nat → Compiler} (hinner : ∀ steps, CompilesOr E (inner steps))
  (hE : ∀ e, e.isForeseen = true → E e) {fields : Fields}

include hinner

theorem yields_members (steps : Nat) {value : Value} (hv : ∃ items mark, value = .list items mark ∧
    ∀ item ∈ items, Suits .schemas item) :
    YieldsOr E (fun es => ∀ e ∈ es, IsWritable e) (members inner steps value).result := by
  obtain ⟨items, mark, rfl, hs⟩ := hv
  exact YieldsOr.result_mapM fun item hm => hinner _ _ _ (hs item hm)

include hE in
theorem yields_alternatives {value : Value} (hv : ∃ items mark, value = .list items mark ∧
    ∀ item ∈ items, Suits .schemas item) :
    YieldsOr E IsWritable (alternatives inner value).result := by
  have hmembers := yields_members hinner 4 hv
  obtain ⟨items, mark, rfl, hs⟩ := hv
  unfold alternatives
  refine YieldsOr.result_bind_of_ok rfl ?_
  split
  · exact .error (hE _ rfl)
  · exact hmembers.result_bind fun es hes => .ok (isWritable_anyOf hes)

theorem yields_property {required : List Scalar} {name : String} {schema : Value}
    (hs : Suits .schemas schema) :
    YieldsOr E Property.IsWritable (property inner required (.text name) schema).result :=
  (hinner _ _ _ hs).result_bind fun _ he => .ok ⟨⟨_, rfl⟩, he⟩

variable (h : IsPlain .schemas fields)

include h

theorem yields_array : YieldsOr E IsWritable (Compile.array inner fields).result := by
  unfold Compile.array
  dsimp only
  split
  · exact .ok (by simp)
  · next hn =>
    refine (hinner _ _ _ (h.suits_of_holds (.items (by simpa using hn)))).result_bind fun e he => ?_
    exact .ok (by simpa using he)

include hE

theorem yields_properties : YieldsOr E IsWritable (properties inner fields).result := by
  obtain ⟨all, mark, heq, hk, hs⟩ := h.exists_properties
  refine ((yields_requiredKeys h).weaken hE).result_bind fun required _ => ?_
  refine YieldsOr.result_bind_of_ok (congrArg Value.asFields heq) ?_
  have hcompiled : YieldsOr E (fun properties => ∀ p ∈ properties, Property.IsWritable p)
      (all.mapM fun (key, schema) => property inner required key schema).result := by
    refine YieldsOr.result_mapM fun (key, schema) hm => ?_
    obtain ⟨name, rfl⟩ : ∃ name, key = .text name := exists_text_of_hasTextKeys hk hm
    exact yields_property hinner (hs _ hm)
  exact hcompiled.result_bind fun properties hp => .ok (by simpa using hp)

theorem yields_object : YieldsOr E IsWritable (Compile.object inner fields).result := by
  unfold Compile.object
  split
  · split
    · exact .ok (by simp)
    · next ha =>
      refine (hinner _ _ _ (h.suits_of_holds (.additional ha))).result_bind fun e he => ?_
      exact .ok (by simpa using he)
    · exact yields_properties hinner hE h
  · exact yields_properties hinner hE h

theorem yields_ofTag {type : Value} (ht : IsJson type) :
    YieldsOr E IsWritable (ofTag inner fields type).result := by
  have htext : IsWritable (Compile.text fields) := by
    unfold Compile.text
    split <;> simp
  unfold ofTag
  split
  · exact .ok htext
  · split
    · exact .ok (by simp)
    · split
      · exact .ok (by simp)
      · split
        · exact .ok (by simp)
        · split
          · exact yields_array hinner h
          · split
            · exact yields_object hinner hE h
            · split
              · exact .ok (by simp)
              · exact .ok (by simp)
              · rw [ht.shown]
                exact .error (hE _ rfl)

theorem yields_ofType {type : Value} (ht : IsJson type) :
    YieldsOr E IsWritable (ofType inner fields type).result := by
  unfold ofType
  split
  · next first second rest mark =>
    have hmembers : YieldsOr E (fun es => ∀ e ∈ es, IsWritable e)
        ((first :: second :: rest).mapM fun tag => inner 4 (retyped fields tag) .unstated).result :=
      YieldsOr.result_mapM fun tag hm => hinner _ _ _ (suits_retyped h (ht.of_mem_list hm))
    exact hmembers.result_bind fun es hes => .ok (by simpa using hes)
  · exact yields_ofTag hinner hE h ht

theorem yields_base {type : Value} (ht : IsJson type) :
    YieldsOr E IsWritable (base inner fields type).result := by
  have hmembers : ∀ {keyword}, keyword ∈ compositionKeywords →
      (!(fields.get keyword).isVacant) = true → ∃ items mark,
        fields.get keyword = .list items mark ∧ ∀ item ∈ items, Suits .schemas item :=
    fun hk hv => h.exists_members hk (by simpa using hv)
  unfold base
  split
  · exact .error (hE _ rfl)
  · split
    · next hv =>
      refine (yields_members hinner _ (hmembers (by decide) hv)).result_bind fun es hes => ?_
      exact .ok (isWritable_union hes)
    · split
      · next hv =>
        refine (yields_members hinner _ (hmembers (by decide) hv)).result_bind fun es hes => ?_
        exact .ok (isWritable_joinBy hes _)
      · split
        · next hv => exact yields_alternatives hinner hE (hmembers (by decide) hv)
        · split
          · next values hg =>
            obtain ⟨items, mark, rfl⟩ := h.hasKeywords.enum values hg
            have hvalues : ∀ v ∈ items, IsJson v := fun v hv => (h.json.get? hg).of_mem_list hv
            exact (yields_enumeration hvalues).weaken hE
          · exact yields_ofType hinner hE h ht

theorem yields_concrete (p : Presence) : YieldsOr E IsWritable (concrete inner fields p).result := by
  have htype := h.json.get "type"
  unfold concrete
  split
  · next tag mark heq =>
    exact hinner _ _ _ (suits_retyped h ((heq ▸ htype).of_mem_list (List.mem_singleton_self tag)))
  · refine (yields_base hinner hE h htype).result_bind fun e he => ?_
    refine ((yields_calls h.json h.hasKeywords p).weaken hE).result_bind fun calls hc => ?_
    exact .ok (isWritable_chain he hc)

end

section

variable {E : Error → Prop} {scope : Scope} {kinds : Fields} (hc : AreComponents kinds)
  (hs : scope.components = .ofFields kinds) (hE : ∀ e, e.isForeseen = true → E e)

include hc hs hE

theorem compilesOr_compileWith {inner : Nat → Compiler} (hinner : ∀ steps, CompilesOr E (inner steps)) :
    CompilesOr E (compileWith inner scope) := by
  intro schema p h
  unfold compileWith
  cases h.shaped with
  | reference hr hscalar hk =>
    simp only [Reference.target?, hr]
    obtain ⟨s, rfl⟩ := hscalar
    refine YieldsOr.result_bind_of_ok rfl ?_
    split
    · exact .ok (isWritable_chain (isWritable_identifier _) (allWritable_presence _ p))
    · rw [hs]
      have htarget := (yields_resolve hc (h.json.get? hr) hk).weaken hE
      exact htarget.result_bind fun target ht => yields_concrete hinner hE ht p
  | plain hp _ =>
    simp only [Reference.target?, hp]
    refine YieldsOr.result_bind_of_ok rfl ?_
    exact yields_concrete hinner hE (h.isPlain hp) p

/-- A schema that suits its place has a validator that can be written, or there is none for a reason
    that is foreseen or that stands at the bottom. -/
theorem compilesOr_compileOver {bottom : Compiler} (hb : CompilesOr E bottom) (room steps : Nat) :
    CompilesOr E (compileOver scope bottom room steps) := by
  -- on the room, whatever is left of the steps, as nested schemas have less room
  induction room generalizing steps with
  | zero => exact hb
  | succ room ih =>
    cases steps with
    | zero => exact compilesOr_compileWith hc hs hE fun steps => ih (steps - 1)
    | succ steps => exact ih steps

end

section

variable {scope : Scope} {kinds : Fields} (hc : AreComponents kinds)
  (hs : scope.components = .ofFields kinds)

include hc hs

/-- Whatever the room, the only failure that is not foreseen is that there is none left. -/
theorem compilesOr_compileAt (room steps : Nat) :
    CompilesOr (fun e => e.isForeseen = true ∨ e = .fault .endlessNesting)
      (compileAt scope room steps) := by
  rw [← compileOver_endlessNesting]
  exact compilesOr_compileOver hc hs (fun _ => .inl) (fun _ _ _ => .error (.inr rfl)) room steps

/-- Where the compiler comes to an end, it does so with a validator or with a failure that is
    foreseen. -/
theorem exists_of_ends {schema : Value} {p : Presence} (he : Ends scope schema p)
    (h : Suits .schemas schema) :
    ∃ x room, (∀ more, room ≤ more → compileAt scope more 0 schema p = x) ∧
      Yields IsWritable x.result := by
  obtain ⟨x, room, hx⟩ := he
  refine ⟨x, room, fun more hle => ?_, ?_⟩
  · rw [← compileOver_endlessNesting]
    exact hx _ more hle
  · -- the run is the same over a failure that is foreseen
    have hnegation : Error.isForeseen .negation = true := rfl
    rw [← hx (fun _ _ => Traced.fail .negation) room (Nat.le_refl room)]
    exact compilesOr_compileOver hc hs (fun _ => id) (fun _ _ _ => .error hnegation) room 0 schema p
      h

end

end RestContract.Shape
