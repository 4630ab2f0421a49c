import RestContract.Proofs.Citation

/-!
# Runs that settle

The compiler fails where the steps that it may take into a schema are used up. From the failure alone
one cannot tell that this was the reason, because other parts of the compiler fail in the same way.
So an arbitrary compiler takes the place of the failure here. A run settles if it is one and the same
over all of them as soon as there is room enough: it has an end then that has nothing to do with the
limit.

The run of the compiler on a schema that is no reference settles if it does on everything that is
taken from the schema. On the way the schema may be taken with one of its types, which does not make
it smaller; but its type gets smaller.
-/

namespace RestContract.Compile

open Schema Validation

/-- The validator of a schema that is some steps further in. Where there is no room left for a step,
    it is the one that `bottom` gives. -/
def compileOver (scope : Scope) (bottom : Compiler) : Nat → Nat → Compiler
  | 0, _ => bottom
  | room + 1, steps + 1 => compileOver scope bottom room steps
  | room + 1, 0 => compileWith (fun steps => compileOver scope bottom room (steps - 1)) scope

theorem compileOver_endlessNesting (scope : Scope) (room steps : Nat) :
    compileOver scope (fun _ _ => Traced.fail (.fault .endlessNesting)) room steps =
      compileAt scope room steps := by
  induction room generalizing steps with
  | zero => rfl
  | succ room ih =>
    cases steps with
    | zero => simp only [compileOver, compileAt, ih]
    | succ steps => exact ih steps

theorem compileOver_eq {scope : Scope} {bottom : Compiler} {room steps : Nat} (h : steps ≤ room) :
    compileOver scope bottom room steps = compileOver scope bottom (room - steps) 0 := by
  induction steps generalizing room with
  | zero => rfl
  | succ steps ih =>
    obtain ⟨room, rfl⟩ : ∃ left, room = left + 1 := ⟨room - 1, by omega⟩
    rw [compileOver, ih (by omega), Nat.add_sub_add_right]

/-- Whatever stands at the bottom, a run is the same in every room that is large enough. -/
def Settles {α : Type} (run : Compiler → Nat → Traced α) : Prop :=
  ∃ x room, ∀ bottom more, room ≤ more → run bottom more = x

/-- The compiler comes to an end at a schema. -/
def Ends (scope : Scope) (schema : Value) (p : Presence) : Prop :=
  Settles fun bottom room => compileOver scope bottom room 0 schema p

namespace Settles

variable {α β : Type} {run : Compiler → Nat → Traced α}

theorem const (x : Traced α) : Settles fun _ _ => x := ⟨x, 0, fun _ _ _ => rfl⟩

/-- What comes after a step that does not depend on the room has to settle only for what the step
    gives. -/
theorem bind_of_const {next : Compiler → Nat → α → Traced β} {x : Traced α}
    (hn : ∀ a, x.result = .ok a → Settles fun bottom room => next bottom room a) :
    Settles fun bottom room => x >>= next bottom room := by
  cases hr : x.result with
  | error e =>
    refine ⟨⟨x.notes, .error e⟩, 0, ?_⟩
    intro bottom more _
    simp only [Bind.bind, Traced.bind, hr]
  | ok a =>
    obtain ⟨y, room, hy⟩ := hn a hr
    refine ⟨⟨x.notes ++ y.notes, y.result⟩, room, ?_⟩
    intro bottom more hle
    simp only [Bind.bind, Traced.bind, hr, hy bottom more hle]

theorem bind {next : Compiler → Nat → α → Traced β} (h : Settles run)
    (hn : ∀ a, Settles fun bottom room => next bottom room a) :
    Settles fun bottom room => run bottom room >>= next bottom room := by
  obtain ⟨x, room, hx⟩ := h
  obtain ⟨y, other, hy⟩ := bind_of_const (x := x) fun a _ => hn a
  refine ⟨y, max room other, ?_⟩
  intro bottom more hle
  rw [← hy bottom more (by omega), ← hx bottom more (by omega)]

theorem bind_const (h : Settles run) (next : α → Traced β) :
    Settles fun bottom room => run bottom room >>= next :=
  h.bind fun a => const (next a)

theorem mapM {β : Type} {f : Compiler → Nat → β → Traced α} {xs : List β}
    (h : ∀ x ∈ xs, Settles fun bottom room => f bottom room x) :
    Settles fun bottom room => xs.mapM (f bottom room) := by
  induction xs with
  | nil => exact const _
  | cons x rest ih =>
    have hrest := ih fun y hy => h y (List.mem_cons_of_mem _ hy)
    simp only [List.mapM_cons]
    exact (h x List.mem_cons_self).bind fun a => hrest.bind_const _

/-- A run that takes a step more settles as well. -/
theorem of_step (h : Settles fun bottom room => run bottom (room + 1)) : Settles run := by
  obtain ⟨x, room, hx⟩ := h
  refine ⟨x, room + 1, ?_⟩
  intro bottom more hle
  obtain ⟨left, rfl⟩ : ∃ left, more = left + 1 := ⟨more - 1, by omega⟩
  exact hx bottom left (by omega)

end Settles

/-- A schema where the compiler ends is one where it ends some steps further in. -/
theorem Ends.inner {scope : Scope} {schema : Value} {p : Presence} (h : Ends scope schema p)
    (steps : Nat) : Settles fun bottom room => compileOver scope bottom room steps schema p := by
  obtain ⟨x, room, hx⟩ := h
  refine ⟨x, room + steps, ?_⟩
  intro bottom more hle
  dsimp only
  rw [compileOver_eq (by omega)]
  exact hx bottom (more - steps) (by omega)

/-! ## One step of the compiler -/

section

variable {inner : Compiler → Nat → Nat → Compiler} {fields : Fields}

theorem settles_members {members : Value} {steps : Nat}
    (h : ∀ parts, members.asParts = .ok parts → ∀ part ∈ parts,
      Settles fun bottom room => inner bottom room steps part .unstated) :
    Settles fun bottom room => Compile.members (inner bottom room) steps members :=
  Settles.bind_of_const fun parts hp => Settles.mapM (h parts hp)

theorem settles_alternatives {members : Value}
    (h : ∀ parts, members.asParts = .ok parts → ∀ part ∈ parts,
      Settles fun bottom room => inner bottom room 4 part .unstated) :
    Settles fun bottom room => alternatives (inner bottom room) members := by
  refine Settles.bind_of_const fun parts _ => ?_
  split
  · exact Settles.const _
  · exact (settles_members h).bind_const _

theorem settles_properties
    (h : ∀ entries, (fields.get "properties").orEmptyMap.asFields = .ok entries →
      ∀ entry ∈ entries, ∀ p, Settles fun bottom room => inner bottom room 5 entry.2 p) :
    Settles fun bottom room => properties (inner bottom room) fields := by
  refine Settles.bind_of_const fun required _ => Settles.bind_of_const fun entries he => ?_
  have hproperty : ∀ entry ∈ entries, Settles fun bottom room =>
      property (inner bottom room) required entry.1 entry.2 :=
    fun entry hm => (h entries he entry hm _).bind_const _
  exact (Settles.mapM hproperty).bind_const _

theorem settles_object
    (ha : ∀ additional mark, (fields.get "properties").isVacant = true →
      fields.get "additionalProperties" = .map additional mark →
      Settles fun bottom room => inner bottom room 4 (.map additional mark) .unstated)
    (hp : isRecord fields = false → ∀ entries,
      (fields.get "properties").orEmptyMap.asFields = .ok entries →
      ∀ entry ∈ entries, ∀ p, Settles fun bottom room => inner bottom room 5 entry.2 p) :
    Settles fun bottom room => object (inner bottom room) fields := by
  unfold object
  split
  · next hv =>
    split
    · exact Settles.const _
    · next hmap => exact (ha _ _ hv hmap).bind_const _
    · next hbool hmap =>
      refine settles_properties (hp ?_)
      simp only [isRecord, hv, Bool.true_and]
  · next hv =>
    refine settles_properties (hp ?_)
    simp [isRecord, hv]

theorem settles_array
    (h : (fields.get "items").isNull = false →
      Settles fun bottom room => inner bottom room 3 (fields.get "items") .unstated) :
    Settles fun bottom room => array (inner bottom room) fields := by
  unfold array
  dsimp only
  split
  · exact Settles.const _
  · next hi => exact (h (by simpa using hi)).bind_const _

variable {type : Value}

theorem settles_ofTag (hu : Typed fields) (hs : Single type)
    (h : ∀ schema, Taken fields type schema → ∀ steps p,
      Settles fun bottom room => inner bottom room steps schema p) :
    Settles fun bottom room => ofTag (inner bottom room) fields type := by
  -- The splits follow the branches of `ofTag`; only those of an array and of an object compile
  -- further schemas, and `h` is about each of these.
  unfold ofTag
  simp only [Bool.or_eq_true]
  split
  · exact Settles.const _
  next hstring =>
  split
  · exact Settles.const _
  next hnumber =>
  split
  · exact Settles.const _
  next hboolean =>
  split
  · exact Settles.const _
  next hnull =>
  split
  · next ha =>
    cases eq_text_of_isText ha
    exact settles_array fun hi => h _ (.items hu hi) _ _
  next harray =>
  split
  · next ho =>
    have ht : IsObject fields type := by
      refine isObject_of_isText ?_ (ho.imp_right fun hp => by simpa using hp)
      simp [plainTags, not_or] at *
      simp [*]
    refine settles_object ?_ ?_
    · intro additional mark hp ha
      exact h _ (.additional hu hs ht hp ha) _ _
    · intro hn entries he entry hm p
      exact h _ (.property hu hs ht hn he hm) _ _
  · split
    · exact Settles.const _
    · exact Settles.const _
    · exact Settles.const _

theorem settles_ofType (hu : Typed fields)
    (hs : ∀ tag mark, type ≠ .list [tag] mark)
    (htag : ∀ tags mark, type = .list tags mark → ∀ tag ∈ tags,
      Settles fun bottom room => inner bottom room 4 (retyped fields tag) .unstated)
    (h : ∀ schema, Taken fields type schema → ∀ steps p,
      Settles fun bottom room => inner bottom room steps schema p) :
    Settles fun bottom room => ofType (inner bottom room) fields type := by
  unfold ofType
  split
  · next first second rest mark =>
    exact (Settles.mapM (htag _ _ rfl)).bind_const _
  · next hn =>
    exact settles_ofTag hu (single_of_ne hs hn) h

theorem settles_base (hs : ∀ tag mark, type ≠ .list [tag] mark)
    (htag : ∀ tags mark, type = .list tags mark → ∀ tag ∈ tags,
      Settles fun bottom room => inner bottom room 4 (retyped fields tag) .unstated)
    (h : ∀ schema, Taken fields type schema → ∀ steps p,
      Settles fun bottom room => inner bottom room steps schema p) :
    Settles fun bottom room => base (inner bottom room) fields type := by
  have hmembers : ∀ {members}, composition fields = some members → ∀ steps parts,
      members.asParts = .ok parts → ∀ part ∈ parts,
        Settles fun bottom room => inner bottom room steps part .unstated :=
    fun hc _ _ hp _ hm => h _ (.member hc hp hm) _ _
  unfold base
  split
  · exact Settles.const _
  split
  · next ho =>
    rw [Bool.not_eq_true'] at ho
    exact (settles_members (hmembers (composition_eq_oneOf ho) _)).bind_const _
  next ho =>
  rw [Bool.not_eq_true', Bool.not_eq_false] at ho
  split
  · next ha =>
    rw [Bool.not_eq_true'] at ha
    exact (settles_members (hmembers (composition_eq_allOf ho ha) _)).bind_const _
  next ha =>
  rw [Bool.not_eq_true', Bool.not_eq_false] at ha
  split
  · next hv =>
    rw [Bool.not_eq_true'] at hv
    exact settles_alternatives (hmembers (composition_eq_anyOf ho ha hv) _)
  next hv =>
  rw [Bool.not_eq_true', ← ne_eq] at hv
  split
  · exact Settles.const _
  · next he =>
    have hc : composition fields = none := by simp [composition, ho, ha, hv]
    exact settles_ofType ⟨hc, he⟩ hs htag h

theorem settles_concrete {p : Presence}
    (htag : ∀ tags mark, fields.get "type" = .list tags mark → ∀ tag ∈ tags, ∀ steps p,
      Settles fun bottom room => inner bottom room steps (retyped fields tag) p)
    (h : ∀ schema, Taken fields (fields.get "type") schema → ∀ steps p,
      Settles fun bottom room => inner bottom room steps schema p) :
    Settles fun bottom room => concrete (inner bottom room) fields p := by
  unfold concrete
  split
  · next tag mark ht => exact htag _ _ ht tag (List.mem_singleton_self tag) _ _
  · next hs =>
    refine Settles.bind_const (settles_base hs ?_ h) _
    intro tags mark heq tag hm
    exact htag tags mark heq tag hm _ _

end

/-! ## All steps of the compiler -/

variable {scope : Scope}

theorem ends_of_settles {fields : Fields} {mark : Option Nat} {p : Presence}
    (ht : Reference.target? (.map fields mark) = none)
    (h : Settles fun bottom room =>
      concrete (fun steps => compileOver scope bottom room (steps - 1)) fields p) :
    Ends scope (.map fields mark) p := by
  refine Settles.of_step ?_
  simp only [compileOver, compileWith, ht]
  exact Settles.bind_of_const fun found hf => by cases hf; exact h

/-- The run on a schema that is no reference settles if it does on everything that is taken from it. -/
theorem settles_of_taken {fields : Fields} (hr : fields.get? "$ref" = none)
    (h : ∀ schema, Taken fields (fields.get "type") schema → ∀ p, Ends scope schema p)
    (p : Presence) :
    Settles fun bottom room =>
      concrete (fun steps => compileOver scope bottom room (steps - 1)) fields p := by
  -- A list of types is compiled type by type, so the induction is on the size of the type.
  induction hn : (fields.get "type").size using Nat.strong_induction_on generalizing fields p with
  | _ n ih =>
    subst hn
    refine settles_concrete ?_ fun schema hm steps p => (h schema hm p).inner (steps - 1)
    intro tags mark htags tag hm steps p
    have htype : (fields.put "type" tag).get "type" = tag := fields.get_put_self "type" tag
    have hsize : ((fields.put "type" tag).get "type").size < (fields.get "type").size := by
      rw [htype, htags, Value.size]
      have := Value.size_le_sizeOfItems hm
      omega
    have htaken : ∀ schema, Taken (fields.put "type" tag) ((fields.put "type" tag).get "type") schema →
        ∀ p, Ends scope schema p := by
      intro schema hs
      rw [taken_retyped_iff] at hs
      refine h schema ?_
      rw [htags]
      exact .tag hm hs
    have href : (fields.put "type" tag).get? "$ref" = none := target?_retyped hr tag
    exact (ends_of_settles href (ih _ hsize href htaken p rfl)).inner (steps - 1)

end RestContract.Compile
