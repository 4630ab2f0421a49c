import RestContract.Proofs.UsedNames

/-!
# Links that merge

Where an expression merges something into what stands before it, and what is merged there. In the
validators that the compiler puts together, each member of a union of combinations is merged into
another one, and nothing else is.
-/

namespace RestContract

namespace Expr

mutual
/-- The links of an expression that merge: what something is merged into, and what is merged. -/
def merges : Expr → List (Expr × Expr)
  | .identifier _ => []
  | .literal _ => []
  | .regex _ => []
  | .array elements => mergesOfAll elements
  | .object properties => mergesOfProperties properties
  | .chained base calls => merges base ++ mergesOfCalls base calls

def mergesOfAll : List Expr → List (Expr × Expr)
  | [] => []
  | e :: rest => merges e ++ mergesOfAll rest

def mergesOfProperties : List Property → List (Expr × Expr)
  | [] => []
  | .shorthand _ :: rest => mergesOfProperties rest
  | .valued _ e :: rest => merges e ++ mergesOfProperties rest

/-- The links among some calls, of which the first is called on `receiver`. -/
def mergesOfCalls (receiver : Expr) : List Call → List (Expr × Expr)
  | [] => []
  | .call method args :: rest =>
    (if method = "merge" then args.map fun e => (receiver, e) else []) ++ mergesOfAll args ++
      mergesOfCalls (chain receiver [.call method args]) rest
end

/-- Whatever is merged and whatever it is merged into has some property. -/
def MergesOnly (P : Expr → Prop) (e : Expr) : Prop := ∀ m ∈ merges e, P m.1 ∧ P m.2

/-- An expression that is no chain on a chain, and whose last call is there and does not merge, if it
    is a chain. -/
inductive Settled : Expr → Prop where
  | bare {e : Expr} (h : ∀ base calls, e ≠ .chained base calls) : Settled e
  | chained {base : Expr} {earlier : List Call} {method : String} {args : List Expr}
    (hb : ∀ inner calls, base ≠ .chained inner calls) (hm : method ≠ "merge") :
    Settled (.chained base (earlier ++ [.call method args]))

section

variable {P : Expr → Prop} {e base receiver : Expr} {es args : List Expr} {a b calls : List Call}
  {method : String}

theorem chain_chain (e : Expr) (a b : List Call) : chain (chain e a) b = chain e (a ++ b) := by
  cases a with
  | nil => rfl
  | cons first rest =>
    cases b with
    | nil => simp [chain]
    | cons next more => cases e <;> simp [chain]

theorem mem_mergesOfAll {m : Expr × Expr} : m ∈ mergesOfAll es ↔ ∃ e ∈ es, m ∈ merges e := by
  induction es with
  | nil => simp [mergesOfAll]
  | cons e rest ih => simp [mergesOfAll, ih]

theorem mergesOfCalls_append (receiver : Expr) (a b : List Call) :
    mergesOfCalls receiver (a ++ b) =
      mergesOfCalls receiver a ++ mergesOfCalls (chain receiver a) b := by
  induction a generalizing receiver with
  | nil => rfl
  | cons call rest ih =>
    obtain ⟨method, args⟩ := call
    rw [List.cons_append, mergesOfCalls, mergesOfCalls, ih, chain_chain]
    simp only [List.append_assoc, List.singleton_append]

/-- The links of a chain are those of what it is called on and those among its calls. -/
theorem merges_chain (hs : Settled e) (calls : List Call) :
    merges (chain e calls) = merges e ++ mergesOfCalls e calls := by
  cases calls with
  | nil => simp [chain, mergesOfCalls]
  | cons call rest =>
    cases hs with
    | bare h => rw [chain_of_ne h (by simp), merges]
    | @chained base earlier method args hb _ =>
      rw [← chain_of_ne hb (by simp), chain_chain, chain_of_ne hb (by simp), chain_of_ne hb (by simp),
        merges, merges, mergesOfCalls_append, chain_of_ne hb (by simp), List.append_assoc]

/-! ## Calls that merge nothing -/

/-- Calls that merge nothing, neither themselves nor inside their arguments. -/
def Mergeless (calls : List Call) : Prop :=
  ∀ call ∈ calls, ∃ method args, call = .call method args ∧ method ≠ "merge" ∧ mergesOfAll args = []

theorem mergesOfCalls_of_mergeless (h : Mergeless calls) (receiver : Expr) :
    mergesOfCalls receiver calls = [] := by
  induction calls generalizing receiver with
  | nil => rfl
  | cons call rest ih =>
    obtain ⟨method, args, rfl, hm, ha⟩ := h call List.mem_cons_self
    have hrest := ih (fun call hc => h call (List.mem_cons_of_mem _ hc))
      (chain receiver [.call method args])
    simp [mergesOfCalls, hm, ha, hrest]

theorem settled_chain (hs : Settled e)
    (hc : ∀ call ∈ calls, ∃ method args, call = .call method args ∧ method ≠ "merge") :
    Settled (chain e calls) := by
  rcases List.eq_nil_or_concat calls with rfl | ⟨earlier, last, rfl⟩
  · exact hs
  rw [List.concat_eq_append] at hc ⊢
  obtain ⟨method, args, rfl, hm⟩ := hc last (by simp)
  cases hs with
  | bare h =>
    rw [chain_of_ne h (by simp)]
    exact .chained h hm
  | @chained base first _ _ hb =>
    rw [← chain_of_ne hb (by simp), chain_chain, chain_of_ne hb (by simp), ← List.append_assoc]
    exact .chained hb hm

theorem settled_z (args : List Expr) (hm : method ≠ "merge") : Settled (z method args) :=
  @Settled.chained (.identifier "z") [] method args (by simp) hm

theorem not_settled_chain_merge (e : Expr) (args : List Expr) :
    ¬ Settled (chain e [.call "merge" args]) := by
  have hlast : ∀ base earlier, ¬ Settled (.chained base (earlier ++ [.call "merge" args])) := by
    intro base earlier h
    generalize heq : earlier ++ [Call.call "merge" args] = calls at h
    cases h with
    | bare h => exact h _ _ rfl
    | chained _ hm =>
      obtain ⟨-, h⟩ := List.append_inj' heq rfl
      cases h
      exact hm rfl
  cases e with
  | chained base earlier => exact hlast base earlier
  | _ => exact hlast _ []

theorem mergesOnly_chain_iff (hs : Settled e) (h : Mergeless calls) :
    MergesOnly P (chain e calls) ↔ MergesOnly P e := by
  rw [MergesOnly, merges_chain hs, mergesOfCalls_of_mergeless h, List.append_nil, MergesOnly]

theorem forall_mergesOfAll_iff :
    (∀ m ∈ mergesOfAll es, P m.1 ∧ P m.2) ↔ ∀ e ∈ es, MergesOnly P e := by
  simp only [mem_mergesOfAll]
  constructor
  · exact fun h e he m hm => h m ⟨e, he, hm⟩
  · rintro h m ⟨e, he, hm⟩
    exact h e he m hm

theorem mergesOnly_z_iff (hm : method ≠ "merge") :
    MergesOnly P (z method args) ↔ ∀ e ∈ args, MergesOnly P e := by
  rw [← forall_mergesOfAll_iff]
  simp [MergesOnly, z, merges, mergesOfCalls, hm]

theorem mergesOnly_array_iff : MergesOnly P (.array es) ↔ ∀ e ∈ es, MergesOnly P e := by
  rw [← forall_mergesOfAll_iff, MergesOnly, merges]

mutual
/-- Constants merge nothing. -/
theorem merges_ofValue (value : Value) : merges (ofValue value) = [] := by
  cases value with
  | scalar s => cases s <;> rfl
  | list items mark => exact mergesOfAll_ofItems items
  | map fields mark => exact mergesOfProperties_ofFields fields
  | pair first second =>
    simp [ofValue, merges, mergesOfAll, merges_ofValue first, merges_ofValue second]
  | set members => rfl

theorem mergesOfAll_ofItems (items : List Value) : mergesOfAll (ofItems items) = [] := by
  cases items with
  | nil => rfl
  | cons item rest => simp [ofItems, mergesOfAll, merges_ofValue item, mergesOfAll_ofItems rest]

theorem mergesOfProperties_ofFields (fields : Fields) :
    mergesOfProperties (ofFields fields) = [] := by
  cases fields with
  | nil => rfl
  | cons field rest =>
    obtain ⟨key, value⟩ := field
    simp [ofFields, property, mergesOfProperties, merges_ofValue value,
      mergesOfProperties_ofFields rest]
end

end

theorem mergesOnly_ofValue {P : Expr → Prop} (value : Value) : MergesOnly P (ofValue value) := by
  simp [MergesOnly, merges_ofValue]

/-- A validator that objects can be merged into: as the library makes one for objects, such a one
    into which others are merged, or a name that is said to be one. -/
inductive Mergeable (objects : String → Prop) : Expr → Prop where
  | made {args : List Expr} : Mergeable objects (z "object" args)
  | merged {e other : Expr} (he : Mergeable objects e) (ho : Mergeable objects other) :
    Mergeable objects (chain e [.call "merge" [other]])
  | named {name : String} (h : objects name) : Mergeable objects (.identifier name)

end Expr

namespace Validation

open Expr

variable {fields : Fields} {type : Value} {p : Presence} {calls : List Call} {call : Call}

theorem mergesOfAll_singleton_ofValue (value : Value) : mergesOfAll [ofValue value] = [] := by
  simp [mergesOfAll, merges_ofValue]

/-- A call for a keyword merges nothing. -/
theorem Constrains.mergeless {maker : String} (h : Constrains maker call) :
    ∃ method args, call = .call method args ∧ method ≠ "merge" ∧ mergesOfAll args = [] := by
  cases h with
  | length hm | count hm =>
    refine ⟨_, _, rfl, ?_, mergesOfAll_singleton_ofValue _⟩
    rintro rfl
    simp at hm
  | bound hm =>
    refine ⟨_, _, rfl, ?_, mergesOfAll_singleton_ofValue _⟩
    rintro rfl
    simp at hm
  | pattern | whole => exact ⟨_, _, rfl, by simp, rfl⟩
  | format h =>
    unfold formatCall? at h
    split at h <;> cases h <;> exact ⟨_, _, rfl, by simp, rfl⟩

theorem mergeless_presence (fields : Fields) (p : Presence) : Mergeless (presence fields p) := by
  intro call hc
  obtain ⟨method, hm, rfl⟩ := exists_of_mem_presence hc
  refine ⟨method, [], rfl, ?_, rfl⟩
  rintro rfl
  simp at hm

theorem mergeless_calls (h : Validation.calls fields type p = .ok calls) : Mergeless calls := by
  obtain ⟨narrowing, default, rfl, hn, hd⟩ := exists_of_calls h
  intro call hc
  rcases List.mem_append.1 hc with hc | hc
  · rcases List.mem_append.1 hc with hc | hc
    · obtain ⟨_, _, hconstrains⟩ := constrains_of_constraints hn hc
      exact hconstrains.mergeless
    · exact mergeless_presence fields p call hc
  · obtain ⟨value, rfl⟩ := exists_of_mem_defaultCalls hd hc
    exact ⟨_, _, rfl, by simp, mergesOfAll_singleton_ofValue value⟩

end Validation

namespace Compile

open Expr

section

variable {P : Expr → Prop} {es : List Expr} {first : Expr}

theorem settled_union (h : ∀ e ∈ es, Settled e) : Settled (union es) := by
  unfold union
  split
  · exact h _ (List.mem_singleton_self _)
  · exact settled_z _ (by simp)

theorem settled_joinBy {joining : String} (hj : joining ≠ "merge") (h : ∀ e ∈ es, Settled e) :
    Settled (joinBy joining es) := by
  cases es with
  | nil => exact .bare (by simp [joinBy])
  | cons first rest =>
    refine settled_chain (h first List.mem_cons_self) fun call hc => ?_
    obtain ⟨member, _, rfl⟩ := List.mem_map.1 hc
    exact ⟨joining, [member], rfl, hj⟩

theorem mergesOnly_union_iff : MergesOnly P (union es) ↔ ∀ e ∈ es, MergesOnly P e := by
  unfold union
  split
  · simp
  · simp [mergesOnly_z_iff, mergesOnly_array_iff]

theorem mergesOfCalls_map {joining : String} (hj : joining ≠ "merge") (receiver : Expr)
    (es : List Expr) :
    mergesOfCalls receiver (es.map fun member => .call joining [member]) = mergesOfAll es := by
  induction es generalizing receiver with
  | nil => rfl
  | cons e rest ih =>
    rw [List.map_cons, mergesOfCalls, ih, if_neg hj, mergesOfAll, mergesOfAll, mergesOfAll]
    simp

theorem mergesOnly_joinBy_iff {joining : String} (hj : joining ≠ "merge")
    (h : ∀ e ∈ es, Settled e) : MergesOnly P (joinBy joining es) ↔ ∀ e ∈ es, MergesOnly P e := by
  cases es with
  | nil => simp [joinBy, mergesOnly_array_iff]
  | cons first rest =>
    rw [← forall_mergesOfAll_iff, mergesOfAll, joinBy, MergesOnly,
      merges_chain (h first List.mem_cons_self), mergesOfCalls_map hj]

end

section

variable {P : Expr → Prop} {es : List Expr} {receiver : Expr}
  (hP : ∀ e other, P e → P other → P (chain e [.call "merge" [other]]))

include hP

/-- Where members are merged one after the other, the last link is as good as the first one. -/
theorem forall_merges_iff :
    (∀ m ∈ mergesOfCalls receiver (es.map fun member => .call "merge" [member]), P m.1 ∧ P m.2) ↔
      (∀ e ∈ es, MergesOnly P e) ∧ (es ≠ [] → P receiver ∧ ∀ e ∈ es, P e) := by
  -- The receiver of a call is all that stands before it, so it grows with each call.
  induction es generalizing receiver with
  | nil => simp [mergesOfCalls]
  | cons e rest ih =>
    have hcalls : ∀ m, m ∈ mergesOfCalls receiver
          ((e :: rest).map fun member => .call "merge" [member]) ↔
        m = (receiver, e) ∨ m ∈ merges e ∨
          m ∈ mergesOfCalls (chain receiver [.call "merge" [e]])
            (rest.map fun member => .call "merge" [member]) := by
      intro m
      simp [mergesOfCalls, mergesOfAll]
    constructor
    · intro h
      obtain ⟨hreceiver, he⟩ := h _ ((hcalls _).2 (.inl rfl))
      have hmerges : MergesOnly P e := fun m hm => h m ((hcalls m).2 (.inr (.inl hm)))
      obtain ⟨hall, hrest⟩ := ih.1 fun m hm => h m ((hcalls m).2 (.inr (.inr hm)))
      refine ⟨List.forall_mem_cons.2 ⟨hmerges, hall⟩, fun _ => ⟨hreceiver, ?_⟩⟩
      refine List.forall_mem_cons.2 ⟨he, fun other ho => ?_⟩
      exact (hrest (List.ne_nil_of_mem ho)).2 other ho
    · rintro ⟨hmerges, hall⟩ m hm
      obtain ⟨hreceiver, hall⟩ := hall (List.cons_ne_nil e rest)
      obtain ⟨he, hrest⟩ := List.forall_mem_cons.1 hall
      rcases (hcalls m).1 hm with rfl | hm | hm
      · exact ⟨hreceiver, he⟩
      · exact hmerges e List.mem_cons_self m hm
      · exact ih.2 ⟨(List.forall_mem_cons.1 hmerges).2, fun _ => ⟨hP _ _ hreceiver he, hrest⟩⟩ m hm

theorem mergesOnly_joinBy_merge_iff {first : Expr} {rest : List Expr} (hs : Settled first) :
    MergesOnly P (joinBy "merge" (first :: rest)) ↔
      (∀ e ∈ first :: rest, MergesOnly P e) ∧ (rest ≠ [] → ∀ e ∈ first :: rest, P e) := by
  rw [joinBy, MergesOnly, merges_chain hs]
  simp only [List.forall_mem_append, forall_merges_iff hP, List.forall_mem_cons]
  exact and_assoc.symm

/-- In the union of all combinations every member is merged into another one, unless there is only
    one member. -/
theorem mergesOnly_anyOf_iff (hs : ∀ e ∈ es, Settled e) :
    MergesOnly P (anyOf es) ↔
      (∀ e ∈ es, MergesOnly P e) ∧ (2 ≤ es.length → ∀ e ∈ es, P e) := by
  have hselection : ∀ selection ∈ selections es, ∃ first rest, selection = first :: rest ∧
      (first :: rest).Sublist es := by
    intro selection h
    obtain ⟨hsub, hne⟩ := mem_selections.1 h
    obtain ⟨first, rest, rfl⟩ := List.exists_cons_of_ne_nil hne
    exact ⟨first, rest, rfl, hsub⟩
  rw [anyOf, mergesOnly_union_iff, List.forall_mem_map]
  constructor
  · intro h
    cases es with
    | nil => simp
    | cons first rest =>
      have hall := h _ (mem_selections.2 ⟨List.Sublist.refl _, List.cons_ne_nil first rest⟩)
      rw [mergesOnly_joinBy_merge_iff hP (hs first List.mem_cons_self)] at hall
      refine ⟨hall.1, fun hl => hall.2 ?_⟩
      rintro rfl
      simp at hl
  · rintro ⟨hmerges, hall⟩ selection h
    obtain ⟨first, rest, rfl, hsub⟩ := hselection selection h
    rw [mergesOnly_joinBy_merge_iff hP (hs first (hsub.subset List.mem_cons_self))]
    refine ⟨fun e he => hmerges e (hsub.subset he), fun hne e he => hall ?_ e (hsub.subset he)⟩
    have hle := hsub.length_le
    have hpos := List.length_pos_of_ne_nil hne
    rw [List.length_cons] at hle
    omega

end

end Compile
end RestContract
