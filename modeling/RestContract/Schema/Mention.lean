import RestContract.Schema.Nested

/-!
# References inside schemas

The references that stand inside a schema, read off the schema alone, and how many schemas it holds.
A walk that follows each reference once comes to an end because of the two: what it follows are the
references inside the components, and between two of them it only takes schemas apart.
-/

namespace RestContract.Schema

/-- The schemas directly inside a schema. A reference, and what is no schema, holds none. -/
def inside (schema : Value) : List Value :=
  match schema with
  | .map fields mark =>
    if (Value.map fields mark).isReference then [] else (nested fields).toOption.getD []
  | _ => []

theorem inside_eq {fields : Fields} {mark : Option Nat} {inner : List Value}
    (ht : Reference.target? (.map fields mark) = none) (hn : nested fields = .ok inner) :
    inside (.map fields mark) = inner := by
  simp [inside, Value.isReference, ht, hn, Except.toOption]

theorem size_lt_of_mem_inside {schema inner : Value} (h : inner ∈ inside schema) :
    inner.size < schema.size := by
  cases schema with
  | map fields mark =>
    simp only [inside] at h
    split at h
    · cases h
    · cases hn : nested fields with
      | ok all =>
        rw [hn] at h
        exact size_lt_of_mem_nested hn h mark
      | error e =>
        rw [hn] at h
        cases h
  | _ => cases h

/-- The text of a reference. -/
def ownReference (schema : Value) : List String :=
  match Reference.target? schema with
  | some (.text ref) => [ref]
  | _ => []

/-- The references inside a schema at any depth, in the order of the document. A reference is the
    only one inside itself. -/
def mentions (schema : Value) : List String :=
  ownReference schema ++ (inside schema).attach.flatMap fun ⟨inner, _⟩ => mentions inner
  termination_by schema.size
  decreasing_by exact size_lt_of_mem_inside ‹_›

theorem mentions_eq (schema : Value) :
    mentions schema = ownReference schema ++ (inside schema).flatMap mentions := by
  rw [mentions, List.flatMap_subtype (fun _ _ => rfl), List.unattach_attach]

/-- The sum of some numbers. -/
def total : List Nat → Nat
  | [] => 0
  | n :: rest => n + total rest

theorem total_append (a b : List Nat) : total (a ++ b) = total a + total b := by
  induction a with
  | nil => simp [total]
  | cons n rest ih => simp only [List.cons_append, total, ih]; omega

/-- The number of schemas that a schema holds, itself included. -/
def extent (schema : Value) : Nat :=
  1 + total ((inside schema).attach.map fun ⟨inner, _⟩ => extent inner)
  termination_by schema.size
  decreasing_by exact size_lt_of_mem_inside ‹_›

theorem extent_eq (schema : Value) :
    extent schema = 1 + total ((inside schema).map extent) := by
  rw [extent, List.map_subtype (fun _ _ => rfl), List.unattach_attach]

/-! ## References that have not been seen -/

/-- The references of a list that have not been seen, each once. -/
def fresh (seen : List String) : List String → List String
  | [] => []
  | ref :: rest => if ref ∈ seen then fresh seen rest else ref :: fresh (ref :: seen) rest

theorem mem_fresh {seen refs : List String} {ref : String} :
    ref ∈ fresh seen refs ↔ ref ∈ refs ∧ ref ∉ seen := by
  induction refs generalizing seen with
  | nil => simp [fresh]
  | cons first rest ih =>
    by_cases hs : first ∈ seen
    · rw [fresh, if_pos hs, ih, List.mem_cons]
      constructor
      · rintro ⟨hr, hn⟩
        exact ⟨.inr hr, hn⟩
      · rintro ⟨rfl | hr, hn⟩
        · exact absurd hs hn
        · exact ⟨hr, hn⟩
    · rw [fresh, if_neg hs, List.mem_cons, ih, List.mem_cons, List.mem_cons]
      constructor
      · rintro (rfl | ⟨hr, hn⟩)
        · exact ⟨.inl rfl, hs⟩
        · exact ⟨.inr hr, fun h => hn (.inr h)⟩
      · rintro ⟨rfl | hr, hn⟩
        · exact .inl rfl
        · by_cases heq : ref = first
          · exact .inl heq
          · exact .inr ⟨hr, fun h => h.elim heq hn⟩

theorem nodup_fresh (seen refs : List String) : (fresh seen refs).Nodup := by
  induction refs generalizing seen with
  | nil => simp [fresh]
  | cons first rest ih =>
    by_cases hs : first ∈ seen
    · rw [fresh, if_pos hs]
      exact ih seen
    · rw [fresh, if_neg hs, List.nodup_cons]
      exact ⟨fun h => (mem_fresh.1 h).2 List.mem_cons_self, ih _⟩

/-- What has not been seen of fewer references is no more. -/
theorem length_fresh_le {seen a b : List String} (h : ∀ ref ∈ a, ref ∈ b) :
    (fresh seen a).length ≤ (fresh seen b).length := by
  refine (nodup_fresh seen a).length_le_of_subset fun ref hr => ?_
  rw [mem_fresh] at hr ⊢
  exact ⟨h ref hr.1, hr.2⟩

/-- Once a reference has been seen, fewer are left. -/
theorem length_fresh_lt {seen a b : List String} {ref : String} (h : ∀ other ∈ a, other ∈ b)
    (hb : ref ∈ b) (hs : ref ∉ seen) :
    (fresh (seen ++ [ref]) a).length < (fresh seen b).length := by
  have hnodup : (ref :: fresh (seen ++ [ref]) a).Nodup := by
    rw [List.nodup_cons]
    exact ⟨fun hm => (mem_fresh.1 hm).2 (by simp), nodup_fresh _ _⟩
  have hle : (ref :: fresh (seen ++ [ref]) a).length ≤ (fresh seen b).length := by
    refine hnodup.length_le_of_subset fun other ho => ?_
    rw [mem_fresh]
    cases ho with
    | head => exact ⟨hb, hs⟩
    | tail _ ho =>
      have ho := mem_fresh.1 ho
      exact ⟨h other ho.1, fun hm => ho.2 (List.mem_append.2 (.inl hm))⟩
  simp only [List.length_cons] at hle
  omega

end RestContract.Schema
