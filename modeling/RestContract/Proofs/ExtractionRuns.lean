import RestContract.Operation.Extraction
import RestContract.Proofs.Runs

/-!
# How operations are extracted

An extraction that succeeds, taken apart once: the operations of a document are those of its paths,
the operations of a path are those of its fields, and what a field holds has been made from the
operation in it. The other way round, extractions that succeed are put together to a larger one.
-/

namespace RestContract.Operation

variable {document components : Value} {path : Scalar × Value} {item : Fields}
  {field : Scalar × Value} {operation : Operation} {operations : List Operation}

theorem exists_of_ofDocument (h : (ofDocument document components).result = .ok operations) :
    ∃ all paths found, document.asFields = .ok all ∧
      (all.get "paths").orEmptyMap.asFields = .ok paths ∧
      List.Forall₂ (fun path group => (ofPath components path).result = .ok group) paths found ∧
      operations = found.flatten := by
  obtain ⟨all, ha, h⟩ := Traced.exists_of_result_bind h
  obtain ⟨paths, hp, h⟩ := Traced.exists_of_result_bind h
  obtain ⟨found, hf, h⟩ := Traced.exists_of_result_bind h
  obtain ⟨_, _, h⟩ := Traced.exists_of_result_bind h
  cases h
  exact ⟨all, paths, found, ha, hp, Traced.result_mapM_eq_ok_iff.1 hf, rfl⟩

theorem eq_nil_of_ofPath (h : (ofPath components path).result = .ok operations)
    (hv : path.2.isVacant = true) : operations = [] := by
  rw [ofPath, if_pos hv] at h
  exact (Except.ok.inj h).symm

theorem exists_of_ofPath (h : (ofPath components path).result = .ok operations)
    (hv : path.2.isVacant = false) :
    ∃ resolved item held, Components.resolveValue components path.2 = .ok resolved ∧
      resolved.asFields = .ok item ∧
      List.Forall₂ (fun field made => (ofField components path.1 item field).result = .ok made)
        item held ∧ operations = held.filterMap id := by
  simp only [ofPath, hv, Bool.false_eq_true, if_false] at h
  obtain ⟨resolved, hr, h⟩ := Traced.exists_of_result_bind h
  obtain ⟨item, hi, h⟩ := Traced.exists_of_result_bind h
  obtain ⟨held, hh, h⟩ := Traced.exists_of_result_bind h
  cases h
  exact ⟨resolved, item, held, hr, hi, Traced.result_mapM_eq_ok_iff.1 hh, rfl⟩

/-- Of a path that holds operations there is something to read. -/
theorem isVacant_of_mem_ofPath (h : (ofPath components path).result = .ok operations)
    (hm : operation ∈ operations) : path.2.isVacant = false := by
  rw [← Bool.not_eq_true]
  intro hv
  rw [eq_nil_of_ofPath h hv] at hm
  cases hm

theorem exists_extract_of_ofField {name : Scalar}
    (h : (ofField components name item field).result = .ok (some operation)) :
    ∃ method fields, extract components name item method fields = .ok operation := by
  unfold ofField at h
  obtain ⟨key, _, h⟩ := Traced.exists_of_result_bind h
  split at h
  · cases h
  obtain ⟨method, _, h⟩ := Traced.exists_of_result_bind h
  split at h
  · split at h
    · cases h
    · obtain ⟨extracted, he, h⟩ := Traced.exists_of_result_bind h
      cases h
      exact ⟨method, _, he⟩
  · cases h

/-- Every operation of a document has been made from one that a path holds. -/
theorem exists_extract_of_mem (h : (ofDocument document components).result = .ok operations)
    (hm : operation ∈ operations) :
    ∃ name item method fields, extract components name item method fields = .ok operation := by
  obtain ⟨_, paths, found, _, _, hf, rfl⟩ := exists_of_ofDocument h
  obtain ⟨group, hg, hm⟩ := List.mem_flatten.1 hm
  obtain ⟨path, _, hpath⟩ := exists_of_mem_forall₂ hf hg
  obtain ⟨_, item, held, _, _, hheld, rfl⟩ :=
    exists_of_ofPath hpath (isVacant_of_mem_ofPath hpath hm)
  obtain ⟨made, hmade, rfl⟩ := List.mem_filterMap.1 hm
  obtain ⟨field, _, hfield⟩ := exists_of_mem_forall₂ hheld hmade
  obtain ⟨method, fields, he⟩ := exists_extract_of_ofField hfield
  exact ⟨path.1, item, method, fields, he⟩

/-! ## Extractions put together -/

section

variable {fields : Fields} {mark : Option Nat}

theorem result_ofField {name : Scalar} {key : String} {method : Method}
    (hk : isPassedOver key = false) (hm : Method.ofKey? key = some method)
    (hr : (fields.get "responses").isVacant = false)
    (he : extract components name item method fields = .ok operation) :
    (ofField components name item (.text key, .map fields mark)).result = .ok (some operation) := by
  have hmethod : methodOf key name = .ok method := by
    rw [methodOf, hm]
    rfl
  simp only [ofField, keyText, Traced.result_bind, Traced.result_liftM, ok_bind, hk, hmethod, hr, he,
    Bool.false_eq_true, if_false, Traced.result_pure]

theorem result_ofPath {name : Scalar} {found : List (Option Operation)}
    (hv : (Value.map item mark).isVacant = false)
    (hr : Components.resolveValue components (.map item mark) = .ok (.map item mark))
    (ho : (item.mapM (ofField components name item)).result = .ok found) :
    (ofPath components (name, .map item mark)).result = .ok (found.filterMap id) := by
  simp only [ofPath, hv, Bool.false_eq_true, if_false, Traced.result_bind, Traced.result_liftM, hr,
    ok_bind, Value.asFields, ho, Traced.result_pure]

theorem result_ofDocument {paths : Fields} {found : List (List Operation)}
    (hd : document.asFields = .ok fields) (hp : (fields.get "paths").orEmptyMap.asFields = .ok paths)
    (ho : (paths.mapM (ofPath components)).result = .ok found) :
    (ofDocument document components).result = .ok found.flatten := by
  simp only [ofDocument, Traced.result_bind, Traced.result_liftM, hd, hp, ho, ok_bind,
    Traced.result_note, Traced.result_pure]

end

end RestContract.Operation
