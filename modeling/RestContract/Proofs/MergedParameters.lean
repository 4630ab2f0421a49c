import RestContract.Proofs.ExtractedOperations
import RestContract.Proofs.ForeseenContext
import RestContract.Proofs.ValueMeaning

/-!
# Parameters of a path and of its operations

The record of an operation has the parameters of its path and its own, one after the other, without
those that are the same as an earlier one. An item is compared with the items that were kept, and
that is enough: an item that was dropped is the same as one of them, so nothing is the same as the
dropped item that is not the same as the kept one. References are compared as they are written, and
resolved afterwards.
-/

namespace RestContract

namespace Value

variable {items : List Value} {item : Value}

/-- The items that are the same as no earlier one. -/
def firsts (items : List Value) : List Value :=
  (items.zipIdx.filter fun (item, i) => (items.take i).all (!·.same item)).map Prod.fst

theorem firsts_concat (items : List Value) (item : Value) :
    firsts (items ++ [item]) =
      if items.any (·.same item) then firsts items else firsts items ++ [item] := by
  have hsame : items.zipIdx.filter
        (fun entry => ((items ++ [item]).take entry.2).all (!·.same entry.1)) =
      items.zipIdx.filter fun entry => (items.take entry.2).all (!·.same entry.1) := by
    apply List.filter_congr
    rintro ⟨entry, i⟩ hm
    have hlt : i < items.length := by
      have := List.snd_lt_of_mem_zipIdx hm
      simpa using this
    rw [List.take_append_of_le_length hlt.le]
  simp only [firsts, List.zipIdx_append, List.filter_append, List.map_append, hsame]
  by_cases hany : items.any (·.same item) = true
  · simp_all
  · simp_all

theorem dedup_concat (items : List Value) (item : Value) :
    dedup (items ++ [item]) =
      if (dedup items).any (·.same item) then dedup items else dedup items ++ [item] := by
  rw [dedup, List.foldl_append]
  rfl

/-- What is the same as an item is the same as one that is kept. -/
theorem any_dedup (h : ∀ entry ∈ items, IsMeaningful entry) (hi : IsMeaningful item) :
    (dedup items).any (·.same item) = items.any (·.same item) := by
  induction items using List.reverseRecOn generalizing item with
  | nil => rfl
  | append_singleton items last ih =>
    simp only [List.forall_mem_append, List.forall_mem_singleton] at h
    obtain ⟨hitems, hlast⟩ := h
    rw [dedup_concat, List.any_append, ← ih hitems hi]
    split
    · next hdropped =>
      rw [ih hitems hlast, List.any_eq_true] at hdropped
      obtain ⟨earlier, hm, hsame⟩ := hdropped
      -- What is dropped has the meaning of an earlier item, so that one stands for it everywhere.
      have hmeans := (same_iff_meaning (hitems earlier hm) hlast).1 hsame
      have hover : last.same item = true → (dedup items).any (·.same item) = true := by
        intro hl
        rw [ih hitems hi, List.any_eq_true]
        refine ⟨earlier, hm, (same_iff_meaning (hitems earlier hm) hi).2 ?_⟩
        rw [hmeans, (same_iff_meaning hlast hi).1 hl]
      cases hl : last.same item with
      | false => simp [hl]
      | true => simp [hover hl]
    · rw [List.any_append]

/-- The items that are kept are those that are the same as no earlier one, kept or not. -/
theorem dedup_eq_firsts (h : ∀ entry ∈ items, IsMeaningful entry) :
    dedup items = firsts items := by
  induction items using List.reverseRecOn with
  | nil => rfl
  | append_singleton items last ih =>
    simp only [List.forall_mem_append, List.forall_mem_singleton] at h
    rw [dedup_concat, firsts_concat, any_dedup h.1 h.2, ih h.1]

/-- Only a scalar is the same as a scalar. -/
theorem exists_scalar_of_same {value : Value} {s : Scalar} (h : value.same (.scalar s) = true) :
    ∃ t, value = .scalar t := by
  cases value with
  | scalar t => exact ⟨t, rfl⟩
  | list | map | pair | set => simp [same] at h

end Value

/-! ## What is written in a document -/

/-- The items of a list; other values have none. -/
def Value.listed : Value → List Value
  | .list items _ => items
  | _ => []

namespace IsMeaningful

variable {value : Value} {fields : Fields} {items : List Value} {mark : Option Nat}

theorem null : IsMeaningful .null := .scalar (by simp [Scalar.IsMeaningful, Scalar.meaning])

theorem bool (b : Bool) : IsMeaningful (.bool b) :=
  .scalar (by simp [Scalar.IsMeaningful, Scalar.meaning])

theorem int (n : Int) : IsMeaningful (.int n) :=
  .scalar (by simp [Scalar.IsMeaningful, Scalar.meaning])

theorem text (s : String) : IsMeaningful (.text s) :=
  .scalar (by simp [Scalar.IsMeaningful, Scalar.meaning])

theorem of_mem_map (h : IsMeaningful (.map fields mark)) {field : Scalar × Value}
    (hm : field ∈ fields) : IsMeaningful field.2 := by
  cases h with
  | map _ _ hv => exact hv field hm

theorem hasTextKeys (h : IsMeaningful (.map fields mark)) : fields.hasTextKeys = true := by
  cases h with
  | map hk _ _ => exact hk

theorem unmark (h : IsMeaningful (.map fields mark)) : IsMeaningful (.ofFields fields) := by
  cases h with
  | map hk hn hv => exact .map hk hn hv

theorem object {named : List (String × Value)} (hn : (named.map Prod.fst).Nodup)
    (hv : ∀ entry ∈ named, IsMeaningful entry.2) : IsMeaningful (.object named) := by
  apply IsMeaningful.map
  · simp [Fields.hasTextKeys]
  · exact Schema.nodup_keys_textFields.2 hn
  · intro field hf
    obtain ⟨entry, he, rfl⟩ := List.mem_map.1 hf
    exact hv entry he

theorem of_asFields (h : IsMeaningful value) (hf : value.asFields = .ok fields) :
    IsMeaningful (.ofFields fields) := by
  cases value with
  | map found mark =>
    cases hf
    exact h.unmark
  | scalar | list | pair | set => cases hf

theorem get (h : IsMeaningful (.map fields mark)) (name : String) :
    IsMeaningful (fields.get name) := by
  unfold Fields.get
  cases hg : fields.get? name with
  | none => exact null
  | some value => exact h.of_mem_map (Fields.mem_of_get? hg)

theorem orEmptyMap (h : IsMeaningful value) : IsMeaningful value.orEmptyMap := by
  unfold Value.orEmptyMap
  split
  · exact .map rfl (by simp) (by simp)
  · exact h

theorem of_lookup {components : Value} {r : Reference} (hc : IsMeaningful components)
    (h : Components.lookup components r = .ok (some fields)) : IsMeaningful (.ofFields fields) := by
  obtain ⟨kinds, hk, hl⟩ := exists_of_bind_eq_ok h
  have hkind := (hc.of_asFields hk).get r.kind.name
  split at hl
  · next named own hnamed =>
    rw [hnamed] at hkind
    split at hl
    · next found other hfound =>
      cases hl
      exact (hkind.of_mem_map (Fields.mem_of_get? hfound)).unmark
    · cases hl
  · cases hl

theorem of_leads {components ref : Value} {kind : ComponentKind} {steps : Nat}
    (hc : IsMeaningful components) (h : Components.Leads components kind ref fields steps) :
    IsMeaningful (.ofFields fields) := by
  induction h with
  | here hn _ =>
    obtain ⟨r, _, _, hl⟩ := hn
    exact hc.of_lookup hl
  | next _ _ _ ih => exact ih

theorem of_resolveValue {components given : Value} (hc : IsMeaningful components)
    (hg : IsMeaningful given) (h : Components.resolveValue components given = .ok value) :
    IsMeaningful value := by
  unfold Components.resolveValue at h
  split at h
  · obtain ⟨found, hf, h⟩ := exists_of_bind_eq_ok h
    cases h
    obtain ⟨_, _, _, _, hl⟩ := Components.resolve_eq_ok_iff.1 hf
    exact hc.of_leads hl
  · cases h
    exact hg

/-- What is gone through is a list, or its parts are texts. -/
theorem parts_of_asParts {parts : List Value} (h : IsMeaningful value)
    (hp : value.orEmptyList.asParts = .ok parts) :
    parts = value.listed ∨ value.listed = [] ∧ ∀ part ∈ parts, ∃ s, part = .text s := by
  unfold Value.orEmptyList at hp
  split at hp
  · next hvacant =>
    cases hp
    left
    cases value with
    | list items mark => exact (List.isEmpty_iff.1 hvacant).symm
    | scalar | map | pair | set => rfl
  · cases h with
    | list _ =>
      cases hp
      exact .inl rfl
    | @scalar s hs =>
      cases s with
      | text s =>
        cases hp
        exact .inr ⟨rfl, by simp⟩
      | bytes => exact absurd rfl hs
      | null | bool | int | double | date | moment => cases hp
    | map hk _ _ =>
      cases hp
      refine .inr ⟨rfl, fun part hm => ?_⟩
      obtain ⟨⟨key, value⟩, hf, rfl⟩ := List.mem_map.1 hm
      obtain ⟨name, rfl⟩ := exists_text_of_hasTextKeys hk hf
      exact ⟨name, rfl⟩

theorem of_mem_listed (h : IsMeaningful value) {item : Value} (hm : item ∈ value.listed) :
    IsMeaningful item := by
  cases h with
  | list h => exact h item hm
  | scalar | map => cases hm

theorem of_mem_asParts {parts : List Value} (h : IsMeaningful value)
    (hp : value.orEmptyList.asParts = .ok parts) {part : Value} (hm : part ∈ parts) :
    IsMeaningful part := by
  obtain rfl | ⟨_, htexts⟩ := h.parts_of_asParts hp
  · exact h.of_mem_listed hm
  · obtain ⟨s, rfl⟩ := htexts part hm
    exact text s

end IsMeaningful

/-! ## The parameters of a record -/

namespace Operation

variable {components : Value} {item fields : Fields}

theorem eq_listed_of_asParts {value : Value} {parts : List Value} (hv : IsMeaningful value)
    (h : value.orEmptyList.asParts = .ok parts) (hs : ∀ s, .scalar s ∉ parts) :
    parts = value.listed := by
  obtain hlist | ⟨hnone, htexts⟩ := hv.parts_of_asParts h
  · exact hlist
  · rw [hnone, List.eq_nil_iff_forall_not_mem]
    intro part hm
    obtain ⟨s, rfl⟩ := htexts part hm
    exact hs _ hm

/-- An object is what a value is or refers to. -/
def ResolvesTo (components given : Value) (record : Fields) : Prop :=
  ∃ mark, Components.resolveValue components given = .ok (.map record mark)

/-- Where every value that is kept is or refers to an object, nothing that is listed is a scalar: one
    that is dropped is the same as one that is kept. -/
theorem scalar_not_mem_of_copies {listed : List Value} {records : List Fields}
    (hl : ∀ value ∈ listed, IsMeaningful value)
    (h : List.Forall₂ (Copies components) (Value.dedup listed) records) (s : Scalar) :
    .scalar s ∉ listed := by
  intro hm
  have hkept : (Value.dedup listed).any (·.same (.scalar s)) = true := by
    rw [Value.any_dedup hl (hl _ hm), List.any_eq_true]
    exact ⟨_, hm, (Value.same_iff_meaning (hl _ hm) (hl _ hm)).2 rfl⟩
  obtain ⟨kept, hk, hsame⟩ := List.any_eq_true.1 hkept
  obtain ⟨t, rfl⟩ := Value.exists_scalar_of_same hsame
  obtain ⟨record, _, fields, mark, hr, _⟩ := exists_of_mem_forall₂ h.flip hk
  cases hr

theorem resolvesTo_of_copies {given : Value} {record : Fields} (hc : IsMeaningful components)
    (hg : IsMeaningful given) (h : Copies components given record) :
    ResolvesTo components given record := by
  obtain ⟨found, mark, hr, _, _, heq, _⟩ := h
  refine ⟨mark, ?_⟩
  rw [hr, heq (hc.of_resolveValue hg hr).hasTextKeys]

theorem parameters_of_records {path : Scalar} {operation : Operation}
    (hc : IsMeaningful components) (hi : IsMeaningful (.ofFields item))
    (hf : IsMeaningful (.ofFields fields)) (h : Records components path item fields operation) :
    List.Forall₂ (ResolvesTo components)
      (Value.firsts ((item.get "parameters").listed ++ (fields.get "parameters").listed))
      operation.parameters := by
  obtain ⟨shared, own, hshared, hown, hcopies⟩ := h.parameters
  have hparts : ∀ part ∈ shared ++ own, IsMeaningful part := by
    intro part hm
    rcases List.mem_append.1 hm with hm | hm
    · exact (hi.get "parameters").of_mem_asParts hshared hm
    · exact (hf.get "parameters").of_mem_asParts hown hm
  have hobjects := scalar_not_mem_of_copies hparts hcopies
  simp only [List.mem_append, not_or, forall_and] at hobjects
  rw [← eq_listed_of_asParts (hi.get "parameters") hshared hobjects.1,
    ← eq_listed_of_asParts (hf.get "parameters") hown hobjects.2, ← Value.dedup_eq_firsts hparts]
  have hkept : ∀ given ∈ Value.dedup (shared ++ own), IsMeaningful given := by
    intro given hm
    exact hparts given (Shape.mem_of_mem_dedup hm)
  apply ((List.forall₂_and_left _ _).2 ⟨hkept, hcopies⟩).imp
  intro given record ⟨hgiven, hcopy⟩
  exact resolvesTo_of_copies hc hgiven hcopy

/-- Every record of a document is that of an operation with responses. -/
theorem exists_offers_of_mem {document : Value} {operations : List Operation}
    (h : (ofDocument document components).result = .ok operations) {operation : Operation}
    (hm : operation ∈ operations) : ∃ path item fields, Offers document components item fields ∧
      extract components path item operation.method fields = .ok operation := by
  obtain ⟨all, paths, found, ha, hp, hf, rfl⟩ := exists_of_ofDocument h
  obtain ⟨group, hg, hm⟩ := List.mem_flatten.1 hm
  obtain ⟨⟨path, value⟩, hpath, hread⟩ := exists_of_mem_forall₂ hf hg
  have hfull : value.isVacant = false := isVacant_of_mem_ofPath hread hm
  obtain ⟨item, mark, hr, _, hrecords⟩ := areRecordsOf_of_ofPath hread hfull
  obtain ⟨⟨name, holder⟩, hfield, hrecord⟩ := exists_of_mem_forall₂ hrecords hm
  obtain ⟨hfield, hholds⟩ := List.mem_filter.1 hfield
  obtain ⟨key, hkey, _⟩ := hrecord.method
  obtain ⟨fields, own, hfields, hextract, _⟩ := hrecord.extracted
  dsimp only at hkey hfields
  subst hkey hfields
  simp only [holdsOperation, Bool.and_eq_true, Bool.not_eq_true'] at hholds
  exact ⟨path, item, fields, .intro ⟨all, ha, hp⟩ hpath hfull hr rfl hfield hholds.1 hholds.2,
    hextract⟩

end Operation

namespace IsMeaningful

variable {document components : Value}

theorem of_ofDocument (hd : IsMeaningful document)
    (h : Components.ofDocument document = .ok components) : IsMeaningful components := by
  obtain ⟨fields, hf, h⟩ := exists_of_bind_eq_ok h
  cases h
  exact ((hd.of_asFields hf).get "components").orEmptyMap

theorem of_hasPaths {paths : Fields} (hd : IsMeaningful document) (h : HasPaths document paths) :
    IsMeaningful (.ofFields paths) := by
  obtain ⟨fields, hf, hp⟩ := h
  exact ((hd.of_asFields hf).get "paths").orEmptyMap.of_asFields hp

theorem of_offers {item fields : Fields} (hd : IsMeaningful document)
    (hc : IsMeaningful components) (h : Offers document components item fields) :
    IsMeaningful (.ofFields item) ∧ IsMeaningful (.ofFields fields) := by
  obtain ⟨hp, hm, _, hr, hi, ho, _, _⟩ := h
  have hvalue := (hd.of_hasPaths hp).of_mem_map hm
  have hitem := (hc.of_resolveValue hvalue hr).of_asFields hi
  exact ⟨hitem, (hitem.of_mem_map ho).unmark⟩

end IsMeaningful

namespace Operation

/-- The record of an operation has the items of the two lists of parameters that are the same as no
    earlier one, resolved. Items are the same just where they mean the same, which is an
    equivalence. -/
theorem recorded_parameters {document components : Value} (hd : IsMeaningful document)
    (hc : Components.ofDocument document = .ok components) :
    (∀ item fields, Offers document components item fields → ∀ path method operation,
      extract components path item method fields = .ok operation →
        List.Forall₂ (ResolvesTo components)
          (Value.firsts ((item.get "parameters").listed ++ (fields.get "parameters").listed))
          operation.parameters) ∧
    (∀ operations, (ofDocument document components).result = .ok operations →
      ∀ operation ∈ operations, ∃ path item fields, Offers document components item fields ∧
        extract components path item operation.method fields = .ok operation) ∧
    (∀ a b, IsMeaningful a → IsMeaningful b → (a.same b = true ↔ a.meaning = b.meaning)) ∧
    Equivalence fun a b : { value : Value // IsMeaningful value } => a.1.same b.1 = true := by
  have hcomponents := hd.of_ofDocument hc
  refine ⟨?_, ?_, fun a b => Value.same_iff_meaning, Value.equivalence_same⟩
  · intro item fields ho path method operation he
    obtain ⟨hitem, hfields⟩ := hd.of_offers hcomponents ho
    exact parameters_of_records hcomponents hitem hfields (records_of_extract he).2
  · intro operations h operation hm
    exact exists_offers_of_mem h hm

open Schema (textFields)

/-! ### A path with one operation -/

def operationWith (own : List Value) : Fields :=
  textFields [("parameters", .ofItems own), ("responses", .object [("200", .object [])])]

def itemWith (shared own : List Value) : Fields :=
  textFields [("parameters", .ofItems shared), ("get", .ofFields (operationWith own))]

/-- A single path that has some parameters, and one operation with some more. -/
def pathsWith (shared own : List Value) : Value :=
  .object [("/pets", .ofFields (itemWith shared own))]

def recordWith (parameters : List Fields) : Operation :=
  { Contract.petsOf .get with parameters := parameters }

theorem isMeaningful_pathsWith {shared own : List Value}
    (hs : ∀ parameter ∈ shared, IsMeaningful parameter)
    (ho : ∀ parameter ∈ own, IsMeaningful parameter) :
    IsMeaningful (pathsWith shared own) := by
  have hempty : IsMeaningful (.object []) := .object (by simp) (by simp)
  have hresponses : IsMeaningful (.object [("200", .object [])]) :=
    .object (by simp) (by simp [hempty])
  have hown : IsMeaningful (.ofItems own) := .list ho
  have hshared : IsMeaningful (.ofItems shared) := .list hs
  have hoperation : IsMeaningful (.ofFields (operationWith own)) :=
    .object (by simp) (by simp [hown, hresponses])
  have hitem : IsMeaningful (.ofFields (itemWith shared own)) :=
    .object (by simp) (by simp [hshared, hoperation])
  exact .object (by simp) (by simp [hitem])

/-- A parameter that a path gives and one of its operations gives again, in another order and with
    another form of the number one. -/
def boundedParameter : Fields :=
  textFields [("name", .text "page"), ("in", .text "query"), ("minimum", .int 1)]

def boundedAgain : Fields :=
  textFields [("in", .text "query"), ("minimum", .bool true), ("name", .text "page")]

/-- A parameter that stands among the components. -/
def sizeParameter : Fields := textFields [("name", .text "size"), ("in", .text "query")]

def sizeComponents : Value :=
  .object [("parameters", .object [("Size", .ofFields sizeParameter)])]

def toSize : Fields := textFields [("$ref", .text "#/components/parameters/Size")]

def listedAbove : List Value := [.ofFields boundedParameter]

def listedAgain : List Value := [.ofFields boundedAgain, .ofFields toSize]

/-- A document whose only path has these parameters. -/
def repeatingPaths : Value :=
  .object [("paths", pathsWith listedAbove listedAgain), ("components", sizeComponents)]

theorem isMeaningful_repeating : IsMeaningful repeatingPaths := by
  have htext := IsMeaningful.text
  have hone := IsMeaningful.int 1
  have htrue := IsMeaningful.bool true
  have hbounded : IsMeaningful (.ofFields boundedParameter) :=
    .object (by decide) (by simp [htext, hone])
  have hagain : IsMeaningful (.ofFields boundedAgain) :=
    .object (by decide) (by simp [htext, htrue])
  have hto : IsMeaningful (.ofFields toSize) := .object (by decide) (by simp [htext])
  have hsize : IsMeaningful (.ofFields sizeParameter) := .object (by decide) (by simp [htext])
  have hnamed : IsMeaningful (.object [("Size", .ofFields sizeParameter)]) :=
    .object (by simp) (by simp [hsize])
  have hcomponents : IsMeaningful sizeComponents := .object (by simp) (by simp [hnamed])
  have hpaths : IsMeaningful (pathsWith listedAbove listedAgain) :=
    isMeaningful_pathsWith (by simp [listedAbove, hbounded]) (by simp [listedAgain, hagain, hto])
  exact .object (by simp) (by simp [hpaths, hcomponents])

theorem offers_repeating :
    Offers repeatingPaths sizeComponents (itemWith listedAbove listedAgain)
      (operationWith listedAgain) :=
  .intro ⟨_, rfl, rfl⟩ List.mem_cons_self rfl rfl rfl (List.mem_cons_of_mem _ List.mem_cons_self)
    (by decide +kernel) rfl

theorem extract_repeating :
    extract sizeComponents (.text "/pets") (itemWith listedAbove listedAgain) .get
      (operationWith listedAgain) = .ok (recordWith [boundedParameter, sizeParameter]) := rfl

/-- The parameter that is given twice is recorded once, as the path gives it, and the reference is
    recorded as what it leads to. -/
theorem recorded_parameters_repeating :
    IsMeaningful repeatingPaths ∧
    Components.ofDocument repeatingPaths = .ok sizeComponents ∧
    Offers repeatingPaths sizeComponents (itemWith listedAbove listedAgain)
      (operationWith listedAgain) ∧
    extract sizeComponents (.text "/pets") (itemWith listedAbove listedAgain) .get
      (operationWith listedAgain) = .ok (recordWith [boundedParameter, sizeParameter]) ∧
    Value.firsts (listedAbove ++ listedAgain) = [.ofFields boundedParameter, .ofFields toSize] ∧
    List.Forall₂ (ResolvesTo sizeComponents) (Value.firsts (listedAbove ++ listedAgain))
      [boundedParameter, sizeParameter] :=
  ⟨isMeaningful_repeating, rfl, offers_repeating, extract_repeating, rfl,
    (recorded_parameters isMeaningful_repeating rfl).1 _ _ offers_repeating _ _ _
      extract_repeating⟩

end Operation
end RestContract
