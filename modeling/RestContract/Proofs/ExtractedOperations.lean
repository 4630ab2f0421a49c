import RestContract.Proofs.DeliveredEntries
import RestContract.Proofs.RecordedParts
import RestContract.Proofs.RouterKeys

/-!
# Extracted operations

The records of a document are read off its paths one by one, and what holds of each of them is what
the contract relies on: the keys of its responses have a form, so its entry is never refused for one
of them, and the codes in its table are numbers that it can be sorted by.
-/

namespace RestContract

/-! ## Codes that are numbers -/

namespace Contract

variable {α : Type}

/-- The number that decimal digits stand for; a line break behind them is passed over. -/
def codeNumber? (code : String) : Option Nat :=
  let digits := StatusKind.dropBreak code.toList
  if !digits.isEmpty && digits.all Char.isDigit then
    some (digits.foldl (fun n c => n * 10 + (c.toNat - '0'.toNat)) 0)
  else none

theorem filter_dropBreak (text : List Char) :
    (StatusKind.dropBreak text).filter Char.isDigit = text.filter Char.isDigit := by
  unfold StatusKind.dropBreak
  split
  · next h =>
    obtain ⟨front, rfl⟩ := List.getLast?_eq_some_iff.1 h
    simp
  · rfl

theorem codeNumber?_eq {code : String} (hne : StatusKind.dropBreak code.toList ≠ [])
    (hd : ∀ c ∈ StatusKind.dropBreak code.toList, c.isDigit = true) :
    codeNumber? code = some (codeNumber code) := by
  have hall : (!(StatusKind.dropBreak code.toList).isEmpty &&
      (StatusKind.dropBreak code.toList).all Char.isDigit) = true := by
    simpa [hne] using hd
  rw [codeNumber?, if_pos hall, codeNumber, ← filter_dropBreak, List.filter_eq_self.2 hd]

theorem codeNumber?_of_exact {code : String} (h : StatusKind.ofKey? code = some .exact) :
    codeNumber? code = some (codeNumber code) := by
  unfold StatusKind.ofKey? StatusKind.ofChars? at h
  split at h
  · cases h
  · split at h
    · next a b c heq =>
      split at h
      · cases h
      · split at h
        · next hdigits =>
          simp only [Bool.and_eq_true] at hdigits
          obtain ⟨⟨ha, hb⟩, hc⟩ := hdigits
          refine codeNumber?_eq (by simp [heq]) ?_
          rw [heq]
          simpa using ⟨StatusKind.isDigit_of_isFamily ha, hb, hc⟩
        · cases h
    · cases h

/-- The codes of shares have a property. -/
def AllCodes (P : String → Prop) (shares : List (Share α)) : Prop :=
  ∀ code ∈ taken shares, P code

theorem AllCodes.addShare {P : String → Prop} {shares : List (Share α)} (h : AllCodes P shares)
    {codes : List String} (hc : ∀ code ∈ codes, P code) (response : α) :
    AllCodes P (addShare shares codes response) := by
  intro code hm
  rw [taken_addShare, List.mem_append] at hm
  exact hm.elim (h code) (hc code)

theorem AllCodes.addFamily {P : String → Prop} {shares : List (Share α)} (h : AllCodes P shares)
    (hu : ∀ code ∈ usualCodes, P code) (entry : String × α) :
    AllCodes P (addFamily shares entry) := by
  unfold Contract.addFamily
  split
  · exact h
  · refine h.addShare (fun code hc => hu code ?_) _
    unfold freeOfFamily at hc
    split at hc
    · cases hc
    · exact (List.mem_filter.1 hc).1

/-- The codes of the shares are keys of one code, or usual codes. -/
theorem allCodes_expand {P : String → Prop} {classified : List (StatusKind × String × α)}
    (he : ∀ entry ∈ ofKind .exact classified, P entry.1) (hu : ∀ code ∈ usualCodes, P code) :
    AllCodes P (expand classified) := by
  have hown : AllCodes P ((ofKind .exact classified).map fun entry => ⟨[entry.1], entry.2⟩) := by
    intro code hm
    obtain ⟨s, hs, hc⟩ := List.mem_flatMap.1 hm
    obtain ⟨entry, hentry, rfl⟩ := List.mem_map.1 hs
    rw [List.mem_singleton.1 hc]
    exact he entry hentry
  have hranges := List.foldlRecOn (motive := AllCodes P) (ofKind .range classified) _ hown
    fun _ h entry _ => h.addFamily hu entry
  refine List.foldlRecOn (motive := AllCodes P) _ _ hranges fun shares h entry _ => ?_
  refine h.addShare (fun code hc => hu code ?_) _
  exact (List.mem_filter.1 hc).1

/-- All codes of the table of an operation are numbers. -/
theorem codeNumber?_of_responses {scope : Schema.Scope} {operation : Operation}
    {table : List (String × Expr)} (h : (responses scope operation).result = .ok table) :
    ∀ row ∈ table, codeNumber? row.1 = some (codeNumber row.1) := by
  obtain ⟨classified, hc, h⟩ := Traced.exists_of_result_bind h
  obtain ⟨rows, hrows, h⟩ := Traced.exists_of_result_bind h
  cases h
  have hexact : ∀ entry ∈ ofKind .exact classified,
      codeNumber? entry.1 = some (codeNumber entry.1) := by
    intro entry he
    obtain ⟨⟨kind, found⟩, hf, heq⟩ := List.mem_filterMap.1 he
    obtain ⟨response, _, hform⟩ := exists_of_mem_forall₂ (mapM_eq_ok_iff.1 hc) hf
    obtain ⟨hkey, hfound⟩ := classify_eq_ok_iff.1 hform
    dsimp only at heq hkey hfound
    split at heq
    · next hkind =>
      cases heq
      rw [hkind, ← hfound] at hkey
      exact codeNumber?_of_exact hkey
    · cases heq
  have hcodes : AllCodes (fun code => codeNumber? code = some (codeNumber code))
      (expand classified) := allCodes_expand hexact (by decide)
  intro row hm
  rw [sortByCode, List.mem_mergeSort] at hm
  refine hcodes row.1 ?_
  rw [← codes_rows (Traced.result_mapM_eq_ok_iff.1 hrows)]
  exact List.mem_map_of_mem hm

end Contract

/-! ## The records of a document -/

namespace Operation

/-- Whether a field of a path holds an operation with responses. -/
def holdsOperation : Scalar × Value → Bool
  | (.text key, .map fields _) => !isPassedOver key && !(Fields.get fields "responses").isVacant
  | _ => false

/-- An operation is the record of a field of a path. It has the method that the field names, in small
    letters, and the contract can rely on its keys: no key of a response is refused, and the codes in
    the table of its responses are numbers. -/
structure IsRecordOf (components : Value) (path : Scalar) (item : Fields) (field : Scalar × Value)
    (operation : Operation) : Prop where
  method : ∃ key, field.1 = .text key ∧ operation.method.name = key.map Char.toLower
  extracted : ∃ fields mark, field.2 = .map fields mark ∧
    extract components path item operation.method fields = .ok operation ∧
    Records components path item fields operation
  keys : ∀ response ∈ operation.responses, ∃ kind,
    statusOf operation.method.name (.text operation.path) response.1 = .ok kind
  assembled : ∀ scope e, (Contract.assemble scope operation).result = .error e →
    e.category? ≠ some .statusCode
  sorted : ∀ scope table, (Contract.responses scope operation).result = .ok table →
    ∀ row ∈ table, Contract.codeNumber? row.1 = some (Contract.codeNumber row.1)

/-- Some operations are the records of a path: of the fields that hold operations, in their order.
    Every field is shared, an extension or a method. -/
def AreRecordsOf (components : Value) (path : Scalar × Value) (operations : List Operation) :
    Prop :=
  ∃ (item : Fields) (mark : Option Nat),
    Components.resolveValue components path.2 = .ok (.map item mark) ∧
    (∀ field ∈ item, ∃ key, field.1 = .text key ∧
      (isPassedOver key = true ∨ ∃ method : Method, method.name = key.map Char.toLower)) ∧
    List.Forall₂ (IsRecordOf components path.1 item) (item.filter holdsOperation) operations

theorem name_of_ofKey? {key : String} {method : Method} (h : Method.ofKey? key = some method) :
    method.name = key.map Char.toLower := by
  simpa using List.find?_some h

theorem ofKey?_of_methodOf {key : String} {path : Scalar} {method : Method}
    (h : methodOf key path = .ok method) : Method.ofKey? key = some method := by
  unfold methodOf at h
  split at h
  · next hkey =>
    cases h
    exact hkey
  · obtain ⟨_, _, h⟩ := exists_of_bind_eq_ok h
    cases h

variable {components : Value}

theorem isRecordOf_of_extract {path : Scalar} {item fields : Fields} {key : String}
    {mark : Option Nat} {method : Method} {operation : Operation}
    (hm : Method.ofKey? key = some method)
    (h : extract components path item method fields = .ok operation) :
    IsRecordOf components path item (.text key, .map fields mark) operation := by
  obtain ⟨rfl, hrecords⟩ := records_of_extract h
  have hforms := (Contract.Keyed.of_extract h).form
  refine ⟨⟨key, rfl, name_of_ofKey? hm⟩, ⟨fields, mark, rfl, h, hrecords⟩, ?_, ?_, ?_⟩
  · intro response hr
    have hform := hforms response.1 (List.mem_map_of_mem hr)
    obtain ⟨kind, hkind⟩ := Option.ne_none_iff_exists'.1 hform
    refine ⟨kind, ?_⟩
    rw [statusOf, hkind]
    rfl
  · intro scope e he
    have hscope : ∀ declaration ∈ scope.declarations,
        Alphabet.full.Spells declaration.identifier.toList := fun _ _ _ _ => trivial
    exact (Contract.delivers_assemble hscope hforms).failure e he
  · intro scope table ht
    exact Contract.codeNumber?_of_responses ht

/-- What becomes of a field of a path: it is passed over, or it is that of a method and its operation
    is recorded where it holds one. -/
inductive Becomes (components : Value) (path : Scalar) (item : Fields) :
    Scalar × Value → Option Operation → Prop where
  | passed {key : String} {value : Value} (hk : isPassedOver key = true) :
    Becomes components path item (.text key, value) none
  | skipped {key : String} {value : Value} {method : Method} (hm : Method.ofKey? key = some method)
    (hh : holdsOperation (.text key, value) = false) :
    Becomes components path item (.text key, value) none
  | recorded {key : String} {fields : Fields} {mark : Option Nat} {method : Method}
    {operation : Operation} (hm : Method.ofKey? key = some method)
    (hh : holdsOperation (.text key, .map fields mark) = true)
    (he : extract components path item method fields = .ok operation) :
    Becomes components path item (.text key, .map fields mark) (some operation)

theorem eq_text_of_keyText {s : Scalar} {key : String} (h : keyText s = .ok key) :
    s = .text key := by
  cases s with
  | text s => rw [Except.ok.inj h]
  | _ => cases h

theorem becomes_of_ofField {path : Scalar} {item : Fields} {field : Scalar × Value}
    {found : Option Operation} (h : (ofField components path item field).result = .ok found) :
    Becomes components path item field found := by
  unfold ofField at h
  obtain ⟨key, hkey, h⟩ := Traced.exists_of_result_bind h
  have hname := eq_text_of_keyText hkey
  obtain ⟨name, value⟩ := field
  dsimp only at hname
  subst hname
  split at h
  · next hp =>
    cases h
    exact .passed hp
  · next hp =>
    obtain ⟨method, hm, h⟩ := Traced.exists_of_result_bind h
    have hmethod := ofKey?_of_methodOf hm
    cases value with
    | map fields mark =>
      dsimp only at h
      split at h
      · next hv =>
        cases h
        exact .skipped hmethod (by simp [holdsOperation, hv])
      · next hv =>
        obtain ⟨operation, he, h⟩ := Traced.exists_of_result_bind h
        cases h
        exact .recorded hmethod (by simp [holdsOperation, hv, hp]) he
    | _ =>
      cases h
      exact .skipped hmethod rfl

theorem Becomes.exists_key {path : Scalar} {item : Fields} {field : Scalar × Value}
    {found : Option Operation} (h : Becomes components path item field found) :
    ∃ key, field.1 = .text key ∧
      (isPassedOver key = true ∨ ∃ method : Method, method.name = key.map Char.toLower) := by
  cases h with
  | passed hk => exact ⟨_, rfl, .inl hk⟩
  | skipped hm _ | recorded hm _ _ => exact ⟨_, rfl, .inr ⟨_, name_of_ofKey? hm⟩⟩

theorem holdsOperation_of_passed {key : String} {value : Value} (h : isPassedOver key = true) :
    holdsOperation (.text key, value) = false := by
  cases value <;> simp [holdsOperation, h]

/-- The operations that the fields of a path become are the records of those that hold one. -/
theorem forall₂_isRecordOf {path : Scalar} {item fields : Fields} {found : List (Option Operation)}
    (h : List.Forall₂ (Becomes components path item) fields found) :
    List.Forall₂ (IsRecordOf components path item) (fields.filter holdsOperation)
      (found.filterMap id) := by
  induction h with
  | nil => exact .nil
  | cons hfirst _ ih =>
    cases hfirst with
    | passed hk =>
      rw [List.filter_cons_of_neg (by simp [holdsOperation_of_passed hk])]
      exact ih
    | skipped _ hh =>
      rw [List.filter_cons_of_neg (by simp [hh])]
      exact ih
    | recorded hm hh he =>
      rw [List.filter_cons_of_pos hh]
      exact .cons (isRecordOf_of_extract hm he) ih

theorem areRecordsOf_of_ofPath {path : Scalar × Value} {operations : List Operation}
    (h : (ofPath components path).result = .ok operations) (hv : path.2.isVacant = false) :
    AreRecordsOf components path operations := by
  obtain ⟨resolved, item, held, hr, hi, hheld, rfl⟩ := exists_of_ofPath h hv
  have hbecome : List.Forall₂ (Becomes components path.1 item) item held :=
    hheld.imp fun _ _ => becomes_of_ofField
  cases resolved with
  | map fields mark =>
    cases hi
    refine ⟨item, mark, hr, fun field hm => ?_, forall₂_isRecordOf hbecome⟩
    obtain ⟨made, _, hmade⟩ := exists_of_mem_forall₂ hbecome.flip hm
    exact hmade.exists_key
  | _ => cases hi

/-- The operations of all paths are those of the paths with contents. -/
theorem exists_groups {paths : Fields} {found : List (List Operation)}
    (h : List.Forall₂ (fun path operations => (ofPath components path).result = .ok operations)
      paths found) :
    ∃ groups, found.flatten = groups.flatten ∧ List.Forall₂ (AreRecordsOf components)
      (paths.filter fun path => !path.2.isVacant) groups := by
  induction h with
  | nil => exact ⟨[], rfl, .nil⟩
  | @cons path operations rest others hfirst _ ih =>
    obtain ⟨groups, heq, hgroups⟩ := ih
    by_cases hv : path.2.isVacant = true
    · have hnone : operations = [] := eq_nil_of_ofPath hfirst hv
      exact ⟨groups, by simp [hnone, heq], by simpa [hv] using hgroups⟩
    · rw [Bool.not_eq_true] at hv
      refine ⟨operations :: groups, by simp [heq], ?_⟩
      rw [List.filter_cons_of_pos (by simp [hv])]
      exact .cons (areRecordsOf_of_ofPath hfirst hv) hgroups

/-- The operations of a document are the records of its paths with contents, in the order of the
    paths and within each path in the order of its fields. -/
theorem records_of_ofDocument {document components : Value} {operations : List Operation}
    (h : (ofDocument document components).result = .ok operations) :
    ∃ paths groups, HasPaths document paths ∧ operations = groups.flatten ∧
      List.Forall₂ (AreRecordsOf components) (paths.filter fun path => !path.2.isVacant)
        groups := by
  obtain ⟨all, paths, found, ha, hp, hf, rfl⟩ := exists_of_ofDocument h
  obtain ⟨groups, heq, hgroups⟩ := exists_groups hf
  exact ⟨paths, groups, ⟨all, ha, hp⟩, heq, hgroups⟩

theorem records_of_ofDocument_twoMethods :
    (ofDocument Contract.twoMethods (.object [])).result =
      .ok [Contract.petsOf .get, Contract.petsOf .post] ∧
    ∃ paths groups, HasPaths Contract.twoMethods paths ∧
      [Contract.petsOf .get, Contract.petsOf .post] = groups.flatten ∧
      List.Forall₂ (AreRecordsOf (.object [])) (paths.filter fun path => !path.2.isVacant)
        groups := by
  have h := Context.operations_of_ofDocument Contract.ofDocument_twoMethods
  exact ⟨h, records_of_ofDocument h⟩

/-! ## Keys that are bytes -/

open Schema (textFields)

/-- A parameter whose only key is the bytes of the text that makes an object a reference. -/
def maskedReference : Fields := [(.bytes [36, 114, 101, 102], .text "#/components/parameters/P")]

def maskedOperation : Fields :=
  textFields [("parameters", .list [.ofFields maskedReference] none),
    ("responses", .object [("200", .object [])])]

def maskedItem : Fields := textFields [("get", .ofFields maskedOperation)]

def maskedDocument : Value := .object [("paths", .object [("/a", .ofFields maskedItem)])]

def unmasked : Fields := textFields [("$ref", .text "#/components/parameters/P")]

def unmaskedRecord : Operation where
  method := .get
  path := "/a"
  operationId := none
  summary := none
  description := none
  parameters := [unmasked]
  requestBody := none
  responses := [("200", [])]

theorem recordFields?_masked : maskedReference.recordFields? = some unmasked := by
  have hkey : (Scalar.bytes [36, 114, 101, 102]).recordText? = some "$ref" := by
    rw [Scalar.recordText?, Text.decode_of_ascii (by decide)]
    rfl
  have hkeys : ¬ maskedReference.hasTextKeys = true := by decide
  rw [Fields.recordFields?, if_neg hkeys, maskedReference]
  simp only [List.mapM_cons, List.mapM_nil, hkey, Option.map_some]
  rfl

theorem extract_masked :
    extract (.object []) (.text "/a") maskedItem .get maskedOperation = .ok unmaskedRecord := by
  have hparameters : parametersOf (.object []) maskedItem maskedOperation =
      .ok [.ofFields maskedReference] := rfl
  have hresponses : responsesOf (.object []) .get (.text "/a") maskedOperation =
      .ok [("200", .object [])] := rfl
  have hchecked : [Value.ofFields maskedReference].mapM checkFields = .ok [unmasked] := by
    have hfields : checkFields (.ofFields maskedReference) = .ok unmasked := by
      unfold checkFields Value.ofFields
      dsimp only
      rw [recordFields?_masked]
    exact mapM_eq_ok_iff.2 (.cons hfields .nil)
  have hbody : requestBodyOf (.object []) maskedOperation = .ok .null := rfl
  simp only [extract, hparameters, hbody, hresponses, ok_bind, ofDraft, hchecked]
  rfl

theorem ofDocument_masked :
    (ofDocument maskedDocument (.object [])).result = .ok [unmaskedRecord] := by
  have hfield : (ofField (.object []) (.text "/a") maskedItem
      (.text "get", .ofFields maskedOperation)).result = .ok (some unmaskedRecord) :=
    result_ofField (by decide +kernel) (by decide +kernel) rfl extract_masked
  have hitem : (maskedItem.mapM (ofField (.object []) (.text "/a") maskedItem)).result =
      .ok [some unmaskedRecord] := by
    rw [Traced.result_mapM_eq_ok_iff]
    exact .cons hfield .nil
  have hpaths : ((textFields [("/a", .ofFields maskedItem)]).mapM (ofPath (.object []))).result =
      .ok [[unmaskedRecord]] := by
    rw [Traced.result_mapM_eq_ok_iff]
    exact .cons (result_ofPath rfl rfl hitem) .nil
  exact result_ofDocument rfl rfl hpaths

/-- A parameter of a record can be a reference. -/
theorem exists_recorded_reference :
    ∃ document components operations operation parameter,
      Components.ofDocument document = .ok components ∧
      (ofDocument document components).result = .ok operations ∧ operation ∈ operations ∧
      parameter ∈ operation.parameters ∧ (Value.ofFields parameter).isReference = true :=
  ⟨maskedDocument, .object [], _, _, _, rfl, ofDocument_masked, List.mem_cons_self,
    List.mem_cons_self, rfl⟩

end Operation
end RestContract
