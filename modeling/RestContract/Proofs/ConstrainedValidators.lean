import RestContract.Proofs.UnlinkedValidators

/-!
# Validators that constraints are called on

The calls for the keywords of a schema follow from its keywords and its type alone, whatever it is
compiled by. So they belong to the validator of its type, but that is not always what they are called
on: `constraints_called_on` says when it is.
-/

namespace RestContract.Compile

open Schema Validation Expr

/-- What the compiler gives for the fields of a schema before the calls that follow. -/
def Bases (scope : Scope) (fields : Fields) (e : Expr) : Prop :=
  ∃ room, (base (fun steps => compileAt scope room (steps - 1)) fields (fields.get "type")).result =
    .ok e

/-- A validator is what the compiler gives for the fields of its schema with the calls for these
    fields behind it. -/
def HasBase (scope : Scope) (schema : Value) (p : Presence) (e : Expr) : Prop :=
  ∃ fields base calls, ReadAs scope schema fields ∧ Bases scope fields base ∧
    Validation.calls fields (fields.get "type") p = .ok calls ∧ e = chain base calls

/-- A validator is the name of a declaration that its schema refers to. -/
def IsName (scope : Scope) (schema : Value) (p : Presence) (e : Expr) : Prop :=
  ∃ ref declaration, Reference.target? schema = some ref ∧ scope.find? ref = some declaration ∧
    e = chain (.identifier declaration.identifier) (presence [] p)

section

variable {scope : Scope} {fields : Fields} {schema : Value} {p : Presence} {e : Expr}

theorem hasBase_of_concrete {room : Nat} (hs : Stands scope schema fields)
    (ih : ∀ {tag}, (compileAt scope room 0 (retyped fields tag) p).result = .ok e →
      HasBase scope (retyped fields tag) p e)
    (h : (concrete (fun steps => compileAt scope room (steps - 1)) fields p).result = .ok e) :
    HasBase scope schema p e := by
  unfold concrete at h
  split at h
  · next ht =>
    obtain ⟨inner, base, calls, hr, hb⟩ := ih h
    exact ⟨inner, base, calls, .sole hs ht hr, hb⟩
  · next ht =>
    obtain ⟨base, hb, h⟩ := Traced.exists_of_result_bind h
    obtain ⟨calls, hc, h⟩ := Traced.exists_of_result_bind h
    cases h
    exact ⟨fields, base, calls, .stands hs fun tag mark heq => ht tag mark heq, ⟨room, hb⟩, hc, rfl⟩

/-- A validator is a name, or it has a base. -/
theorem isName_or_hasBase (h : Compiles scope schema p e) :
    IsName scope schema p e ∨ HasBase scope schema p e := by
  obtain ⟨room, steps, h⟩ := h
  induction room generalizing steps schema with
  | zero => cases h
  | succ room ih =>
    cases steps with
    | succ steps => exact ih steps h
    | zero =>
      -- A schema that is taken with one of its types is no reference, so it is never a name.
      have hretyped : ∀ {fields tag}, fields.get? "$ref" = none →
          (compileAt scope room 0 (retyped fields tag) p).result = .ok e →
            HasBase scope (retyped fields tag) p e := by
        intro fields tag hr h
        refine (ih 0 h).resolve_left ?_
        rintro ⟨ref, _, ht, _⟩
        cases (target?_retyped hr tag).symm.trans ht
      change (compileWith _ scope schema p).result = .ok e at h
      unfold compileWith at h
      split at h
      · next ht =>
        obtain ⟨fields, hf, h⟩ := Traced.exists_of_result_bind h
        cases schema with
        | map all mark =>
          cases hf
          exact .inr (hasBase_of_concrete (.plain ht) (hretyped ht) h)
        | _ => cases hf
      · next ref ht =>
        obtain ⟨_, _, h⟩ := Traced.exists_of_result_bind h
        split at h
        · next declaration hf =>
          cases h
          exact .inl ⟨ref, declaration, ht, hf, rfl⟩
        · next hf =>
          obtain ⟨fields, hr, h⟩ := Traced.exists_of_result_bind h
          exact .inr (hasBase_of_concrete (.expanded ⟨ref, ht, hf, hr⟩)
            (hretyped (Components.get?_ref_of_resolve hr)) h)

theorem ReadAs.type_ne (h : ReadAs scope schema fields) (tag : Value) (mark : Option Nat) :
    fields.get "type" ≠ .list [tag] mark := by
  induction h with
  | stands _ ht => exact ht tag mark
  | sole _ _ _ ih => exact ih

/-- The base of a schema is left as a method makes it exactly if the schema is compiled by its type,
    for which the method is, or by a single member whose validator is left so. -/
theorem made_base_iff {maker : String} {base : Expr} (hm : maker ∈ typeMakers)
    (hr : ReadAs scope schema fields) (hb : Bases scope fields base) :
    (∃ args, base = z maker args) ↔ BaseUnlinked scope maker (fun _ => False) fields := by
  obtain ⟨room, hb⟩ := hb
  have hinner : ∀ (steps : Nat) schema p e,
      (compileAt scope room (steps - 1) schema p).result = .ok e →
        UnlinkedIff scope maker (fun _ => False) schema p e :=
    fun steps _ _ _ h => unlinked_iff_of_compiles hm ⟨room, steps - 1, h⟩
  rw [← unlinked_baseForm_iff hm hr.type_ne (baseForm_of_base hinner hb).2]
  simp [Unlinked]

/-! ## Constraints -/

/-- A call for the pattern or for the format of a text. -/
def OnText (call : Call) : Prop :=
  (∃ source, call = .call "regex" [.regex source]) ∨ ∃ name, formatCall? name = some call

theorem mem_typeMakers_of_constrained? {type : Value} {maker : String}
    (h : constrained? type = some maker) : maker ∈ typeMakers := by
  unfold constrained? at h
  split at h
  · cases h
    decide
  split at h
  · cases h
    decide
  split at h
  · cases h
    decide
  · cases h

/-- An enumeration has neither lengths nor bounds. -/
theorem onText_of_enum {type : Value} {calls : List Call} (he : fields.has "enum" = true)
    (ht : type.isText "array" = false) (h : constraints fields type = .ok calls) :
    ∀ call ∈ calls, OnText call := by
  have hnumber : ∀ {integer}, numberCalls fields integer = .ok calls → ∀ call ∈ calls, OnText call := by
    intro integer h
    rcases exists_of_numberCalls h with ⟨_, rfl⟩ | ⟨hn, _⟩
    · simp
    · cases he.symm.trans hn
  unfold constraints at h
  split at h
  · obtain ⟨lengths, pattern, format, rfl, hp, hf, ⟨_, rfl⟩ | ⟨hn, _⟩⟩ := exists_of_textCalls h
    · intro call hc
      rcases List.mem_append.1 hc with hc | hc
      · exact .inl (exists_of_mem_patternCalls hp hc)
      · exact .inr (exists_of_mem_formatCalls hf hc)
    · cases he.symm.trans hn
  split at h
  · exact hnumber h
  split at h
  · exact hnumber h
  split at h
  · next ha => cases ht.symm.trans ha
  · cases h
    simp

/-- The constraints of a schema belong to the validator of its type. They are called on what the
    schema is compiled to, which is that validator exactly if the schema is compiled by its type and
    is no binary text, or by the only member of a composition that is compiled to that validator. Of
    enumerations, it is only said that they have neither lengths nor bounds. -/
theorem constraints_called_on (h : Compiles scope schema p e) :
    IsName scope schema p e ∨
      ∃ fields base narrowing default, ReadAs scope schema fields ∧ Bases scope fields base ∧
        constraints fields (fields.get "type") = .ok narrowing ∧
        defaultCalls fields (fields.get "type") = .ok default ∧
        e = chain base (narrowing ++ presence fields p ++ default) ∧
        (narrowing ≠ [] → ∃ maker, constrained? (fields.get "type") = some maker ∧
          (∀ call ∈ narrowing, Constrains maker call) ∧
          (fields.has "enum" = true → (fields.get "type").isText "array" = false →
            ∀ call ∈ narrowing, OnText call) ∧
          (composition fields ≠ none ∨ fields.has "enum" = false →
            ((∃ args, base = z maker args) ↔
              BaseUnlinked scope maker (fun _ => False) fields))) := by
  rcases isName_or_hasBase h with h | ⟨fields, base, calls, hr, hb, hc, rfl⟩
  · exact .inl h
  obtain ⟨narrowing, default, rfl, hn, hd⟩ := exists_of_calls hc
  refine .inr ⟨fields, base, narrowing, default, hr, hb, hn, hd, rfl, fun hne => ?_⟩
  obtain ⟨first, hfirst⟩ := List.exists_mem_of_ne_nil narrowing hne
  obtain ⟨maker, hm, _⟩ := constrains_of_constraints hn hfirst
  refine ⟨maker, hm, fun call hc => ?_, fun he ht => onText_of_enum he ht hn, fun _ => ?_⟩
  · obtain ⟨other, ho, h⟩ := constrains_of_constraints hn hc
    cases hm.symm.trans ho
    exact h
  · exact made_base_iff (mem_typeMakers_of_constrained? hm) hr hb

end

/-- A text of at least five characters. -/
def lengthyText : Fields := [(.text "type", .text "string"), (.text "minLength", .int 5)]

theorem constraints_called_on_lengthyText :
    let scope : Scope := .bare
    let e := chain (z "string" []) [.call "min" [.literal (.int 5)]]
    Compiles scope (.ofFields lengthyText) .unstated e ∧
      ∃ fields base narrowing default, ReadAs scope (.ofFields lengthyText) fields ∧
        Bases scope fields base ∧ constraints fields (fields.get "type") = .ok narrowing ∧
        defaultCalls fields (fields.get "type") = .ok default ∧
        e = chain base (narrowing ++ presence fields .unstated ++ default) := by
  intro scope e
  have h : Compiles scope (.ofFields lengthyText) .unstated e := ⟨scope.room, 0, rfl⟩
  rcases constraints_called_on h with ⟨ref, _, ht, _⟩ | ⟨fields, base, narrowing, default, hr⟩
  · cases ht
  · exact ⟨h, fields, base, narrowing, default, hr.1, hr.2.1, hr.2.2.1, hr.2.2.2.1, hr.2.2.2.2.1⟩

/-- A length for texts beside a composition of other types. -/
def lengthyChoice : Fields :=
  [(.text "type", .text "string"), (.text "minLength", .int 5),
    (.text "oneOf", .ofItems [.object [("type", .text "number")], .object [("type", .text "boolean")]])]

/-- A length for a text that is the content of a file. -/
def lengthyFile : Fields :=
  [(.text "type", .text "string"), (.text "format", .text "binary"), (.text "minLength", .int 5)]

/-- A schema has constraints, and its validator is this base with them behind it. -/
def ConstrainedOn (scope : Scope) (fields : Fields) (base : Expr) : Prop :=
  Bases scope fields base ∧ ∃ narrowing, narrowing ≠ [] ∧
    constraints fields (fields.get "type") = .ok narrowing ∧
    (compile scope (.ofFields fields) .unstated).result = .ok (chain base narrowing)

/-- A length is called on a union, and on what accepts files. -/
theorem exists_length_on_others :
    ∃ document context, (Context.ofDocument document).result = .ok context ∧
      (∃ members, ConstrainedOn context.scope lengthyChoice (z "union" [.array members])) ∧
      ConstrainedOn context.scope lengthyFile (z "instanceof" [.identifier "File"]) := by
  refine ⟨documentOf [], _, Context.result_ofDocument_empty,
    ⟨[z "number" [], z "boolean" []], ⟨5, rfl⟩, ?_⟩,
    ⟨5, rfl⟩, ?_⟩
  · exact ⟨[.call "min" [.literal (.int 5)]], by simp, rfl, rfl⟩
  · exact ⟨[.call "min" [.literal (.int 5)]], by simp, rfl, rfl⟩

end RestContract.Compile
