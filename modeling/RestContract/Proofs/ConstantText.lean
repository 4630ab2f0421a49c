import RestContract.Compile.Enumeration
import RestContract.Document.Content
import RestContract.Proofs.CompiledForm
import RestContract.Proofs.ReadBack
import RestContract.Validation.Default

/-!
# The texts of constants

When a constant has a text, and what is read back from it. Only one thing leaves a value of JSON
without a text: whole numbers with too many digits. The text is read as the value wherever there is
room for the lists and maps in it. Defaults and enumerated values are printed as constants, so they
are read back as well.
-/

namespace RestContract

namespace Expr

variable {P : Int → Prop} {v : Value}

/-! ## When a constant has a text -/

/-- The text of the constant for a value. -/
def constantText (v : Value) : Except Error String := do
  (← constant v).render

/-- Only what holds itself and keys that cannot be shown leave a value without a constant. -/
theorem check_of_isExact (h : IsExact P v) (opened : List Nat) : check opened v = .ok () := by
  induction h with
  | null | bool | int | text => rfl
  | list _ ih => exact checkItems_eq_ok ih
  | map hk _ _ ih => exact checkFields_eq_ok hk ih

theorem constant_of_isExact (h : IsExact P v) : constant v = .ok (ofValue v) := by
  rw [constant, check_of_isExact h]

theorem isJson_of_isExact (h : IsExact IsShort v) : IsJson v := by
  induction h with
  | null => exact .null
  | bool b => exact .bool b
  | @int n hn => exact .scalar ((isShowable_int_iff n).2 hn)
  | text s => exact .text s
  | list _ ih => exact .list ih
  | map hk _ _ ih => exact .map hk ih

/-- The constant for a value can be printed just where its whole numbers are short. -/
theorem isWritable_ofValue_iff (h : IsExact P v) : (ofValue v).IsWritable ↔ IsExact IsShort v := by
  refine ⟨fun hw => ?_, fun hs => isWritable_ofValue (isJson_of_isExact hs)⟩
  induction h with
  | null => exact .null
  | bool b => exact .bool b
  | @int n =>
    refine .int ((isShowable_int_iff n).1 ?_)
    by_contra hn
    rw [ofValue, IsWritable, checkText, checkLiteral, if_neg hn] at hw
    cases hw
  | text s => exact .text s
  | list _ ih =>
    rw [ofValue, isWritable_array_iff] at hw
    exact .list fun item hm => ih item hm (hw _ (mem_ofItems_iff.2 ⟨item, hm, rfl⟩))
  | map hk hn _ ih =>
    rw [ofValue, isWritable_object_iff] at hw
    exact .map hk hn fun field hm =>
      ih field hm (isWritable_property_iff.1 (hw _ (mem_ofFields_iff.2 ⟨field, hm, rfl⟩)))

theorem render_eq_ok_iff {e : Expr} {text : String} :
    e.render = .ok text ↔ e.IsWritable ∧ text = e.print := by
  constructor
  · intro h
    refine ⟨?_, Emission.eq_print_of_render h⟩
    unfold render at h
    split at h
    · assumption
    · cases h
  · rintro ⟨hw, rfl⟩
    exact render_of_isWritable hw

theorem constantText_eq_ok_iff (h : IsExact P v) {text : String} :
    constantText v = .ok text ↔ IsExact IsShort v ∧ text = print (ofValue v) := by
  rw [← isWritable_ofValue_iff h, constantText, constant_of_isExact h, ok_bind, render_eq_ok_iff]

/-- A text that is read as a value wherever there is room for the lists and maps in the value. -/
def ReadsAs (s : String) (v : Value) : Prop :=
  ∀ room, v.depth ≤ room → Json.readIn room s = .ok v

/-- What the constant for a value is printed as is read as this value. -/
theorem readsAs_of_isWritable (h : IsExact P v) (hw : (ofValue v).IsWritable) :
    ReadsAs (print (ofValue v)) v :=
  fun _ => Json.readIn_print_ofValue ((isWritable_ofValue_iff h).1 hw)

/-! ## Defaults -/

theorem render_chain {base : Expr} {calls : List Call} {text : String}
    (h : (chain base calls).render = .ok text) :
    (∀ call ∈ calls, call.IsWritable) ∧ text = base.print ++ String.join (printCalls calls) := by
  obtain ⟨hw, rfl⟩ := render_eq_ok_iff.1 h
  rw [IsWritable, checkText_chain] at hw
  obtain ⟨_, -, hcalls⟩ := exists_of_bind_eq_ok hw
  refine ⟨checkCalls_eq_ok_iff.1 hcalls, String.toList_injective ?_⟩
  rw [← chars, chars_chain, String.toList_append, String.toList_join, flatMap_toList_printCalls,
    chars]

end Expr

namespace Validation

open Compile Expr

variable {P : Int → Prop} {v : Value} {fields : Fields} {type : Value}

/-- A default that is a value of the type of its schema. -/
def IsOfType (type : Value) : Value → Prop
  | .scalar (.text _) => type.isText "string"
  | .scalar (.int _) => type.isText "number" ∨ type.isText "integer"
  | .scalar (.bool _) => type.isText "boolean"
  | .list .. => type.isText "array"
  | _ => False

theorem coerceDefault_of_isOfType (h : IsOfType type v) : coerceDefault type v = .ok (some v) := by
  unfold IsOfType at h
  split at h
  · rw [eq_text_of_isText h]
    rfl
  · rcases h with h | h <;> rw [eq_text_of_isText h] <;> rfl
  · next b =>
    rw [eq_text_of_isText h]
    cases b <;> rfl
  · rw [eq_text_of_isText h]
    rfl
  · exact absurd h id

/-- A default is printed as a text from which it is read back. -/
theorem default_text {calls : List Call} {base : Expr} {text : String}
    (hv : defaultValue fields type = .ok (some v)) (h : IsExact P v)
    (hc : defaultCalls fields type = .ok calls) (ht : (chain base calls).render = .ok text) :
    ∃ s, ReadsAs s v ∧ text = base.print ++ ".default(" ++ s ++ ")" := by
  have hhas : fields.has "default" = true := by
    unfold defaultValue at hv
    split at hv
    · next hg => rw [Fields.has, hg, Option.isSome_some]
    · cases hv
  rw [defaultCalls, hhas, hv] at hc
  obtain ⟨_, hsome, hc⟩ := exists_of_bind_eq_ok hc
  cases hsome
  obtain ⟨call, hcall, hpure⟩ := exists_of_bind_eq_ok hc
  cases hpure
  obtain ⟨e, he, hpure⟩ := exists_of_bind_eq_ok hcall
  cases hpure
  rw [constant_of_isExact h] at he
  cases he
  obtain ⟨hcalls, rfl⟩ := render_chain ht
  have hw := hcalls _ (List.mem_singleton_self _) (ofValue v) (List.mem_singleton_self _)
  refine ⟨_, readsAs_of_isWritable h hw, ?_⟩
  simp [printCalls, printCall, printAll, String.join, String.append_assoc]

end Validation
namespace Compile

open Expr

variable {P : Int → Prop} {v : Value} {values : List Value} {type : Value} {e : Expr}

/-! ## Enumerated values -/

/-- A value as it stands in an enumeration of a type, where `s` is the text of the value. -/
def enumeratedText (type : Value) (s : String) : String :=
  if type.isText "string" then s else "z.literal(" ++ s ++ ")"

/-- The text of the validator for values with these texts. -/
def enumerationText (type : Value) : List String → String
  | [s] => "z.literal(" ++ s ++ ")"
  | texts => "z.enum([" ++ ", ".intercalate (texts.map (enumeratedText type)) ++ "])"

theorem readsAs_of_constant (h : IsExact P v) (he : Expr.constant v = .ok e) (hw : e.IsWritable) :
    ReadsAs e.print v := by
  rw [constant_of_isExact h] at he
  cases he
  exact readsAs_of_isWritable h hw

theorem literal_text (h : IsExact P v) (he : constant v = .ok e) (hw : e.IsWritable) :
    ∃ s, ReadsAs s v ∧ e.print = "z.literal(" ++ s ++ ")" := by
  obtain ⟨inner, hinner, hpure⟩ := exists_of_bind_eq_ok he
  cases hpure
  rw [isWritable_z_iff] at hw
  exact ⟨inner.print, readsAs_of_constant h hinner (hw inner (List.mem_singleton_self _)), rfl⟩

theorem enumerated_texts {es : List Expr} (h : ∀ v ∈ values, IsExact P v)
    (hes : List.Forall₂ (fun v e =>
      (if type.isText "string" then Expr.constant else constant) v = .ok e) values es)
    (hw : ∀ e ∈ es, e.IsWritable) :
    ∃ texts, List.Forall₂ (fun v s => ReadsAs s v) values texts ∧
      printAll es = texts.map (enumeratedText type) := by
  induction hes with
  | nil => exact ⟨[], .nil, rfl⟩
  | @cons v e values es he _ ih =>
    obtain ⟨hv, hvalues⟩ := List.forall_mem_cons.1 h
    obtain ⟨hwe, hwes⟩ := List.forall_mem_cons.1 hw
    obtain ⟨texts, htexts, hprint⟩ := ih hvalues hwes
    obtain ⟨s, hs, hprinted⟩ : ∃ s, ReadsAs s v ∧ e.print = enumeratedText type s := by
      unfold enumeratedText
      split_ifs at he ⊢
      · exact ⟨e.print, readsAs_of_constant hv he hwe, rfl⟩
      · exact literal_text hv he hwe
    exact ⟨s :: texts, .cons hs htexts, by rw [printAll, hprinted, hprint, List.map_cons]⟩

/-- Enumerated values are printed as texts from which they are read back, unless texts stand among
    values of another type. -/
theorem enumeration_text {text : String} (h : ∀ v ∈ values, IsExact P v)
    (hm : (!type.isText "string" && values.any isSomeText) = false)
    (he : (enumeration type values).result = .ok e) (ht : e.render = .ok text) :
    ∃ texts, List.Forall₂ (fun v s => ReadsAs s v) values texts ∧
      text = enumerationText type texts := by
  obtain ⟨hw, rfl⟩ := render_eq_ok_iff.1 ht
  unfold enumeration at he
  rw [if_neg (by rw [hm]; decide)] at he
  split at he
  · next v =>
    obtain ⟨s, hs, hprint⟩ := literal_text (h v (List.mem_singleton_self _)) he hw
    exact ⟨[s], .cons hs .nil, hprint⟩
  · next hne =>
    obtain ⟨es, hes, hpure⟩ := Traced.exists_of_result_bind he
    cases hpure
    rw [isWritable_z_iff, List.forall_mem_singleton, isWritable_array_iff] at hw
    obtain ⟨texts, htexts, hprint⟩ := enumerated_texts h (mapM_eq_ok_iff.1 hes) hw
    refine ⟨texts, htexts, ?_⟩
    rw [enumerationText]
    · refine String.toList_injective ?_
      simp [z, print, printAll, printCalls, printCall, hprint]
    · rintro s rfl
      cases htexts with
      | cons _ hrest =>
        cases hrest
        exact hne _ rfl

end Compile
/-! ## What survives -/

open Expr Validation in
/-- A map without floating-point numbers is printed just where its whole numbers are short, and what
    it is printed as is read as this map, with the same fields in the same order. The same goes for
    defaults, which are taken over as they are where they are of the type of their schema, and for
    enumerated values. -/
theorem constants_read_back :
    (∀ fields : Fields, IsExact (fun _ => True) (.ofFields fields) →
      ((∃ text, constantText (.ofFields fields) = .ok text) ↔ IsExact IsShort (.ofFields fields)) ∧
      ∀ text, constantText (.ofFields fields) = .ok text →
        ∀ room, (Value.ofFields fields).depth ≤ room →
          Document.parseIn room text (some .json) = .ok (.ofFields fields)) ∧
    (∀ (fields : Fields) (type v : Value), fields.get? "default" = some v → IsOfType type v →
      defaultValue fields type = .ok (some v)) ∧
    (∀ (fields : Fields) (type v : Value) (calls : List Call) (base : Expr) (text : String),
      defaultValue fields type = .ok (some v) → IsExact (fun _ => True) v →
      defaultCalls fields type = .ok calls → (chain base calls).render = .ok text →
      ∃ s, ReadsAs s v ∧ text = base.print ++ ".default(" ++ s ++ ")") ∧
    ∀ (type : Value) (values : List Value) (e : Expr) (text : String),
      (∀ v ∈ values, IsExact (fun _ => True) v) →
      (!type.isText "string" && values.any Compile.isSomeText) = false →
      (Compile.enumeration type values).result = .ok e → e.render = .ok text →
      ∃ texts, List.Forall₂ (fun v s => ReadsAs s v) values texts ∧
        text = Compile.enumerationText type texts := by
  refine ⟨fun fields h => ⟨?_, fun text ht room hd => ?_⟩, fun fields type v hg hv => ?_,
    fun fields type v calls base text hv h hc ht => default_text hv h hc ht,
    fun type values e text h hm he ht => Compile.enumeration_text h hm he ht⟩
  · constructor
    · rintro ⟨text, ht⟩
      exact ((constantText_eq_ok_iff h).1 ht).1
    · intro hs
      exact ⟨_, (constantText_eq_ok_iff h).2 ⟨hs, rfl⟩⟩
  · obtain ⟨hs, rfl⟩ := (constantText_eq_ok_iff h).1 ht
    rw [Document.parseIn, if_neg (by decide), Json.readIn_print_ofValue hs hd]
    rfl
  · rw [defaultValue, hg]
    exact coerceDefault_of_isOfType hv

open Expr Validation in
/-- A map with null in it, a default of a text and enumerated numbers are printed and read back. -/
theorem constants_read_back_of_small :
    Document.parse "\x7b \"b\": [1, -2], \"a\": null \x7d" (some .json) =
        .ok (.object [("b", .ofItems [.int 1, .int (-2)]), ("a", .null)]) ∧
      defaultValue [(.text "default", .text "\"")] (.text "string") = .ok (some (.text "\"")) ∧
      (∃ s, ReadsAs s (.text "\"") ∧
        "z.string().default(\"\\\"\")" = "z.string()" ++ ".default(" ++ s ++ ")") ∧
      ∃ texts, List.Forall₂ (fun v s => ReadsAs s v) [.int 1, .null] texts ∧
        "z.enum([z.literal(1), z.literal(null)])" =
          Compile.enumerationText (.text "number") texts := by
  have hnull : IsExact (fun _ => True) .null := .null
  have hone : IsExact (fun _ => True) (.int 1) := .int trivial
  have hlist : IsExact (fun _ => True) (.ofItems [.int 1, .int (-2)]) :=
    .list (by simpa using ⟨hone, .int trivial⟩)
  have hmap : IsExact (fun _ => True)
      (.object [("b", .ofItems [.int 1, .int (-2)]), ("a", .null)]) :=
    .map rfl (by decide) (by simpa using ⟨hlist, hnull⟩)
  exact ⟨(constants_read_back.1 _ hmap).2 _ rfl usualRoom (by decide),
    constants_read_back.2.1 _ _ _ rfl rfl,
    constants_read_back.2.2.1 [(.text "default", .text "\"")] (.text "string") (.text "\"") _
      (z "string" []) _ rfl (.text _) rfl rfl,
    constants_read_back.2.2.2 (.text "number") [.int 1, .null] _ _ (by simpa using ⟨hone, hnull⟩)
      (by decide) rfl rfl⟩

/-- A map with one whole number that has a digit too many. -/
def longNumber : Fields := [(.text "n", .int (10 ^ Text.maxDigits))]

theorem not_isShort_pow : ¬ IsShort (10 ^ Text.maxDigits) := by
  unfold IsShort
  -- the power is never computed
  generalize Text.maxDigits = m
  simp [Int.natAbs_pow]

/-- Not every map without floating-point numbers has a text. -/
theorem exists_unprinted :
    IsExact (fun _ => True) (.ofFields longNumber) ∧
      ∀ text, Expr.constantText (.ofFields longNumber) ≠ .ok text := by
  have hlong : IsExact (fun _ => True) (.ofFields longNumber) :=
    .map rfl (by simp [longNumber]) (by simpa [longNumber] using .int trivial)
  refine ⟨hlong, fun text ht => ?_⟩
  obtain ⟨hs, -⟩ := (Expr.constantText_eq_ok_iff hlong).1 ht
  cases hs with
  | map _ _ hs =>
    have hn := hs _ (List.mem_singleton_self _)
    cases hn with
    | int hn => exact not_isShort_pow hn

end RestContract
