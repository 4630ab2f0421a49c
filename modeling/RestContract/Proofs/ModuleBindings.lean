import RestContract.Proofs.DeclaredBeforeUse

/-!
# Names that a module binds

The names that the lines of a module bind at its top level: those it imports, the contract library,
a name for each declared schema, the object that exports them, and the contract. A declared schema
always has a name that is written like an identifier. But this name is made of the name of the
component alone. Different components can get one name, and a component that is named like a binding
of the module or like a reserved word keeps that name: `bindings_nodup_iff` says when all names of a
module are distinct, and which of them are reserved.
-/

namespace RestContract

namespace Name

/-- A text is written like an identifier. -/
def IsIdentifier (name : String) : Prop :=
  ∃ first rest, name.toList = first :: rest ∧ isIdentifierStart first = true ∧
    ∀ c ∈ rest, isIdentifierChar c = true

/-- The reserved words of the language in a module. -/
def reserved : List String :=
  ["await", "break", "case", "catch", "class", "const", "continue", "debugger", "default", "delete",
    "do", "else", "enum", "export", "extends", "false", "finally", "for", "function", "if",
    "implements", "import", "in", "instanceof", "interface", "let", "new", "null", "package",
    "private", "protected", "public", "return", "static", "super", "switch", "this", "throw",
    "true", "try", "typeof", "var", "void", "while", "with", "yield"]

/-- The character that stands in an identifier for a character of a name. -/
def replaceChar (c : Char) : Char := if isIdentifierChar c then c else '_'

theorem isIdentifierChar_of_start {c : Char} (h : isIdentifierStart c = true) :
    isIdentifierChar c = true := by
  simp only [isIdentifierStart, isIdentifierChar, Bool.or_eq_true] at h ⊢
  tauto

theorem isIdentifierChar_replaceChar (c : Char) : isIdentifierChar (replaceChar c) = true := by
  unfold replaceChar
  split
  · assumption
  · rfl

theorem identifierChars_eq (text : List Char) :
    identifierChars text =
      if (text.map replaceChar).head?.any isIdentifierStart then text.map replaceChar
      else '_' :: text.map replaceChar := rfl

theorem isIdentifierChar_of_mem_map {text : List Char} {c : Char} (h : c ∈ text.map replaceChar) :
    isIdentifierChar c = true := by
  obtain ⟨d, _, rfl⟩ := List.mem_map.1 h
  exact isIdentifierChar_replaceChar d

theorem isIdentifier_identifier (name : String) : IsIdentifier (identifier name) := by
  rw [IsIdentifier, identifier, String.toList_ofList, identifierChars_eq]
  split
  · next h =>
    cases hr : name.toList.map replaceChar with
    | nil => simp [hr] at h
    | cons first rest =>
      rw [hr] at h
      refine ⟨first, rest, rfl, by simpa using h, fun c hc => ?_⟩
      exact isIdentifierChar_of_mem_map (hr ▸ List.mem_cons_of_mem _ hc)
  · exact ⟨'_', _, rfl, rfl, fun c => isIdentifierChar_of_mem_map⟩

theorem isIdentifierChar_of_mem_identifier {name : String} {c : Char}
    (h : c ∈ (identifier name).toList) : isIdentifierChar c = true := by
  obtain ⟨first, rest, heq, hf, hr⟩ := isIdentifier_identifier name
  rw [heq] at h
  rcases List.mem_cons.1 h with rfl | h
  · exact isIdentifierChar_of_start hf
  · exact hr c h

/-- Where nothing was replaced by an underscore, nothing was replaced. -/
theorem eq_of_map_replaceChar {text word : List Char} (hw : '_' ∉ word)
    (h : text.map replaceChar = word) : text = word := by
  subst h
  conv_lhs => rw [← List.map_id text]
  refine List.map_congr_left fun c hc => ?_
  have hne : replaceChar c ≠ '_' := fun heq => hw (heq ▸ List.mem_map_of_mem hc)
  unfold replaceChar at hne ⊢
  split
  · rfl
  · next hn => simp [hn] at hne

/-- A word without underscores is the identifier of no other name. -/
theorem identifier_eq_iff {word : String} (hw : '_' ∉ word.toList) (hi : IsIdentifier word)
    (name : String) : identifier name = word ↔ name = word := by
  constructor
  · intro h
    have hchars : identifierChars name.toList = word.toList := by
      rw [← h, identifier, String.toList_ofList]
    rw [identifierChars_eq] at hchars
    split at hchars
    · exact String.toList_injective (eq_of_map_replaceChar hw hchars)
    · exact absurd (hchars ▸ List.mem_cons_self) hw
  · rintro rfl
    obtain ⟨first, rest, heq, hf, hr⟩ := hi
    have hmap : name.toList.map replaceChar = name.toList := by
      conv_rhs => rw [← List.map_id name.toList]
      refine List.map_congr_left fun c hc => ?_
      have hchar : isIdentifierChar c = true := by
        rw [heq] at hc
        rcases List.mem_cons.1 hc with rfl | hc
        · exact isIdentifierChar_of_start hf
        · exact hr c hc
      simp [replaceChar, hchar]
    have hstart : name.toList.head?.any isIdentifierStart = true := by simp [heq, hf]
    rw [identifier, identifierChars_eq, hmap, if_pos hstart, String.ofList_toList]

theorem identifier_mem_iff {words : List String}
    (h : ∀ word ∈ words, '_' ∉ word.toList ∧ IsIdentifier word) (name : String) :
    identifier name ∈ words ↔ name ∈ words := by
  constructor
  · intro hm
    obtain ⟨hw, hi⟩ := h _ hm
    exact ((identifier_eq_iff hw hi name).1 rfl) ▸ hm
  · intro hm
    obtain ⟨hw, hi⟩ := h _ hm
    rwa [(identifier_eq_iff hw hi name).2 rfl]

instance (name : String) : Decidable (IsIdentifier name) :=
  match h : name.toList with
  | [] => isFalse fun ⟨_, _, heq, _⟩ => by cases h.symm.trans heq
  | first :: rest =>
    decidable_of_iff (isIdentifierStart first = true ∧ rest.all isIdentifierChar = true)
      (by simp [IsIdentifier, h])

/-- Only a name that is a reserved word itself becomes one. -/
theorem identifier_mem_reserved_iff (name : String) :
    identifier name ∈ reserved ↔ name ∈ reserved :=
  identifier_mem_iff (by decide) name

end Name

namespace Emission

open Schema

/-! ## The names that lines bind -/

/-- What stands before the name in a line that binds one. -/
def binders : List String := ["import \x7b ", "const ", "export const "]

/-- The name that a line of a module binds, if it binds one. -/
def boundName (line : String) : Option String :=
  (binders.findSome? fun binder => Reference.rest? binder.toList line.toList).map fun rest =>
    String.ofList (rest.takeWhile Name.isIdentifierChar)

/-- The names that a module binds besides those of the declared schemas. -/
def ownBindings (context : Context) : List String :=
  ["initContract", "z", "c"] ++ (if context.declarations.isEmpty then [] else ["schemas"]) ++
    ["contract"]

/-- The names that a module binds, in the order of its lines. -/
def bindings (context : Context) : List String :=
  ["initContract", "z", "c"] ++ context.declarations.map (·.identifier) ++
    (if context.declarations.isEmpty then [] else ["schemas"]) ++ ["contract"]

/-- A line binds the name that stands between its binder and a space. -/
theorem boundName_eq {line name : String} (rest : List Char)
    (h : ∀ c ∈ name.toList, Name.isIdentifierChar c = true)
    (hr : (binders.findSome? fun binder => Reference.rest? binder.toList line.toList) =
      some (name.toList ++ ' ' :: rest)) : boundName line = some name := by
  have hname : (name.toList ++ ' ' :: rest).takeWhile Name.isIdentifierChar = name.toList := by
    rw [List.takeWhile_append_of_pos h]
    simp [Name.isIdentifierChar]
  rw [boundName, hr, Option.map_some, hname, String.ofList_toList]

theorem boundName_constLine {declaration : Declaration} (e : Expr)
    (h : ∀ c ∈ declaration.identifier.toList, Name.isIdentifierChar c = true) :
    boundName (constLine declaration e) = some declaration.identifier := by
  have hline : (constLine declaration e).toList = "const ".toList ++
      (declaration.identifier.toList ++ ' ' :: ("= ".toList ++ e.print.toList ++ ";".toList)) := by
    simp only [constLine, String.toList_append, List.append_assoc]
    rfl
  refine boundName_eq ("= ".toList ++ e.print.toList ++ ";".toList) h ?_
  rw [hline]
  rfl

/-- A line that exports a constant binds its name. -/
theorem boundName_exported {start name : String} (text : String)
    (hs : start.toList = "export const ".toList ++ (name.toList ++ " = ".toList))
    (h : ∀ c ∈ name.toList, Name.isIdentifierChar c = true) :
    boundName (start ++ text ++ ";") = some name := by
  refine boundName_eq ("= ".toList ++ text.toList ++ ";".toList) h ?_
  simp only [String.toList_append, hs, List.append_assoc]
  rfl

theorem boundNames_zipWith {declarations : List Declaration} {validators : List Expr}
    (hl : declarations.length = validators.length)
    (h : ∀ declaration ∈ declarations, ∀ c ∈ declaration.identifier.toList,
      Name.isIdentifierChar c = true) :
    (List.zipWith constLine declarations validators).filterMap boundName =
      declarations.map (·.identifier) := by
  induction declarations generalizing validators with
  | nil => rfl
  | cons first rest ih =>
    cases validators with
    | nil => cases hl
    | cons e others =>
      rw [List.zipWith_cons_cons, List.filterMap_cons,
        boundName_constLine e (h first List.mem_cons_self), List.map_cons,
        ih (by simpa using hl) fun other ho => h other (List.mem_cons_of_mem _ ho)]

/-- The lines of a module bind its names. -/
theorem Writes.exists_lines {context : Context} {text : String} {validators : List Expr}
    {entries : List Contract.Entry} (h : Writes context text validators entries)
    (hd : ∀ declaration ∈ context.declarations, ∀ c ∈ declaration.identifier.toList,
      Name.isIdentifierChar c = true) :
    ∃ lines : List String, text = String.join (lines.map (· ++ "\n")) ∧
      lines.filterMap boundName = bindings context := by
  refine ⟨_, h.text_eq, ?_⟩
  have hopening : opening.filterMap boundName = ["initContract", "z", "c"] := rfl
  have hblank : boundName "" = none := rfl
  have hschemas := fun text => @boundName_exported "export const schemas = " "schemas" text rfl
    (List.all_eq_true.1 (by decide))
  have hcontract := fun text => @boundName_exported "export const contract = " "contract" text rfl
    (List.all_eq_true.1 (by decide))
  have hconsts : (constLines context.declarations validators).filterMap boundName =
      context.declarations.map (·.identifier) ++
        (if context.declarations.isEmpty then [] else ["schemas"]) := by
    unfold constLines
    split
    · next hempty =>
      rw [List.isEmpty_iff.1 hempty]
      rfl
    · rw [List.filterMap_append, boundNames_zipWith h.compiled.length_eq hd]
      simp [hblank, hschemas]
  rw [List.filterMap_append, List.filterMap_append, hopening, hconsts, bindings]
  simp [hcontract]

theorem bindings_perm (context : Context) :
    (bindings context).Perm (ownBindings context ++ context.declarations.map (·.identifier)) := by
  simp only [bindings, ownBindings, List.append_assoc]
  refine List.Perm.append_left _ ?_
  rw [← List.append_assoc _ _ (context.declarations.map (·.identifier))]
  exact List.perm_append_comm

theorem nodup_ownBindings (context : Context) : (ownBindings context).Nodup := by
  unfold ownBindings
  split <;> decide

theorem identifier_mem_ownBindings_iff (context : Context) (name : String) :
    Name.identifier name ∈ ownBindings context ↔ name ∈ ownBindings context := by
  refine Name.identifier_mem_iff ?_ name
  unfold ownBindings
  split <;> decide

/-- The names that a module binds are distinct exactly if no two of its declared components get one
    name and none of them is named like another binding of the module. Each declared schema has a
    name that is written like an identifier, but a component that is named like a reserved word
    keeps this name. -/
theorem bindings_nodup_iff {document : Value} {context : Context} {text : String}
    (hb : (Context.ofDocument document).result = .ok context)
    (ht : (moduleText context).result = .ok text) :
    (∃ lines : List String, text = String.join (lines.map (· ++ "\n")) ∧
      lines.filterMap boundName = bindings context) ∧
    (∀ declaration ∈ context.declarations, Name.IsIdentifier declaration.identifier ∧
      (declaration.identifier ∈ Name.reserved ↔ declaration.name ∈ Name.reserved)) ∧
    ((bindings context).Nodup ↔
      (context.declarations.map fun declaration => Name.identifier declaration.name).Nodup ∧
        ∀ declaration ∈ context.declarations, declaration.name ∉ ownBindings context) := by
  have hidentifier : ∀ declaration ∈ context.declarations,
      declaration.identifier = Name.identifier declaration.name := by
    obtain ⟨_, _, _, _, _, ha⟩ := exists_arranged_of_ofDocument hb
    intro declaration hd
    obtain ⟨_, _, _, hn, hi, _⟩ := Declaration.exists_of_ofRef (ha.made declaration hd)
    rw [hi, hn]
  refine ⟨?_, fun declaration hd => ?_, ?_⟩
  · obtain ⟨validators, entries, hw⟩ := writes_of_moduleText ht
    refine hw.exists_lines fun declaration hd c hc => ?_
    rw [hidentifier declaration hd] at hc
    exact Name.isIdentifierChar_of_mem_identifier hc
  · rw [hidentifier declaration hd]
    exact ⟨Name.isIdentifier_identifier _, Name.identifier_mem_reserved_iff _⟩
  · rw [(bindings_perm context).nodup_iff, List.map_congr_left hidentifier, List.nodup_append]
    constructor
    · rintro ⟨_, hids, hdisjoint⟩
      refine ⟨hids, fun declaration hd hm => ?_⟩
      have hown := (identifier_mem_ownBindings_iff context declaration.name).2 hm
      exact hdisjoint _ hown _ (List.mem_map_of_mem hd) rfl
    · rintro ⟨hids, hown⟩
      refine ⟨nodup_ownBindings context, hids, ?_⟩
      rintro name hm _ hmap rfl
      obtain ⟨declaration, hd, rfl⟩ := List.mem_map.1 hmap
      exact hown declaration hd ((identifier_mem_ownBindings_iff context _).1 hm)

/-! ## Names that are taken -/

/-- A component that is named like a binding of every module, and one that is named like a word of
    the language. -/
def takenNames : List (String × Value) := [("c", Compile.plainText), ("class", Compile.plainText)]

def takenScope : Scope where
  components := .object [("schemas", .object takenNames)]
  declarations :=
    [⟨"c", "c", "#/components/schemas/c", textFields [("type", .text "string")]⟩,
      ⟨"class", "class", "#/components/schemas/class", textFields [("type", .text "string")]⟩]

def takenContext : Context := ⟨documentOf takenNames, takenScope, []⟩

theorem walkRoot_plainText {components : Value} {graph : Graph} {walked : List String}
    {name : String} (h : refTo name ∉ walked) :
    walkRoot components ⟨graph, walked⟩ name Compile.plainText =
      .ok ⟨graph, walked ++ [refTo name]⟩ := by
  rw [walkRoot_of_not_walked h]
  exact (Walk.run_map rfl rfl).trans (Walk.run_nil ..)

theorem dependencies_taken : dependencies (documentOf takenNames) takenScope.components =
    .ok [("#/components/schemas/c", []), ("#/components/schemas/class", [])] := by
  have hc : refTo "c" = "#/components/schemas/c" := by decide
  have hclass : refTo "class" = "#/components/schemas/class" := by decide
  have hs : componentSchemas (documentOf takenNames) =
      .ok (.map (textFields takenNames) none) := rfl
  have hwalk : takenNames.foldlM (fun walk (entry : String × Value) =>
      walkRoot takenScope.components walk entry.1 entry.2)
      ⟨takenNames.map fun entry => (refTo entry.1, []), []⟩ =
      .ok ⟨[("#/components/schemas/c", []), ("#/components/schemas/class", [])],
        ["#/components/schemas/c", "#/components/schemas/class"]⟩ := by
    simp only [takenNames, List.map_cons, List.map_nil, List.foldlM_cons, List.foldlM_nil]
    rw [walkRoot_plainText (by simp), ok_bind, walkRoot_plainText (by simp [hc, hclass]), ok_bind,
      hc, hclass]
    rfl
  exact dependencies_of_walk hs hwalk

theorem ofDocument_taken :
    (Context.ofDocument (documentOf takenNames)).result = .ok takenContext := by
  have horder : Graph.order [("#/components/schemas/c", []), ("#/components/schemas/class", [])] =
      .ok ["#/components/schemas/c", "#/components/schemas/class"] :=
    @Graph.order_of_no_targets ["#/components/schemas/c", "#/components/schemas/class"] (by decide)
  have hdeclared : ["#/components/schemas/c", "#/components/schemas/class"].mapM
      (Declaration.ofRef takenScope.components) = .ok takenScope.declarations := rfl
  exact Context.result_ofDocument rfl dependencies_taken horder hdeclared rfl

theorem exists_moduleText_taken : ∃ text, (moduleText takenContext).result = .ok text := ⟨_, rfl⟩

theorem bindings_nodup_iff_taken :
    (Context.ofDocument (documentOf takenNames)).result = .ok takenContext ∧
      (∀ declaration ∈ takenContext.declarations, Name.IsIdentifier declaration.identifier) ∧
      ((bindings takenContext).Nodup ↔
        (takenContext.declarations.map fun declaration => Name.identifier declaration.name).Nodup ∧
          ∀ declaration ∈ takenContext.declarations, declaration.name ∉ ownBindings takenContext) := by
  obtain ⟨text, ht⟩ := exists_moduleText_taken
  obtain ⟨_, hnames, hnodup⟩ := bindings_nodup_iff ofDocument_taken ht
  exact ⟨ofDocument_taken, fun declaration hd => (hnames declaration hd).1, hnodup⟩

/-- A module is written that binds one name twice and a reserved word. -/
theorem exists_ill_formed_bindings :
    ∃ document context text, (Context.ofDocument document).result = .ok context ∧
      (moduleText context).result = .ok text ∧ ¬ (bindings context).Nodup ∧
      ∃ declaration ∈ context.declarations, declaration.identifier ∈ Name.reserved := by
  obtain ⟨text, ht⟩ := exists_moduleText_taken
  refine ⟨documentOf takenNames, takenContext, text, ofDocument_taken, ht, by decide, ?_⟩
  exact ⟨_, List.mem_cons_of_mem _ List.mem_cons_self, by decide⟩

end Emission

end RestContract
