import RestContract.Proofs.DeliveredEntries

/-!
# Lines of a module

A module has one line for each declared schema, one for the object that exports them and one for the
contract, whatever its document says: no text, key, pattern or name of the document can break a
line. For the lines are printed without control characters, and only what stands between them breaks
lines.
-/

namespace RestContract

open Schema Expr

/-- The identifier of a declaration is made of its name. -/
theorem Context.identifier_eq {document : Value} {context : Context}
    (h : (Context.ofDocument document).result = .ok context) {declaration : Declaration}
    (hd : declaration ∈ context.declarations) :
    declaration.identifier = Name.identifier declaration.name := by
  obtain ⟨_, _, _, _, _, ha⟩ := exists_arranged_of_ofDocument h
  obtain ⟨_, _, _, hn, hi, _⟩ := Declaration.exists_of_ofRef (ha.made declaration hd)
  rw [hi, hn]

namespace Emission

/-- The lines of a module that is written from some validators and entries. -/
def linesOf (context : Context) (validators : List Expr) (entries : List Contract.Entry) :
    List String :=
  opening ++ constLines context.declarations validators ++
    ["export const contract = " ++ (Contract.router entries).print ++ ";"]

/-! ## The characters of lines -/

theorem isVisible_line {before : String} {e : Expr} (hb : IsVisible before.toList)
    (he : e.IsOver .visible) : IsVisible (before ++ e.print ++ ";").toList := by
  rw [String.toList_append, String.toList_append]
  exact .append (.append hb he) (by decide)

theorem isVisible_constLine {declaration : Declaration} {e : Expr}
    (hd : IsVisible declaration.identifier.toList) (he : e.IsOver .visible) :
    IsVisible (constLine declaration e).toList := by
  refine isVisible_line ?_ he
  rw [String.toList_append, String.toList_append]
  exact .append (.append (by decide) hd) (by decide)

theorem isVisible_of_mem_zipWith {declarations : List Declaration} {validators : List Expr}
    (hd : ∀ declaration ∈ declarations, IsVisible declaration.identifier.toList)
    (hv : ∀ e ∈ validators, e.IsOver .visible) {line : String}
    (hl : line ∈ List.zipWith constLine declarations validators) : IsVisible line.toList := by
  induction declarations generalizing validators with
  | nil => cases hl
  | cons first rest ih =>
    obtain ⟨hfirst, hrest⟩ := List.forall_mem_cons.1 hd
    cases validators with
    | nil => cases hl
    | cons e others =>
      obtain ⟨he, hothers⟩ := List.forall_mem_cons.1 hv
      rcases List.mem_cons.1 hl with rfl | hl
      · exact isVisible_constLine hfirst he
      · exact ih hrest hothers hl

theorem isOver_exported {declarations : List Declaration}
    (hd : ∀ declaration ∈ declarations, IsVisible declaration.identifier.toList) :
    (exported declarations).IsOver .visible := by
  refine isOver_object fun p hp => ?_
  obtain ⟨declaration, hm, rfl⟩ := List.mem_map.1 hp
  exact isOver_shorthand (hd declaration hm)

section

variable {context : Context} {text : String} {validators : List Expr}
  {entries : List Contract.Entry} (h : Writes context text validators entries)

include h

theorem Writes.text_eq_join :
    text = String.join ((linesOf context validators entries).map (· ++ "\n")) := h.text_eq

theorem Writes.isOver_router
    (hd : ∀ declaration ∈ context.declarations, IsVisible declaration.identifier.toList) :
    (Contract.router entries).IsOver .visible := by
  refine Contract.isOver_router fun entry he => ?_
  obtain ⟨operation, _, ha⟩ := exists_of_mem_forall₂ h.assembled he
  have hforms := Contract.ofKey?_ne_none_of_assemble ha
  exact (Contract.delivers_assemble (A := .visible) hd hforms).value entry ha

/-- No line of a module holds a control character. -/
theorem Writes.isVisible_lines
    (hd : ∀ declaration ∈ context.declarations, IsVisible declaration.identifier.toList) :
    ∀ line ∈ linesOf context validators entries, IsVisible line.toList := by
  have hvalidators : ∀ e ∈ validators, e.IsOver .visible := by
    intro e he
    obtain ⟨declaration, _, hc⟩ := exists_of_mem_forall₂ h.compiled he
    exact (Compile.delivers_compile (A := .visible) hd _ _).value e hc
  intro line hl
  simp only [linesOf, constLines, List.mem_append, List.mem_singleton] at hl
  rcases hl with (hl | hl) | rfl
  · revert line
    decide
  · split at hl
    · cases hl
    · simp only [List.mem_append, List.mem_cons, List.not_mem_nil, or_false] at hl
      rcases hl with hl | rfl | rfl | rfl
      · exact isVisible_of_mem_zipWith hd hvalidators hl
      · exact .nil
      · exact isVisible_line (by decide) (isOver_exported hd)
      · exact .nil
  · exact isVisible_line (by decide) (h.isOver_router hd)

theorem Writes.length_lines : (linesOf context validators entries).length =
    if context.declarations = [] then 6 else context.declarations.length + 9 := by
  have hl := h.compiled.length_eq
  unfold linesOf constLines
  by_cases hd : context.declarations = []
  · simp [hd, opening]
  · have hempty : context.declarations.isEmpty = false := by simpa using hd
    simp [hd, hempty, opening, ← hl]

/-- The lines of the declared schemas stand in their order, behind the opening. -/
theorem Writes.exists_constLine {i : Nat} {declaration : Declaration}
    (hi : context.declarations[i]? = some declaration) :
    ∃ e, (linesOf context validators entries)[5 + i]? = some (constLine declaration e) := by
  obtain ⟨hlt, hget⟩ := List.getElem?_eq_some_iff.1 hi
  have hl := h.compiled.length_eq
  have hempty : context.declarations.isEmpty = false := by
    rw [List.isEmpty_eq_false_iff]
    exact List.ne_nil_of_length_pos (by omega)
  have hopening : opening.length = 5 := rfl
  refine ⟨validators[i], ?_⟩
  rw [linesOf, constLines, hempty, List.append_assoc,
    List.getElem?_append_right (by omega), hopening, Nat.add_sub_cancel_left]
  simp [List.getElem?_append, hlt, ← hl, hget]

end

/-! ## Lines of a text -/

theorem toList_join_lines (lines : List String) :
    (String.join (lines.map (· ++ "\n"))).toList = lines.flatMap fun line => line.toList ++ ['\n'] := by
  simp [String.toList_join, List.flatMap_map]

theorem newline_not_mem {text : List Char} (h : IsVisible text) : '\n' ∉ text :=
  fun hm => absurd (h _ hm) (by decide)

theorem count_newline {lines : List String} (h : ∀ line ∈ lines, IsVisible line.toList) :
    (lines.flatMap fun line => line.toList ++ ['\n']).count '\n' = lines.length := by
  induction lines with
  | nil => rfl
  | cons line rest ih =>
    obtain ⟨hline, hrest⟩ := List.forall_mem_cons.1 h
    rw [List.flatMap_cons, List.count_append, List.count_append, ih hrest,
      List.count_eq_zero_of_not_mem (newline_not_mem hline)]
    simp
    omega

/-- Lines without breaks, with a break behind each, are told apart by the breaks. -/
theorem splitOn_lines {lines : List String} (h : ∀ line ∈ lines, IsVisible line.toList) :
    (lines.flatMap fun line => line.toList ++ ['\n']).splitOn '\n' =
      lines.map String.toList ++ [[]] := by
  -- Line breaks end the lines, so an empty one is left behind the last.
  have hjoined : (lines.flatMap fun line => line.toList ++ ['\n']) =
      ['\n'].intercalate (lines.map String.toList ++ [[]]) := by
    clear h
    induction lines with
    | nil => rfl
    | cons line rest ih =>
      rw [List.flatMap_cons, ih]
      cases rest with
      | nil => simp [List.intercalate_cons_cons]
      | cons next others => simp [List.intercalate_cons_cons]
  rw [hjoined]
  refine List.splitOn_intercalate '\n' ?_ (by simp)
  intro line hl
  rcases List.mem_append.1 hl with hl | hl
  · obtain ⟨s, hs, rfl⟩ := List.mem_map.1 hl
    exact newline_not_mem (h s hs)
  · simp_all

/-- A module has a line for each declared schema that begins with its identifier, and beside those
    a fixed number of lines. There are no control characters in it but the breaks between lines. The
    identifiers of a document are made of the names of its components and always without control
    characters. -/
theorem one_line_each :
    (∀ document context, (Context.ofDocument document).result = .ok context →
      ∀ declaration ∈ context.declarations,
        declaration.identifier = Name.identifier declaration.name ∧
        IsVisible declaration.identifier.toList) ∧
    ∀ context text,
      (∀ declaration ∈ context.declarations, IsVisible declaration.identifier.toList) →
      (moduleText context).result = .ok text →
      (∀ c ∈ text.toList, c.toNat < 0x20 → c = '\n') ∧
      text.toList.count '\n' =
        (if context.declarations = [] then 6 else context.declarations.length + 9) ∧
      ∀ i declaration, context.declarations[i]? = some declaration →
        ∃ line, (text.toList.splitOn '\n')[5 + i]? = some line ∧
          ("const " ++ declaration.identifier ++ " = ").toList <+: line := by
  constructor
  · intro document context h declaration hd
    have heq := Context.identifier_eq h hd
    exact ⟨heq, heq ▸ Name.isVisible_identifier _⟩
  · intro context text hd ht
    obtain ⟨validators, entries, hw⟩ := writes_of_moduleText ht
    have hvisible := hw.isVisible_lines hd
    have htext : text.toList = _ := (congrArg String.toList hw.text_eq_join).trans
      (toList_join_lines _)
    rw [htext, count_newline hvisible, hw.length_lines, splitOn_lines hvisible]
    refine ⟨fun c hc hlow => ?_, rfl, fun i declaration hi => ?_⟩
    · obtain ⟨line, hl, hc⟩ := List.mem_flatMap.1 hc
      rcases List.mem_append.1 hc with hc | hc
      · exact absurd (hvisible line hl c hc) (by omega)
      · exact List.mem_singleton.1 hc
    · obtain ⟨e, he⟩ := hw.exists_constLine hi
      refine ⟨(constLine declaration e).toList, ?_, ?_⟩
      · rw [List.getElem?_append_left (by simpa using (List.getElem?_eq_some_iff.1 he).1),
          List.getElem?_map, he, Option.map_some]
      · have hline : constLine declaration e =
            ("const " ++ declaration.identifier ++ " = ") ++ (e.print ++ ";") := String.append_assoc
        exact ⟨(e.print ++ ";").toList, by rw [hline, ← String.toList_append]⟩

/-- An object with line breaks in the name of its component, in a key, a pattern and a default. -/
def brokenContext : Context where
  document := .null
  scope :=
    { components := .null
      declarations :=
        [⟨"a\nb", "a_b", "#/components/schemas/a\nb",
          textFields [("type", .text "object"), ("properties", .object [("c\nd",
            .object [("type", .text "string"), ("pattern", .text "\n"), ("default", .text "\n")])])]⟩] }
  operations := []

theorem one_line_each_broken :
    (∀ declaration ∈ takenContext.declarations,
      declaration.identifier = Name.identifier declaration.name) ∧
    ∃ text, (moduleText brokenContext).result = .ok text ∧ text.toList.count '\n' = 10 ∧
      ∃ line, (text.toList.splitOn '\n')[5]? = some line ∧ "const a_b = ".toList <+: line := by
  obtain ⟨hnames, hlines⟩ := one_line_each
  have htext : ∃ text, (moduleText brokenContext).result = .ok text := ⟨_, rfl⟩
  obtain ⟨text, ht⟩ := htext
  obtain ⟨-, hcount, hline⟩ := hlines brokenContext text (by decide) ht
  have hne : brokenContext.declarations ≠ [] := List.cons_ne_nil _ _
  rw [if_neg hne] at hcount
  obtain ⟨line, hl, hp⟩ := hline 0 _ rfl
  refine ⟨fun declaration hd => ?_, text, ht, hcount, line, hl, hp⟩
  exact (hnames _ _ ofDocument_taken declaration hd).1

end Emission
end RestContract
