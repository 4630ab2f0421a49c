import RestContract.Emission
import RestContract.Proofs.Runs

/-!
# What a module is written from

The validators and the entries whose text a module is. Everything that a module says is said of
them: the validator of each declaration, in the order of the declarations, and the entry of each
operation, in the order of the operations.
-/

namespace RestContract.Emission

open Schema Expr

/-- The line that binds an identifier to a validator. -/
def constLine (declaration : Declaration) (validator : Expr) : String :=
  "const " ++ declaration.identifier ++ " = " ++ validator.print ++ ";"

/-- The lines for the declared schemas with their validators. -/
def constLines (declarations : List Declaration) (validators : List Expr) : List String :=
  if declarations.isEmpty then []
  else List.zipWith constLine declarations validators ++
    ["", "export const schemas = " ++ (exported declarations).print ++ ";", ""]

/-- The text of a module is written from some validators and entries. -/
structure Writes (context : Context) (text : String) (validators : List Expr)
    (entries : List Contract.Entry) : Prop where
  compiled : List.Forall₂ (fun declaration e =>
    (Compile.compile context.scope (.ofFields declaration.schema) .unstated).result = .ok e)
    context.declarations validators
  assembled : List.Forall₂ (fun operation entry =>
    (Contract.assemble context.scope operation).result = .ok entry) context.operations entries
  text_eq : text = String.join ((opening ++ constLines context.declarations validators ++
    ["export const contract = " ++ (Contract.router entries).print ++ ";"]).map (· ++ "\n"))

theorem eq_print_of_render {e : Expr} {text : String} (h : e.render = .ok text) :
    text = e.print := by
  unfold render at h
  split at h
  · cases h
    rfl
  · cases h

theorem exists_of_declarationLine {scope : Scope} {declaration : Declaration} {line : String}
    (h : (declarationLine scope declaration).result = .ok line) :
    ∃ e, (Compile.compile scope (.ofFields declaration.schema) .unstated).result = .ok e ∧
      line = constLine declaration e := by
  obtain ⟨e, he, h⟩ := Traced.exists_of_result_bind h
  obtain ⟨text, ht, h⟩ := Traced.exists_of_result_bind h
  cases h
  rw [Traced.result_liftM] at ht
  exact ⟨e, he, by rw [constLine, eq_print_of_render ht]⟩

theorem exists_of_declarationLines {scope : Scope} {declarations : List Declaration}
    {lines : List String}
    (h : List.Forall₂ (fun declaration line => (declarationLine scope declaration).result = .ok line)
      declarations lines) :
    ∃ validators, List.Forall₂ (fun (declaration : Declaration) e =>
      (Compile.compile scope (.ofFields declaration.schema) .unstated).result = .ok e)
      declarations validators ∧ lines = List.zipWith constLine declarations validators := by
  induction h with
  | nil => exact ⟨[], .nil, rfl⟩
  | cons h _ ih =>
    obtain ⟨e, he, rfl⟩ := exists_of_declarationLine h
    obtain ⟨validators, hv, rfl⟩ := ih
    exact ⟨e :: validators, .cons he hv, rfl⟩

theorem exists_of_schemaLines {context : Context} {lines : List String}
    (h : (schemaLines context).result = .ok lines) :
    ∃ validators, List.Forall₂ (fun (declaration : Declaration) e =>
      (Compile.compile context.scope (.ofFields declaration.schema) .unstated).result = .ok e)
      context.declarations validators ∧ lines = constLines context.declarations validators := by
  unfold schemaLines at h
  split at h
  · next hd =>
    cases h
    rw [List.isEmpty_iff] at hd
    exact ⟨[], by rw [hd]; exact .nil, by simp [constLines, hd]⟩
  · next hd =>
    obtain ⟨consts, hc, h⟩ := Traced.exists_of_result_bind h
    obtain ⟨all, ha, h⟩ := Traced.exists_of_result_bind h
    cases h
    obtain ⟨validators, hv, rfl⟩ := exists_of_declarationLines (Traced.result_mapM_eq_ok_iff.1 hc)
    rw [Traced.result_liftM] at ha
    exact ⟨validators, hv, by rw [constLines, if_neg hd, eq_print_of_render ha]⟩

theorem exists_of_contractLine {context : Context} {line : String}
    (h : (contractLine context).result = .ok line) :
    ∃ entries, List.Forall₂ (fun operation entry =>
      (Contract.assemble context.scope operation).result = .ok entry) context.operations entries ∧
      line = "export const contract = " ++ (Contract.router entries).print ++ ";" := by
  obtain ⟨entries, he, h⟩ := Traced.exists_of_result_bind h
  obtain ⟨_, _, h⟩ := Traced.exists_of_result_bind h
  obtain ⟨text, ht, h⟩ := Traced.exists_of_result_bind h
  cases h
  rw [Traced.result_liftM] at ht
  exact ⟨entries, Traced.result_mapM_eq_ok_iff.1 he, by rw [eq_print_of_render ht]⟩

theorem writes_of_moduleText {context : Context} {text : String}
    (h : (moduleText context).result = .ok text) :
    ∃ validators entries, Writes context text validators entries := by
  obtain ⟨lines, hl, h⟩ := Traced.exists_of_result_bind h
  cases h
  obtain ⟨schemas, hs, hl⟩ := Traced.exists_of_result_bind hl
  obtain ⟨contract, hc, hl⟩ := Traced.exists_of_result_bind hl
  cases hl
  obtain ⟨validators, hv, rfl⟩ := exists_of_schemaLines hs
  obtain ⟨entries, he, rfl⟩ := exists_of_contractLine hc
  exact ⟨validators, entries, hv, he, rfl⟩

end RestContract.Emission
