import RestContract.Reference

/-!
# Where references lead

A reference names a component, which can be a reference again. `Leads` follows such a chain and
counts its steps. `Components.resolve` returns what a reference leads to within the number of steps
it allows. Every reference on the way leads to the same component, in fewer steps.
-/

namespace RestContract

/-- Only texts are references. -/
theorem Reference.exists_text_of_parse {ref : Value} {r : Reference}
    (h : Reference.parse ref = .ok r) : ∃ text, ref = .text text ∧ parse? text = some r := by
  unfold Reference.parse at h
  split at h
  · next text =>
    split at h
    · next hp =>
      cases h
      exact ⟨text, rfl, hp⟩
    · cases h
  · obtain ⟨_, _, h⟩ := exists_of_bind_eq_ok h
    cases h

namespace Components

variable {components : Value} {kind : ComponentKind}

/-- A reference to a kind of components names a component that is a map. -/
def Names (components : Value) (kind : ComponentKind) (ref : Value) (fields : Fields) : Prop :=
  ∃ r, Reference.parse ref = .ok r ∧ r.kind = kind ∧ lookup components r = .ok (some fields)

/-- A reference leads to a component that is no reference, over a number of others. -/
inductive Leads (components : Value) (kind : ComponentKind) : Value → Fields → Nat → Prop where
  /-- The component that the reference names. -/
  | here {ref : Value} {fields : Fields} (hn : Names components kind ref fields)
    (hp : fields.get? "$ref" = none) : Leads components kind ref fields 0
  /-- The component that the reference names is a reference that leads further. -/
  | next {ref next : Value} {found fields : Fields} {steps : Nat}
    (hn : Names components kind ref found) (hr : found.get? "$ref" = some next)
    (h : Leads components kind next fields steps) : Leads components kind ref fields (steps + 1)

theorem named_eq_ok_iff {asked ref : Value} {fields : Fields} :
    named components asked kind ref = .ok fields ↔ Names components kind ref fields := by
  constructor
  · intro h
    obtain ⟨r, hr, h⟩ := exists_of_bind_eq_ok h
    split at h
    · next hk =>
      obtain ⟨found, hl, h⟩ := exists_of_bind_eq_ok h
      cases found with
      | none => cases h
      | some found =>
        cases h
        exact ⟨r, hr, hk, hl⟩
    · cases h
  · rintro ⟨r, hr, hk, hl⟩
    simp only [named, hr, hk, hl, bind, Except.bind, if_true]
    rfl

theorem follow_eq_ok_iff {asked ref : Value} {fields : Fields} {steps : Nat} :
    follow components asked kind steps ref = .ok fields ↔
      ∃ taken ≤ steps, Leads components kind ref fields taken := by
  -- The induction is on the steps that are left: a reference on the way leaves one fewer.
  induction steps generalizing ref with
  | zero =>
    constructor
    · intro h
      obtain ⟨found, hn, h⟩ := exists_of_bind_eq_ok h
      split at h
      · cases h
      · next hp =>
        cases h
        exact ⟨0, Nat.le_refl 0, .here (named_eq_ok_iff.1 hn) (by simpa [Fields.has] using hp)⟩
    · rintro ⟨taken, hle, h⟩
      obtain rfl : taken = 0 := Nat.le_zero.1 hle
      cases h with
      | here hn hp =>
        simp only [follow, named_eq_ok_iff.2 hn, bind, Except.bind, Fields.has, hp]
        rfl
  | succ steps ih =>
    constructor
    · intro h
      obtain ⟨found, hn, h⟩ := exists_of_bind_eq_ok h
      split at h
      · next next hr =>
        obtain ⟨taken, hle, hl⟩ := ih.1 h
        exact ⟨taken + 1, Nat.succ_le_succ hle, .next (named_eq_ok_iff.1 hn) hr hl⟩
      · next hp =>
        cases h
        exact ⟨0, Nat.zero_le _, .here (named_eq_ok_iff.1 hn) hp⟩
    · rintro ⟨taken, hle, h⟩
      cases h with
      | here hn hp =>
        simp only [follow, named_eq_ok_iff.2 hn, bind, Except.bind, hp]
        rfl
      | next hn hr h =>
        simp only [follow, named_eq_ok_iff.2 hn, bind, Except.bind, hr]
        exact ih.2 ⟨_, Nat.le_of_succ_le_succ hle, h⟩

/-- Resolving a reference returns the component it leads to in as many steps as are allowed. -/
theorem resolve_eq_ok_iff {ref : Value} {fields : Fields} :
    resolve components ref = .ok fields ↔
      ∃ r, Reference.parse ref = .ok r ∧
        ∃ taken ≤ maxDepth, Leads components r.kind ref fields taken := by
  constructor
  · intro h
    obtain ⟨r, hr, h⟩ := exists_of_bind_eq_ok h
    exact ⟨r, hr, follow_eq_ok_iff.1 h⟩
  · rintro ⟨r, hr, h⟩
    simp only [resolve, hr, bind, Except.bind]
    exact follow_eq_ok_iff.2 h

/-- A reference that leads anywhere names its kind. -/
theorem Leads.exists_parse {ref : Value} {fields : Fields} {steps : Nat}
    (h : Leads components kind ref fields steps) :
    ∃ r, Reference.parse ref = .ok r ∧ r.kind = kind := by
  cases h with
  | here hn _ | next hn _ _ =>
    obtain ⟨r, hr, hk, _⟩ := hn
    exact ⟨r, hr, hk⟩

theorem Leads.exists_text {ref : Value} {fields : Fields} {steps : Nat}
    (h : Leads components kind ref fields steps) : ∃ text, ref = .text text := by
  obtain ⟨r, hr, _⟩ := h.exists_parse
  obtain ⟨text, heq, _⟩ := Reference.exists_text_of_parse hr
  exact ⟨text, heq⟩

theorem Leads.resolve {ref : Value} {fields : Fields} {steps : Nat}
    (h : Leads components kind ref fields steps) (hle : steps ≤ maxDepth) :
    resolve components ref = .ok fields := by
  obtain ⟨r, hr, rfl⟩ := h.exists_parse
  exact resolve_eq_ok_iff.2 ⟨r, hr, steps, hle, h⟩

/-- What a reference leads to is no reference. -/
theorem Leads.not_reference {ref : Value} {fields : Fields} {steps : Nat}
    (h : Leads components kind ref fields steps) : fields.get? "$ref" = none := by
  induction h with
  | here _ hp => exact hp
  | next _ _ _ ih => exact ih

theorem get?_ref_of_resolve {ref : Value} {fields : Fields}
    (h : Components.resolve components ref = .ok fields) : fields.get? "$ref" = none := by
  obtain ⟨_, _, _, _, hl⟩ := resolve_eq_ok_iff.1 h
  exact hl.not_reference

end Components
end RestContract
