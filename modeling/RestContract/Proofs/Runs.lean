import Mathlib.Data.List.Forall2
import RestContract.Trace

/-!
# Runs over lists

A run over a list succeeds where it succeeds for every member, and its notes do not change what it
gives. What is known of the value of a run goes along with it: a run yields a value with a property,
or it fails with an error of a kind, and the next step starts from the property.
-/

namespace RestContract

theorem ok_bind {ε α β : Type} (a : α) (f : α → Except ε β) :
    ((Except.ok a : Except ε α) >>= f) = f a := rfl

/-- A list of computations succeeds exactly where each of them does. -/
theorem mapM_eq_ok_iff {ε α β : Type} {f : α → Except ε β} {xs : List α} {ys : List β} :
    xs.mapM f = .ok ys ↔ List.Forall₂ (fun x y => f x = .ok y) xs ys := by
  induction xs generalizing ys with
  | nil =>
    constructor
    · intro h
      cases h
      exact .nil
    · intro h
      cases h
      rfl
  | cons x rest ih =>
    rw [List.mapM_cons]
    constructor
    · intro h
      obtain ⟨y, hy, h⟩ := exists_of_bind_eq_ok h
      obtain ⟨others, ho, h⟩ := exists_of_bind_eq_ok h
      cases h
      exact .cons hy (ih.1 ho)
    · intro h
      cases h with
      | cons hy ho =>
        rw [hy, ih.2 ho]
        rfl

/-- A run over a list fails with the failure of one of its members. -/
theorem exists_of_mapM_error {ε α β : Type} {f : α → Except ε β} {xs : List α} {e : ε}
    (h : xs.mapM f = .error e) : ∃ x ∈ xs, f x = .error e := by
  induction xs with
  | nil => cases h
  | cons x rest ih =>
    rw [List.mapM_cons] at h
    cases hx : f x with
    | error first =>
      rw [hx] at h
      cases h
      exact ⟨x, List.mem_cons_self, hx⟩
    | ok y =>
      rw [hx, ok_bind] at h
      cases hrest : rest.mapM f with
      | error later =>
        rw [hrest] at h
        cases h
        obtain ⟨other, ho, hfail⟩ := ih hrest
        exact ⟨other, List.mem_cons_of_mem _ ho, hfail⟩
      | ok ys =>
        rw [hrest] at h
        cases h

/-- In a loop that succeeds, the step for each member succeeded. -/
theorem exists_of_mem_foldlM {ε α β : Type} {f : β → α → Except ε β} {xs : List α} {first last : β}
    (h : xs.foldlM f first = .ok last) {x : α} (hx : x ∈ xs) :
    ∃ before after, f before x = .ok after := by
  induction xs generalizing first with
  | nil => cases hx
  | cons head rest ih =>
    rw [List.foldlM_cons] at h
    obtain ⟨next, hn, h⟩ := exists_of_bind_eq_ok h
    cases hx with
    | head => exact ⟨first, next, hn⟩
    | tail _ hx => exact ih h hx

/-- What each step of a loop carries over to one more member holds of all members at the end. -/
theorem of_foldlM_concat {ε α β : Type} {f : β → α → Except ε β} {P : List α → β → Prop}
    (hstep : ∀ done x b c, P done b → f b x = .ok c → P (done ++ [x]) c)
    {done xs : List α} {first last : β} (hfirst : P done first)
    (h : xs.foldlM f first = .ok last) : P (done ++ xs) last := by
  induction xs generalizing done first with
  | nil =>
    cases h
    simpa using hfirst
  | cons x rest ih =>
    rw [List.foldlM_cons] at h
    obtain ⟨next, hn, h⟩ := exists_of_bind_eq_ok h
    simpa using ih (hstep done x first next hfirst hn) h

/-- What each step of a loop preserves holds at the end. -/
theorem of_foldlM {ε α β : Type} {f : β → α → Except ε β} {P : β → Prop} {xs : List α}
    (hstep : ∀ x ∈ xs, ∀ b c, P b → f b x = .ok c → P c) {first last : β} (hfirst : P first)
    (h : xs.foldlM f first = .ok last) : P last := by
  induction xs generalizing first with
  | nil =>
    cases h
    exact hfirst
  | cons x rest ih =>
    rw [List.foldlM_cons] at h
    obtain ⟨next, hn, h⟩ := exists_of_bind_eq_ok h
    obtain ⟨hhead, hrest⟩ := List.forall_mem_cons.1 hstep
    exact ih hrest (hhead first next hfirst hn) h

/-- In two lists that are related member by member, each member of the second has its partner. -/
theorem exists_of_mem_forall₂ {α β : Type} {R : α → β → Prop} {xs : List α} {ys : List β} {y : β}
    (h : List.Forall₂ R xs ys) (hy : y ∈ ys) : ∃ x ∈ xs, R x y := by
  induction h with
  | nil => cases hy
  | cons hxy _ ih =>
    cases hy with
    | head => exact ⟨_, List.mem_cons_self, hxy⟩
    | tail _ hy =>
      obtain ⟨x, hx, h⟩ := ih hy
      exact ⟨x, List.mem_cons_of_mem _ hx, h⟩

/-- Each member of a list may have its partner chosen on its own. -/
theorem exists_forall₂ {α β : Type} {R : α → β → Prop} {xs : List α}
    (h : ∀ x ∈ xs, ∃ y, R x y) : ∃ ys, List.Forall₂ R xs ys := by
  induction xs with
  | nil => exact ⟨[], .nil⟩
  | cons x rest ih =>
    obtain ⟨y, hy⟩ := h x List.mem_cons_self
    obtain ⟨ys, hys⟩ := ih fun x hx => h x (List.mem_cons_of_mem _ hx)
    exact ⟨y :: ys, .cons hy hys⟩

theorem exists_split_of_forall₂ {α β : Type} {R : α → β → Prop} {before after : List α} {x : α}
    {ys : List β} (h : List.Forall₂ R (before ++ x :: after) ys) :
    ∃ front y back, ys = front ++ y :: back ∧ R x y ∧ List.Forall₂ R after back := by
  induction before generalizing ys with
  | nil =>
    cases h with
    | cons hxy hrest => exact ⟨[], _, _, rfl, hxy, hrest⟩
  | cons first rest ih =>
    cases h with
    | cons _ hrest =>
      obtain ⟨front, y, back, rfl, hxy, hback⟩ := ih hrest
      exact ⟨_ :: front, y, back, rfl, hxy, hback⟩

namespace Traced

variable {α β : Type}

theorem bind_pure (x : Traced α) : x.bind Traced.pure = x := by
  obtain ⟨notes, result⟩ := x
  cases result <;> simp [Traced.bind, Traced.pure]

theorem pure_bind (a : α) (f : α → Traced β) : (Traced.pure a).bind f = f a := by
  simp [Traced.bind, Traced.pure]

theorem bind_assoc {γ : Type} (x : Traced α) (f : α → Traced β) (g : β → Traced γ) :
    (x.bind f).bind g = x.bind fun a => (f a).bind g := by
  obtain ⟨notes, result⟩ := x
  cases result with
  | error e => rfl
  | ok a => cases h : (f a).result <;> simp [Traced.bind, h]

instance : LawfulMonad Traced := LawfulMonad.mk' Traced bind_pure pure_bind bind_assoc

@[simp] theorem result_liftM (x : Except Error α) : (liftM x : Traced α).result = x := rfl

theorem result_mapM (f : α → Traced β) (xs : List α) :
    (xs.mapM f).result = xs.mapM fun x => (f x).result := by
  induction xs with
  | nil => rfl
  | cons x rest ih =>
    rw [List.mapM_cons, List.mapM_cons, result_bind]
    simp only [result_bind, ih, result_pure]
    rfl

/-- A run over a list succeeds exactly where the run of each member does. -/
theorem result_mapM_eq_ok_iff {f : α → Traced β} {xs : List α} {ys : List β} :
    (xs.mapM f).result = .ok ys ↔ List.Forall₂ (fun x y => (f x).result = .ok y) xs ys := by
  rw [result_mapM, mapM_eq_ok_iff]

/-- A run in two steps succeeds where both steps do. -/
theorem exists_of_result_bind {x : Traced α} {f : α → Traced β} {b : β}
    (h : (x >>= f).result = .ok b) : ∃ a, x.result = .ok a ∧ (f a).result = .ok b := by
  rw [result_bind] at h
  exact exists_of_bind_eq_ok h

theorem exists_result_bind {x : Traced α} {f : α → Traced β} {a : α} (hx : x.result = .ok a)
    (hf : ∃ b, (f a).result = .ok b) : ∃ b, (x >>= f).result = .ok b := by
  obtain ⟨b, hb⟩ := hf
  refine ⟨b, ?_⟩
  rw [result_bind, hx, ok_bind, hb]

theorem exists_result_mapM {f : α → Traced β} {xs : List α}
    (h : ∀ x ∈ xs, ∃ y, (f x).result = .ok y) : ∃ ys, (xs.mapM f).result = .ok ys := by
  obtain ⟨ys, hys⟩ := exists_forall₂ h
  exact ⟨ys, result_mapM_eq_ok_iff.2 hys⟩

end Traced

/-! ## What a run yields -/

/-- A run gives a value with a property, or it fails with an error of a kind. -/
structure YieldsOr {α : Type} (E : Error → Prop) (P : α → Prop) (x : Except Error α) : Prop where
  value : ∀ a, x = .ok a → P a
  failure : ∀ e, x = .error e → E e

namespace YieldsOr

variable {α β : Type} {E F : Error → Prop} {P R : α → Prop} {Q : β → Prop}

theorem ok {a : α} (h : P a) : YieldsOr E P (.ok a : Except Error α) where
  value _ ha := Except.ok.inj ha ▸ h
  failure _ he := by cases he

theorem error {e : Error} (h : E e) : YieldsOr E P (.error e) where
  value _ ha := by cases ha
  failure _ he := Except.error.inj he ▸ h

theorem mono {x : Except Error α} (h : YieldsOr E P x) (hr : ∀ a, P a → R a) : YieldsOr E R x where
  value a ha := hr a (h.value a ha)
  failure := h.failure

theorem weaken {x : Except Error α} (h : YieldsOr E P x) (hf : ∀ e, E e → F e) :
    YieldsOr F P x where
  value := h.value
  failure e he := hf e (h.failure e he)

theorem exists_or {x : Except Error α} (h : YieldsOr E P x) :
    (∃ a, x = .ok a) ∨ ∃ e, x = .error e ∧ E e := by
  cases x with
  | ok a => exact .inl ⟨a, rfl⟩
  | error e => exact .inr ⟨e, rfl, h.failure e rfl⟩

/-- A run that fails only with errors of a kind yields whatever it gives. -/
theorem self {x : Except Error α} (h : YieldsOr E P x) : YieldsOr E (fun a => x = .ok a) x where
  value _ ha := ha
  failure := h.failure

theorem bind {x : Except Error α} {f : α → Except Error β} (h : YieldsOr E P x)
    (hf : ∀ a, P a → YieldsOr E Q (f a)) : YieldsOr E Q (x >>= f) := by
  cases x with
  | ok a => exact hf a (h.value a rfl)
  | error e => exact error (h.failure e rfl)

theorem mapM {f : α → Except Error β} {xs : List α} (h : ∀ x ∈ xs, YieldsOr E Q (f x)) :
    YieldsOr E (fun ys => ∀ y ∈ ys, Q y) (xs.mapM f) where
  value ys hys y hy := by
    obtain ⟨x, hx, hy⟩ := exists_of_mem_forall₂ (mapM_eq_ok_iff.1 hys) hy
    exact (h x hx).value y hy
  failure e he := by
    obtain ⟨x, hx, hfail⟩ := exists_of_mapM_error he
    exact (h x hx).failure e hfail

theorem foldlM {f : β → α → Except Error β} {xs : List α} {first : β} (hfirst : Q first)
    (h : ∀ b x, x ∈ xs → Q b → YieldsOr E Q (f b x)) : YieldsOr E Q (xs.foldlM f first) := by
  induction xs generalizing first with
  | nil => exact ok hfirst
  | cons x rest ih =>
    rw [List.foldlM_cons]
    refine (h first x List.mem_cons_self hfirst).bind fun next hn => ?_
    exact ih hn fun b x hx => h b x (List.mem_cons_of_mem _ hx)

/-! Notes do not change what a run gives. -/

theorem result_bind {x : Traced α} {f : α → Traced β} (h : YieldsOr E P x.result)
    (hf : ∀ a, P a → YieldsOr E Q (f a).result) : YieldsOr E Q (x >>= f).result := by
  rw [Traced.result_bind]
  exact h.bind hf

/-- A step that is known to succeed is passed over. -/
theorem result_bind_of_ok {x : Traced α} {f : α → Traced β} {a : α} (hx : x.result = .ok a)
    (hf : YieldsOr E Q (f a).result) : YieldsOr E Q (x >>= f).result := by
  rw [Traced.result_bind, hx]
  exact hf

theorem result_mapM {f : α → Traced β} {xs : List α} (h : ∀ x ∈ xs, YieldsOr E Q (f x).result) :
    YieldsOr E (fun ys => ∀ y ∈ ys, Q y) (xs.mapM f).result := by
  rw [Traced.result_mapM]
  exact mapM h

end YieldsOr
end RestContract
