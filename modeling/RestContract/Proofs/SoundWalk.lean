import RestContract.Proofs.DependencyWalk

/-!
# When a walk comes to its end

A walk fails at a schema that cannot be taken apart and at a reference that leads nowhere, and at
nothing else. A schema without either is sound, as seen from a set of references that are known; if
what the known references lead to is sound again, a walk through sound schemas comes to its end and
has followed known references only. Which schemas a walk is given first does not matter.
-/

namespace RestContract.Schema

/-- A reference is met on the way through the schemas inside a schema. No reference is followed. -/
inductive Meets : Value → Value → Prop where
  | here {schema ref : Value} (h : Reference.target? schema = some ref) : Meets schema ref
  | inside {fields : Fields} {mark : Option Nat} {inner : List Value} {schema ref : Value}
    (ht : Reference.target? (.map fields mark) = none) (hn : nested fields = .ok inner)
    (hs : schema ∈ inner) (h : Meets schema ref) : Meets (.map fields mark) ref

theorem Meets.unmarked {fields : Fields} {mark : Option Nat} {ref : Value}
    (h : Meets (.map fields mark) ref) (other : Option Nat) : Meets (.map fields other) ref := by
  cases h with
  | here ht => exact .here ht
  | inside ht hn hs h => exact .inside ht hn hs h

theorem Meets.mem_mentions {schema : Value} {ref : String} (h : Meets schema (.text ref)) :
    ref ∈ mentions schema := by
  generalize hv : Value.text ref = value at h
  induction h with
  | here ht =>
    subst hv
    rw [mentions_of_target ht]
    exact List.mem_singleton_self ref
  | @inside fields mark inner schema value ht hn hs _ ih =>
    rw [mentions_of_not_target ht, inside_eq ht hn]
    exact List.mem_flatMap.2 ⟨schema, hs, ih hv⟩

/-- A schema can be taken apart, and all references in it are known ones. -/
inductive Sound (known : String → Prop) : Value → Prop where
  | reference {schema : Value} {ref : String} (ht : Reference.target? schema = some (.text ref))
    (hk : known ref) : Sound known schema
  | leaf {schema : Value} (h : ∀ fields mark, schema ≠ .map fields mark) : Sound known schema
  | map {fields : Fields} {mark : Option Nat} {inner : List Value}
    (ht : Reference.target? (.map fields mark) = none) (hn : nested fields = .ok inner)
    (hi : ∀ schema ∈ inner, Sound known schema) : Sound known (.map fields mark)

theorem Readable.sound {known : String → Prop} {schema : Value} (h : Readable schema)
    (hm : ∀ ref, Meets schema ref → ∃ text, ref = .text text ∧ known text) :
    Sound known schema := by
  induction h with
  | @reference schema ref ht =>
    obtain ⟨text, rfl, hk⟩ := hm ref (.here ht)
    exact .reference ht hk
  | leaf hl => exact .leaf hl
  | @map fields inner mark ht hn _ ih =>
    refine .map ht hn ?_
    intro schema hs
    exact ih schema hs fun ref hr => hm ref (.inside ht hn hs hr)

namespace Sound

variable {known : String → Prop} {schema : Value}

theorem remark {fields : Fields} {mark : Option Nat} (h : Sound known (.map fields mark))
    (other : Option Nat) : Sound known (.map fields other) := by
  cases h with
  | reference ht hk => exact .reference ht hk
  | leaf hl => exact absurd rfl (hl fields mark)
  | map ht hn hi => exact .map ht hn hi

theorem exists_text (h : Sound known schema) {ref : Value}
    (ht : Reference.target? schema = some ref) : ∃ text, ref = .text text ∧ known text := by
  cases h with
  | @reference _ text ht' hk =>
    cases ht.symm.trans ht'
    exact ⟨text, rfl, hk⟩
  | leaf hl => cases ht.symm.trans (target?_eq_none hl)
  | map ht' => cases ht.symm.trans ht'

theorem exists_nested {fields : Fields} {mark : Option Nat} (h : Sound known (.map fields mark))
    (ht : Reference.target? (.map fields mark) = none) :
    ∃ inner, nested fields = .ok inner ∧ ∀ schema ∈ inner, Sound known schema := by
  cases h with
  | reference ht' => cases ht.symm.trans ht'
  | leaf hl => exact absurd rfl (hl fields mark)
  | map _ hn hi => exact ⟨_, hn, hi⟩

theorem exists_text_of_meets (h : Sound known schema) {ref : Value} (hm : Meets schema ref) :
    ∃ text, ref = .text text ∧ known text := by
  induction hm with
  | here ht => exact h.exists_text ht
  | inside ht hn hs _ ih =>
    obtain ⟨_, hn', hi⟩ := h.exists_nested ht
    cases hn.symm.trans hn'
    exact ih (hi _ hs)

theorem known_of_mem_mentions (h : Sound known schema) {ref : String} (hm : ref ∈ mentions schema) :
    known ref := by
  induction h with
  | reference ht hk =>
    rw [mentions_of_target ht, List.mem_singleton] at hm
    exact hm ▸ hk
  | leaf hl =>
    rw [mentions_of_not_target (target?_eq_none hl), inside_eq_nil hl] at hm
    cases hm
  | map ht hn _ ih =>
    rw [mentions_of_not_target ht, inside_eq ht hn] at hm
    obtain ⟨schema, hs, hm⟩ := List.mem_flatMap.1 hm
    exact ih schema hs hm

end Sound

/-- What a known reference leads to is sound. -/
def Leading (components : Value) (known : String → Prop) : Prop :=
  ∀ ref, known ref → ∃ target, Components.resolve components (.text ref) = .ok target ∧
    Sound known (.ofFields target)

variable {components : Value} {known : String → Prop}

theorem Leading.known_of_mem_mentions (hl : Leading components known) {ref : String}
    {target : Fields} (hk : known ref) (hr : Components.resolve components (.text ref) = .ok target) :
    ∀ other ∈ mentions (.ofFields target), known other := by
  obtain ⟨found, hf, hs⟩ := hl ref hk
  cases hr.symm.trans hf
  exact fun other hm => hs.known_of_mem_mentions hm

/-- A walk through sound schemas comes to its end. -/
theorem Walk.exists_run (hl : Leading components known) {waiting : List (Value × String)}
    (walk : Walk) (hw : ∀ entry ∈ waiting, Sound known entry.1) :
    ∃ final, Walk.run components waiting walk = .ok final := by
  fun_induction Walk.run components waiting walk with
  | case1 walk => exact ⟨walk, rfl⟩
  | case2 walk schema owner waiting ref ht graph hr ih => exact ih (List.forall_mem_cons.1 hw).2
  | case3 walk schema owner waiting ref ht graph hr target hres ih =>
    obtain ⟨hfirst, hwaiting⟩ := List.forall_mem_cons.1 hw
    obtain ⟨_, heq, hk⟩ := hfirst.exists_text ht
    cases heq
    obtain ⟨other, hres', hs⟩ := hl ref hk
    cases hres.symm.trans hres'
    exact ih (List.forall_mem_cons.2 ⟨hs, hwaiting⟩)
  -- The walk would fail in the other cases, but what is sound gives no reason for it.
  | case4 walk schema owner waiting ref ht hr e hres =>
    obtain ⟨_, heq, hk⟩ := (hw _ List.mem_cons_self).exists_text ht
    cases heq
    obtain ⟨_, hres', _⟩ := hl ref hk
    cases hres.symm.trans hres'
  | case5 walk schema owner waiting ref hn ht =>
    obtain ⟨text, rfl, _⟩ := (hw _ List.mem_cons_self).exists_text ht
    exact absurd rfl (hn text)
  | case6 walk owner waiting fields mark ht inner hn ih =>
    obtain ⟨hfirst, hwaiting⟩ := List.forall_mem_cons.1 hw
    obtain ⟨_, hn', hi⟩ := hfirst.exists_nested ht
    cases hn.symm.trans hn'
    refine ih (List.forall_mem_append.2 ⟨fun entry he => ?_, hwaiting⟩)
    obtain ⟨schema, hs, rfl⟩ := List.mem_map.1 he
    exact hi schema hs
  | case7 walk owner waiting fields mark ht e hn =>
    obtain ⟨_, hn', _⟩ := (hw _ List.mem_cons_self).exists_nested ht
    cases hn.symm.trans hn'
  | case8 walk schema owner waiting ht hmap ih => exact ih (List.forall_mem_cons.1 hw).2

theorem exists_walkRoot (hl : Leading components known) (walk : Walk) {name : String}
    {schema : Value} (hk : known (refTo name)) (hs : Sound known schema) :
    ∃ next, walkRoot components walk name schema = .ok next ∧
      ∀ node ∈ next.walked, node ∈ walk.walked ∨ known node := by
  by_cases hm : refTo name ∈ walk.walked
  · exact ⟨walk, walkRoot_of_walked hm, fun node hn => .inl hn⟩
  · rw [walkRoot_of_not_walked hm]
    obtain ⟨next, hn⟩ : ∃ next, Walk.run components [(schema, refTo name)]
        { walk with walked := walk.walked ++ [refTo name] } = .ok next :=
      Walk.exists_run hl _ (by simpa using hs)
    refine ⟨next, hn, fun node hnode => ?_⟩
    have hwalked := (Walk.ends_of_run hn).walked (fun _ _ => hl.known_of_mem_mentions)
      (by simpa using fun _ => hs.known_of_mem_mentions) node hnode
    rw [List.mem_append, List.mem_singleton, or_assoc] at hwalked
    rcases hwalked with hw | rfl | hk
    · exact .inl hw
    · exact .inr hk
    · exact .inr hk

/-- A walk from each of some sound component schemas comes to its end and follows known references
    only. -/
theorem exists_walkRoots (hl : Leading components known) {named : List (String × Value)}
    (walk : Walk) (hk : ∀ entry ∈ named, known (refTo entry.1))
    (hw : ∀ entry ∈ named, Sound known entry.2) :
    ∃ final, named.foldlM (fun walk (entry : String × Value) =>
        walkRoot components walk entry.1 entry.2) walk = .ok final ∧
      ∀ node ∈ final.walked, node ∈ walk.walked ∨ known node := by
  induction named generalizing walk with
  | nil => exact ⟨walk, rfl, fun node hm => .inl hm⟩
  | cons entry rest ih =>
    obtain ⟨hkfirst, hkrest⟩ := List.forall_mem_cons.1 hk
    obtain ⟨hsfirst, hsrest⟩ := List.forall_mem_cons.1 hw
    obtain ⟨next, hn, hnext⟩ := exists_walkRoot hl walk hkfirst hsfirst
    obtain ⟨final, hf, hfinal⟩ := ih next hkrest hsrest
    refine ⟨final, by rw [List.foldlM_cons, hn]; exact hf, fun node hm => ?_⟩
    rcases hfinal node hm with hm | hm
    · exact hnext node hm
    · exact .inr hm

end RestContract.Schema
