import RestContract.Proofs.ConstantText
import RestContract.Proofs.ReferenceKinds

/-!
# Chains of references

From a text on, each reference of a chain is the one that the component named by the reference before
it consists of. Resolving the text follows the chain as far as its components are references and
written for the kind of the text, over a limited number of steps. What comes out is settled by the
place where the chain stops: it is a component, or one of the failures, and each of them says which
reference it is about.

A chain that comes back to one of its references goes on forever, so resolving it fails at the limit.
-/

namespace RestContract

/-- A document whose components are a map, if it has any. -/
def HasComponents (document : Value) : Prop :=
  ∃ fields mark, document = .map fields mark ∧ (Fields.get? fields "components" = none ∨
    ∃ kinds mark, Fields.get? fields "components" = some (.map kinds mark))

theorem HasComponents.exists_map {document components : Value} (h : HasComponents document)
    (hc : Components.ofDocument document = .ok components) :
    ∃ kinds mark, components = .map kinds mark := by
  obtain ⟨fields, mark, rfl, hnone | ⟨kinds, own, hsome⟩⟩ := h
  all_goals
    have heq : (Fields.get fields "components").orEmptyMap = components := Except.ok.inj hc
  · refine ⟨[], none, ?_⟩
    rw [← heq, Fields.get, hnone]
    rfl
  · rw [← heq, Fields.get, hsome, Option.getD_some, Value.orEmptyMap]
    split
    · exact ⟨[], none, rfl⟩
    · exact ⟨kinds, own, rfl⟩

theorem HasComponents.exists_ofDocument {document : Value} (h : HasComponents document) :
    ∃ components, Components.ofDocument document = .ok components := by
  obtain ⟨fields, mark, rfl, _⟩ := h
  exact ⟨_, rfl⟩

theorem Value.shown_text (text : String) : (Value.text text).shown = .ok text := rfl

/-- What cannot be read as a reference is refused under the form in which a message shows it. -/
theorem Reference.parse_of_unreadable {ref : Value} (h : ∀ r, parse ref ≠ .ok r) :
    parse ref = ref.shown >>= fun text => .error (.malformedReference text) := by
  unfold parse at h ⊢
  split
  · next text =>
    rw [Value.shown_text, ok_bind]
    split
    · next r hr => exact absurd (by simp [hr]) (h r)
    · rfl
  · rfl

namespace Components

/-- The component that a reference names, if there is one and it is a map. -/
def component? (components ref : Value) : Option Fields :=
  match Reference.parse ref with
  | .ok r => (lookup components r).toOption.join
  | .error _ => none

/-- The references of a chain. Each but the first is the one that the component before it consists
    of, so the chain ends at a component that is no reference, and where there is no component. -/
def chain (components ref : Value) : Nat → Option Value
  | 0 => some ref
  | n + 1 => do (← component? components (← chain components ref n)).get? "$ref"

/-- The first references of a chain are all written for a kind, and their components are references
    again. -/
def Continues (components : Value) (kind : ComponentKind) (ref : Value) (n : Nat) : Prop :=
  ∀ i < n, ∃ current found next, chain components ref i = some current ∧ NamesKind kind current ∧
    component? components current = some found ∧ found.get? "$ref" = some next

/-- What resolving a text comes to. -/
inductive Settles (components : Value) (ref : String) : Except Error Fields → Prop where
  /-- The chain leads to a component that is no reference. -/
  | found {kind : ComponentKind} {n : Nat} {current : Value} {fields : Fields} (hn : n ≤ maxDepth)
    (h : Continues components kind (.text ref) n)
    (hc : chain components (.text ref) n = some current) (hk : NamesKind kind current)
    (hf : component? components current = some fields) (hp : fields.get? "$ref" = none) :
    Settles components ref (.ok fields)
  /-- The chain comes to something that cannot be read as a reference, which is named. -/
  | malformed {kind : ComponentKind} {n : Nat} {current : Value} {shown : String}
    (hn : n ≤ maxDepth) (h : Continues components kind (.text ref) n)
    (hc : chain components (.text ref) n = some current)
    (hu : ∀ r, Reference.parse current ≠ .ok r) (hs : current.shown = .ok shown) :
    Settles components ref (.error (.malformedReference shown))
  /-- The chain comes to something that cannot be read as a reference, and that no message can
      name. -/
  | unwritable {kind : ComponentKind} {n : Nat} {current : Value} {fault : Error}
    (hn : n ≤ maxDepth) (h : Continues components kind (.text ref) n)
    (hc : chain components (.text ref) n = some current)
    (hu : ∀ r, Reference.parse current ≠ .ok r) (hs : current.shown = .error fault) :
    Settles components ref (.error fault)
  /-- The chain comes to a reference to another kind, or to none of the components. The text is
      named. -/
  | unresolved {kind : ComponentKind} {n : Nat} {current : Value} {r : Reference}
    (hfirst : NamesKind kind (.text ref)) (hn : n ≤ maxDepth)
    (h : Continues components kind (.text ref) n)
    (hc : chain components (.text ref) n = some current) (hr : Reference.parse current = .ok r)
    (hbad : r.kind ≠ kind ∨ component? components current = none) :
    Settles components ref (.error (.unresolvedReference ref))
  /-- The chain goes on beyond the limit. The text is named, whatever comes next. -/
  | endless {kind : ComponentKind} (h : Continues components kind (.text ref) (maxDepth + 1)) :
    Settles components ref (.error (.referenceDepth ref))

variable {components ref current : Value} {kind : ComponentKind} {fields : Fields} {n : Nat}

/-! ## Steps along a chain -/

theorem component?_of_parse {r : Reference} (h : Reference.parse ref = .ok r) :
    component? components ref = (lookup components r).toOption.join := by
  rw [component?, h]

theorem exists_lookup_map (kinds : Fields) (mark : Option Nat) (r : Reference) :
    ∃ found, lookup (.map kinds mark) r = .ok found := by
  unfold lookup
  rw [Value.asFields, ok_bind]
  split
  · split <;> exact ⟨_, rfl⟩
  · exact ⟨_, rfl⟩

theorem lookup_eq_component? (hm : ∃ kinds mark, components = .map kinds mark) {r : Reference}
    (h : Reference.parse ref = .ok r) : lookup components r = .ok (component? components ref) := by
  obtain ⟨kinds, mark, rfl⟩ := hm
  obtain ⟨found, hl⟩ := exists_lookup_map kinds mark r
  rw [component?_of_parse h, hl]
  rfl

theorem named_of_component (hm : ∃ kinds mark, components = .map kinds mark) {asked : Value}
    (hk : NamesKind kind ref) (hf : component? components ref = some fields) :
    named components asked kind ref = .ok fields := by
  obtain ⟨r, hr, hk⟩ := hk
  rw [named_eq_ok_iff]
  exact ⟨r, hr, hk, by rw [lookup_eq_component? hm hr, hf]⟩

theorem named_of_unreadable {asked : Value} {e : Error} (h : Reference.parse ref = .error e) :
    named components asked kind ref = .error e := by
  rw [named, h]
  rfl

theorem named_of_missing (hm : ∃ kinds mark, components = .map kinds mark) {asked : Value}
    {r : Reference} (hr : Reference.parse ref = .ok r)
    (hbad : r.kind ≠ kind ∨ component? components ref = none) :
    named components asked kind ref = .error (.unresolvedReference asked.display) := by
  by_cases hk : r.kind = kind
  · rw [named, hr, ok_bind, if_pos hk, lookup_eq_component? hm hr,
      hbad.resolve_left (absurd hk)]
    rfl
  · exact named_of_stray hr hk

theorem follow_of_error {asked : Value} {room : Nat} {e : Error}
    (h : named components asked kind ref = .error e) :
    follow components asked kind room ref = .error e := by
  cases room <;> rw [follow, h] <;> rfl

theorem follow_of_found {asked : Value} {room : Nat}
    (h : named components asked kind ref = .ok fields) (hp : fields.get? "$ref" = none) :
    follow components asked kind room ref = .ok fields := by
  cases room <;> rw [follow, h, ok_bind] <;> simp [Fields.has, hp] <;> rfl

theorem chain_succ {found : Fields} (hc : chain components ref n = some current)
    (hf : component? components current = some found) :
    chain components ref (n + 1) = found.get? "$ref" := by
  rw [chain, hc, Option.bind_eq_bind, Option.bind_some, hf]
  rfl

theorem Continues.mono {m : Nat} (h : Continues components kind ref n) (hle : m ≤ n) :
    Continues components kind ref m := fun i hi => h i (Nat.lt_of_lt_of_le hi hle)

theorem continues_zero (components : Value) (kind : ComponentKind) (ref : Value) :
    Continues components kind ref 0 := fun i hi => absurd hi (Nat.not_lt_zero i)

theorem Continues.exists_chain (h : Continues components kind ref n) :
    ∃ current, chain components ref n = some current := by
  cases n with
  | zero => exact ⟨ref, rfl⟩
  | succ n =>
    obtain ⟨current, found, next, hc, _, hf, hr⟩ := h n (Nat.lt_succ_self n)
    exact ⟨next, by rw [chain_succ hc hf, hr]⟩

/-- Following a chain as far as it continues. -/
theorem follow_of_continues (hm : ∃ kinds mark, components = .map kinds mark) {asked : Value}
    {room : Nat} (h : Continues components kind ref n) (hle : n ≤ room)
    (hc : chain components ref n = some current) :
    follow components asked kind room ref = follow components asked kind (room - n) current := by
  induction n generalizing current with
  | zero =>
    cases hc
    rfl
  | succ n ih =>
    obtain ⟨before, found, next, hbefore, hk, hf, hr⟩ := h n (Nat.lt_succ_self n)
    rw [chain_succ hbefore hf, hr] at hc
    cases hc
    rw [ih (h.mono (Nat.le_succ n)) (by omega) hbefore]
    obtain ⟨left, hleft⟩ : ∃ left, room - n = left + 1 := ⟨room - (n + 1), by omega⟩
    have hrest : room - (n + 1) = left := by omega
    rw [hleft, hrest, follow, named_of_component hm hk hf, ok_bind, hr]

theorem Continues.namesKind (h : Continues components kind ref (n + 1)) : NamesKind kind ref := by
  obtain ⟨current, _, _, hc, hk, _⟩ := h 0 (Nat.succ_pos n)
  cases hc
  exact hk

theorem resolve_of_namesKind (h : NamesKind kind ref) :
    resolve components ref = follow components ref kind maxDepth ref := by
  obtain ⟨r, hr, rfl⟩ := h
  rw [resolve, hr]
  rfl

/-- Where a chain of the kind comes to, if its first reference is of that kind. -/
theorem namesKind_of_continues (h : Continues components kind ref n)
    (hc : chain components ref n = some current) (hk : NamesKind kind current) :
    NamesKind kind ref := by
  cases n with
  | zero =>
    cases hc
    exact hk
  | succ n => exact h.namesKind

/-! ## Outcomes -/

theorem resolve_of_unreadable (hm : ∃ kinds mark, components = .map kinds mark)
    (hn : n ≤ maxDepth) (h : Continues components kind ref n)
    (hc : chain components ref n = some current) {e : Error}
    (hp : Reference.parse current = .error e) : resolve components ref = .error e := by
  cases n with
  | zero =>
    cases hc
    rw [resolve, hp]
    rfl
  | succ n =>
    rw [resolve_of_namesKind h.namesKind, follow_of_continues hm h hn hc]
    exact follow_of_error (named_of_unreadable hp)

theorem resolve_of_settles (hm : ∃ kinds mark, components = .map kinds mark) {ref : String}
    {outcome : Except Error Fields} (h : Settles components ref outcome) :
    resolve components (.text ref) = outcome := by
  cases h with
  | @found kind n current fields hn h hc hk hf hp =>
    rw [resolve_of_namesKind (namesKind_of_continues h hc hk), follow_of_continues hm h hn hc]
    exact follow_of_found (named_of_component hm hk hf) hp
  | malformed hn h hc hu hs | unwritable hn h hc hu hs =>
    refine resolve_of_unreadable hm hn h hc ?_
    rw [Reference.parse_of_unreadable hu, hs]
    rfl
  | unresolved hfirst hn h hc hr hbad =>
    rw [resolve_of_namesKind hfirst, follow_of_continues hm h hn hc]
    exact follow_of_error (named_of_missing hm hr hbad)
  | endless h =>
    obtain ⟨current, found, next, hc, hk, hf, hr⟩ := h maxDepth (Nat.lt_succ_self _)
    rw [resolve_of_namesKind h.namesKind, follow_of_continues hm (h.mono (Nat.le_succ _)) le_rfl hc,
      Nat.sub_self, follow, named_of_component hm hk hf, ok_bind]
    simp [Fields.has, hr]
    rfl

/-- A chain continues up to any place, or it stops before. -/
theorem continues_or_stops (components : Value) (kind : ComponentKind) (ref : Value) (n : Nat) :
    Continues components kind ref n ∨
      ∃ m < n, Continues components kind ref m ∧ ¬ Continues components kind ref (m + 1) := by
  induction n with
  | zero => exact .inl (continues_zero components kind ref)
  | succ n ih =>
    rcases ih with h | ⟨m, hm, h, hstop⟩
    · by_cases hnext : Continues components kind ref (n + 1)
      · exact .inl hnext
      · exact .inr ⟨n, Nat.lt_succ_self n, h, hnext⟩
    · exact .inr ⟨m, Nat.lt_succ_of_lt hm, h, hstop⟩

theorem Continues.succ {found : Fields} {next : Value} (h : Continues components kind ref n)
    (hc : chain components ref n = some current) (hk : NamesKind kind current)
    (hf : component? components current = some found) (hr : found.get? "$ref" = some next) :
    Continues components kind ref (n + 1) := by
  intro i hi
  rcases Nat.lt_succ_iff_lt_or_eq.1 hi with hi | rfl
  · exact h i hi
  · exact ⟨current, found, next, hc, hk, hf, hr⟩

theorem settles_of_unreadable {ref : String} (hn : n ≤ maxDepth)
    (h : Continues components kind (.text ref) n)
    (hc : chain components (.text ref) n = some current)
    (hu : ∀ r, Reference.parse current ≠ .ok r) : ∃ outcome, Settles components ref outcome := by
  cases hs : current.shown with
  | ok shown => exact ⟨_, .malformed hn h hc hu hs⟩
  | error fault => exact ⟨_, .unwritable hn h hc hu hs⟩

/-- Every text comes to something. -/
theorem exists_settles (components : Value) (ref : String) :
    ∃ outcome, Settles components ref outcome := by
  by_cases hu : ∀ r, Reference.parse (.text ref) ≠ .ok r
  · exact settles_of_unreadable (Nat.zero_le _) (continues_zero components .schemas (.text ref))
      rfl hu
  · simp only [ne_eq, not_forall, not_not] at hu
    obtain ⟨first, hfirst⟩ := hu
    have hkind : NamesKind first.kind (.text ref) := ⟨first, hfirst, rfl⟩
    rcases continues_or_stops components first.kind (.text ref) (maxDepth + 1) with
      h | ⟨n, hlt, h, hstop⟩
    · exact ⟨_, .endless h⟩
    · have hn : n ≤ maxDepth := Nat.lt_succ_iff.1 hlt
      obtain ⟨current, hc⟩ := h.exists_chain
      by_cases hu : ∀ r, Reference.parse current ≠ .ok r
      · exact settles_of_unreadable hn h hc hu
      · simp only [ne_eq, not_forall, not_not] at hu
        obtain ⟨r, hr⟩ := hu
        by_cases hk : r.kind = first.kind
        · cases hf : component? components current with
          | none => exact ⟨_, .unresolved hkind hn h hc hr (.inr hf)⟩
          | some fields =>
            cases hp : fields.get? "$ref" with
            | none => exact ⟨_, .found hn h hc ⟨r, hr, hk⟩ hf hp⟩
            | some next => exact absurd (h.succ hc ⟨r, hr, hk⟩ hf hp) hstop
        · exact ⟨_, .unresolved hkind hn h hc hr (.inl hk)⟩

theorem resolve_eq_iff_settles (hm : ∃ kinds mark, components = .map kinds mark) {ref : String}
    {outcome : Except Error Fields} :
    resolve components (.text ref) = outcome ↔ Settles components ref outcome := by
  constructor
  · rintro rfl
    obtain ⟨outcome, h⟩ := exists_settles components ref
    rwa [resolve_of_settles hm h]
  · exact resolve_of_settles hm

/-! ## Chains within chains -/

theorem chain_add (hc : chain components ref n = some current) (m : Nat) :
    chain components ref (n + m) = chain components current m := by
  induction m with
  | zero => exact hc
  | succ m ih => rw [← Nat.add_assoc, chain, chain, ih]

/-- The rest of a chain continues as far as the chain does. -/
theorem Continues.rest {m : Nat} (h : Continues components kind ref (n + m))
    (hc : chain components ref n = some current) : Continues components kind current m := by
  intro i hi
  obtain ⟨later, found, next, hl, hrest⟩ := h (n + i) (by omega)
  rw [chain_add hc] at hl
  exact ⟨later, found, next, hl, hrest⟩

/-- A chain that comes back to one of its references goes on forever. -/
theorem Continues.forever {first : Nat} (h : Continues components kind ref n) (hlt : first < n)
    (hback : chain components ref first = chain components ref n) (m : Nat) :
    Continues components kind ref m := by
  obtain ⟨current, hc⟩ := h.exists_chain
  have hall : ∀ i, Continues components kind ref (i + 1) := by
    intro i
    induction i using Nat.strong_induction_on with
    | _ i ih =>
      by_cases hi : i < n
      · exact h.mono hi
      · -- The place is one turn further than an earlier one.
        obtain ⟨ahead, rfl⟩ : ∃ ahead, i = n + ahead := ⟨i - n, by omega⟩
        intro j hj
        rcases Nat.lt_succ_iff_lt_or_eq.1 hj with hj | rfl
        · exact ih j hj j (Nat.lt_succ_self j)
        · obtain ⟨later, found, next, hl, hrest⟩ :=
            ih (first + ahead) (by omega) (first + ahead) (Nat.lt_succ_self _)
          rw [chain_add (hback.trans hc)] at hl
          exact ⟨later, found, next, by rw [chain_add hc, hl], hrest⟩
  exact (hall m).mono (Nat.le_succ m)

/-- Every reference on the way to a component resolves to it. -/
theorem resolve_along (hm : ∃ kinds mark, components = .map kinds mark) {last : Value}
    (hn : n ≤ maxDepth) (h : Continues components kind ref n)
    (hc : chain components ref n = some last) (hk : NamesKind kind last)
    (hf : component? components last = some fields) (hp : fields.get? "$ref" = none) {i : Nat}
    (hi : i ≤ n) : ∃ current, chain components ref i = some current ∧
      resolve components current = .ok fields := by
  obtain ⟨left, rfl⟩ : ∃ left, n = i + left := ⟨n - i, by omega⟩
  obtain ⟨current, hcurrent⟩ := (h.mono hi).exists_chain
  have hrest := h.rest hcurrent
  rw [chain_add hcurrent] at hc
  refine ⟨current, hcurrent, ?_⟩
  rw [resolve_of_namesKind (namesKind_of_continues hrest hc hk),
    follow_of_continues hm hrest (by omega) hc]
  exact follow_of_found (named_of_component hm hk hf) hp

/-! ## Resolving a text -/

/-- What resolving a text comes to, in documents whose components are a map or absent. A chain of
    one kind that comes back to one of its references leads to no component, and where a text leads
    to a component, the references on the way lead there too. -/
theorem resolve_exactly {document : Value} (hd : HasComponents document) :
    ∃ components, ofDocument document = .ok components ∧ ∀ ref : String,
      (∀ outcome, resolve components (.text ref) = outcome ↔ Settles components ref outcome) ∧
      (∀ kind first n, first < n → Continues components kind (.text ref) n →
        chain components (.text ref) first = chain components (.text ref) n →
          resolve components (.text ref) = .error (.referenceDepth ref)) ∧
      ∀ fields, resolve components (.text ref) = .ok fields →
        ∃ n ≤ maxDepth, ∃ last, chain components (.text ref) n = some last ∧
          component? components last = some fields ∧ fields.get? "$ref" = none ∧
          ∀ i ≤ n, ∃ current, chain components (.text ref) i = some current ∧
            resolve components current = .ok fields := by
  obtain ⟨components, hc⟩ := hd.exists_ofDocument
  have hm := hd.exists_map hc
  refine ⟨components, hc, fun ref => ⟨fun outcome => resolve_eq_iff_settles hm, ?_, ?_⟩⟩
  · intro kind first n hlt h hback
    exact resolve_of_settles hm (.endless (h.forever hlt hback (maxDepth + 1)))
  · intro fields hok
    cases (resolve_eq_iff_settles hm).1 hok with
    | found hn h hc hk hf hp =>
      exact ⟨_, hn, _, hc, hf, hp, fun i hi => resolve_along hm hn h hc hk hf hp hi⟩

/-- Two schemas that are references to each other, and one that is a reference to a fourth. -/
def aliases : Value := .object [
  ("A", .object [("$ref", .text "#/components/schemas/B")]),
  ("B", .object [("$ref", .text "#/components/schemas/A")]),
  ("C", .object [("$ref", .text "#/components/schemas/D")]),
  ("D", .object [("type", .text "string")])]

def aliasComponents : Value := .object [("schemas", aliases)]

def aliasDocument : Value := .object [("components", aliasComponents)]

theorem resolve_exactly_aliases :
    HasComponents aliasDocument ∧ ofDocument aliasDocument = .ok aliasComponents ∧
      resolve aliasComponents (.text "#/components/schemas/A") =
        .error (.referenceDepth "#/components/schemas/A") ∧
      resolve aliasComponents (.text "#/components/schemas/C") =
        .ok [(.text "type", .text "string")] := by
  have hd : HasComponents aliasDocument := ⟨_, _, rfl, .inr ⟨_, _, rfl⟩⟩
  have hc : ofDocument aliasDocument = .ok aliasComponents := rfl
  obtain ⟨components, hc', hresolve⟩ := resolve_exactly hd
  cases hc.symm.trans hc'
  have hstep : Continues aliasComponents .schemas (.text "#/components/schemas/A") 1 :=
    (continues_zero _ _ _).succ rfl ⟨_, rfl, rfl⟩ rfl rfl
  have hcycle : Continues aliasComponents .schemas (.text "#/components/schemas/A") 2 :=
    hstep.succ rfl ⟨_, rfl, rfl⟩ rfl rfl
  have hends : Continues aliasComponents .schemas (.text "#/components/schemas/C") 1 :=
    (continues_zero _ _ _).succ rfl ⟨_, rfl, rfl⟩ rfl rfl
  exact ⟨hd, hc, (hresolve _).2.1 .schemas 0 2 (by decide) hcycle rfl,
    ((hresolve _).1 _).2 (.found (by decide) hends rfl ⟨_, rfl, rfl⟩ rfl rfl)⟩

/-- A schema that is a reference by a number. -/
def numberedComponents (n : Int) : Value :=
  .object [("schemas", .object [("A", .object [("$ref", .int n)])])]

theorem continues_numbered (n : Int) :
    Continues (numberedComponents n) .schemas (.text "#/components/schemas/A") 1 :=
  (continues_zero _ _ _).succ rfl ⟨_, rfl, rfl⟩ rfl rfl

theorem parse_int_ne (n : Int) (r : Reference) : Reference.parse (.int n) ≠ .ok r := by
  intro h
  obtain ⟨text, ht, _⟩ := Reference.exists_text_of_parse h
  cases ht

/-- A chain that comes to a number with too many digits fails without naming it. -/
theorem resolve_numbered {n : Int} (h : (Scalar.int n).isShowable = false) :
    resolve (numberedComponents n) (.text "#/components/schemas/A") = .error (.fault .badText) := by
  have hs : (Value.int n).shown = .error (.fault .badText) := by
    simp [Value.shown, Value.isShowableIn, h]
  exact resolve_of_settles ⟨_, _, rfl⟩
    (.unwritable (by decide) (continues_numbered n) rfl (parse_int_ne n) hs)

/-- What no reference can be read from is not always named by the failure. -/
theorem exists_unwritable_reference :
    ∃ (document components current : Value) (ref : String), HasComponents document ∧
      ofDocument document = .ok components ∧ Continues components .schemas (.text ref) 1 ∧
      chain components (.text ref) 1 = some current ∧ (∀ r, Reference.parse current ≠ .ok r) ∧
      ∀ shown, resolve components (.text ref) ≠ .error (.malformedReference shown) := by
  have hlong : (Scalar.int (10 ^ Text.maxDigits)).isShowable = false :=
    Bool.eq_false_iff.2 fun h => not_isShort_pow ((isShowable_int_iff _).1 h)
  refine ⟨.object [("components", numberedComponents (10 ^ Text.maxDigits))], _, _, _,
    ⟨_, _, rfl, .inr ⟨_, _, rfl⟩⟩, rfl, continues_numbered _, rfl, parse_int_ne _, ?_⟩
  intro shown heq
  cases (resolve_numbered hlong).symm.trans heq

end Components
end RestContract
