import Mathlib.Data.List.Forall2
import Mathlib.Data.Nat.BitIndices
import RestContract.Compile.Schema
import RestContract.Proofs.UsedNames

/-!
# The order of combinations

A number below `2 ^ n` stands for the places of its set bits in a list of `n` items. The selections of
the items are built by doubling, and the one at position `i` takes the items at the places of `i`. So
the combinations of members are told by sets of places, and equal members stay apart: the sets are
sorted by their sizes, and those of one size stand as their numbers do, since the sort is stable.
-/

namespace RestContract.Compile

variable {α : Type}

/-! ## Places -/

/-- The items at some places of a list. -/
def itemsAt (items : List α) (places : List Nat) : List α := places.filterMap (items[·]?)

theorem itemsAt_append (items : List α) (places more : List Nat) :
    itemsAt items (places ++ more) = itemsAt items places ++ itemsAt items more :=
  List.filterMap_append

/-- Places before the end do not see an item behind it. -/
theorem itemsAt_concat {items : List α} {places : List Nat} (h : ∀ k ∈ places, k < items.length)
    (item : α) : itemsAt (items ++ [item]) places = itemsAt items places :=
  List.filterMap_congr fun k hk => List.getElem?_append_left (h k hk)

theorem length_itemsAt {items : List α} {places : List Nat} (h : ∀ k ∈ places, k < items.length) :
    (itemsAt items places).length = places.length := by
  induction places with
  | nil => rfl
  | cons k rest ih =>
    obtain ⟨hk, hrest⟩ := List.forall_mem_cons.1 h
    rw [itemsAt, List.filterMap_cons_some (List.getElem?_eq_getElem hk), List.length_cons, ← itemsAt,
      ih hrest, List.length_cons]

theorem lt_of_mem_bitIndices {n i k : Nat} (hi : i < 2 ^ n) (hk : k ∈ i.bitIndices) : k < n := by
  have hle : 2 ^ k ≤ i := Nat.two_pow_le_of_mem_bitIndices hk
  exact (Nat.pow_lt_pow_iff_right (by decide)).1 (Nat.lt_of_le_of_lt hle hi)

theorem bitIndices_eq_nil_iff {i : Nat} : i.bitIndices = [] ↔ i = 0 := by
  constructor
  · intro h
    rw [← Nat.sum_map_two_pow_bitIndices i, h]
    rfl
  · rintro rfl
    exact Nat.bitIndices_zero

theorem bitIndices_two_pow_add {n i : Nat} (hi : i < 2 ^ n) :
    (2 ^ n + i).bitIndices = i.bitIndices ++ [n] := by
  have hsorted : (i.bitIndices ++ [n]).SortedLT := by
    rw [List.sortedLT_iff_pairwise, List.pairwise_append]
    refine ⟨Nat.bitIndices_sorted.pairwise, List.pairwise_singleton _ _, fun k hk m hm => ?_⟩
    rw [List.mem_singleton.1 hm]
    exact lt_of_mem_bitIndices hi hk
  have hsum : ((i.bitIndices ++ [n]).map fun k => 2 ^ k).sum = 2 ^ n + i := by
    rw [List.map_append, List.sum_append, Nat.sum_map_two_pow_bitIndices, Nat.add_comm]
    simp
  rw [← hsum, Nat.bitIndices_sum_map_two_pow hsorted]

/-- The selection at a position takes the items at the places of its set bits. -/
theorem powerSet_eq_map (items : List α) :
    powerSet items = (List.range (2 ^ items.length)).map fun i => itemsAt items i.bitIndices := by
  induction items using List.reverseRecOn with
  | nil => rfl
  | append_singleton items item ih =>
    have hplaces : ∀ i ∈ List.range (2 ^ items.length), ∀ k ∈ i.bitIndices, k < items.length :=
      fun i hi k hk => lt_of_mem_bitIndices (List.mem_range.1 hi) hk
    have hlength : 2 ^ (items ++ [item]).length = 2 ^ items.length + 2 ^ items.length := by
      rw [List.length_append, List.length_singleton, Nat.pow_succ, Nat.mul_two]
    rw [powerSet_concat, ih, hlength, List.range_add, List.map_append, List.map_map, List.map_map]
    congr 1
    · exact List.map_congr_left fun i hi => (itemsAt_concat (hplaces i hi) item).symm
    · refine List.map_congr_left fun i hi => ?_
      have hlast : itemsAt (items ++ [item]) [items.length] = [item] := by simp [itemsAt]
      rw [Function.comp_apply, Function.comp_apply, bitIndices_two_pow_add (List.mem_range.1 hi),
        itemsAt_append, itemsAt_concat (hplaces i hi), hlast]

/-! ## Sorting by size -/

/-- What is in order stays in order where the sort does not decide. -/
theorem pairwise_mergeSort_of_pairwise {le : α → α → Bool} {R : α → α → Prop} {items : List α}
    (htrans : ∀ a b c, le a b = true → le b c = true → le a c = true)
    (htotal : ∀ a b, (le a b || le b a) = true) (h : items.Pairwise R) :
    (items.mergeSort le).Pairwise fun a b => le a b = true ∧ (le b a = true → R a b) := by
  -- Each item is sorted together with its place, where the sort is stable by definition; distinct
  -- places then tell apart items that are equal.
  have hperm : (items.zipIdx.mergeSort (List.zipIdxLE le)).Perm items.zipIdx :=
    List.mergeSort_perm _ _
  have hsorted := List.pairwise_mergeSort (List.zipIdxLE_trans htrans) (List.zipIdxLE_total htotal)
    items.zipIdx
  have hdistinct : (items.zipIdx.mergeSort (List.zipIdxLE le)).Pairwise fun p q => p.2 ≠ q.2 := by
    rw [← List.pairwise_map (f := Prod.snd)]
    refine (hperm.map Prod.snd).nodup_iff.2 ?_
    rw [List.zipIdx_map_snd]
    exact List.nodup_range'
  rw [← List.mergeSort_zipIdx, List.pairwise_map]
  refine (hsorted.and hdistinct).imp_of_mem fun {p q} hp hq hpq => ?_
  obtain ⟨hle, hne⟩ := hpq
  have hplaces : le p.1 q.1 = true ∧ (le q.1 p.1 = true → p.2 ≤ q.2) := by
    unfold List.zipIdxLE at hle
    split at hle
    · next hforth =>
      refine ⟨hforth, fun hback => ?_⟩
      rw [if_pos hback] at hle
      exact of_decide_eq_true hle
    · cases hle
  refine ⟨hplaces.1, fun hback => ?_⟩
  have hlt : p.2 < q.2 := Nat.lt_of_le_of_ne (hplaces.2 hback) hne
  obtain ⟨hi, hpi⟩ := List.getElem?_eq_some_iff.1 (List.mem_zipIdx_iff_getElem?.1 (hperm.mem_iff.1 hp))
  obtain ⟨hj, hqj⟩ := List.getElem?_eq_some_iff.1 (List.mem_zipIdx_iff_getElem?.1 (hperm.mem_iff.1 hq))
  rw [← hpi, ← hqj]
  exact List.pairwise_iff_getElem.1 h _ _ hi hj hlt

/-- The number whose set bits are at some places. -/
def bitMask (places : List Nat) : Nat := (places.map fun k => 2 ^ k).sum

/-- The sets of some of `n` places, the larger ones first and those of one size by their numbers. -/
structure IsBySize (n : Nat) (sets : List (List Nat)) : Prop where
  mem_iff : ∀ places, places ∈ sets ↔
    places.SortedLT ∧ (∀ k ∈ places, k < n) ∧ places ≠ []
  ordered : sets.Pairwise fun a b =>
    b.length < a.length ∨ a.length = b.length ∧ bitMask a < bitMask b
  length_eq : sets.length = 2 ^ n - 1

/-- The numbers of the selections of at least one of `n` items, in the order of the selections. -/
def sortedMasks (n : Nat) : List Nat :=
  ((List.range (2 ^ n)).filter (· ≠ 0)).mergeSort
    fun i j => j.bitIndices.length ≤ i.bitIndices.length

theorem mem_sortedMasks {n i : Nat} : i ∈ sortedMasks n ↔ i < 2 ^ n ∧ i ≠ 0 := by
  rw [sortedMasks, List.mem_mergeSort, List.mem_filter, List.mem_range, decide_eq_true_eq]

theorem length_sortedMasks (n : Nat) : (sortedMasks n).length = 2 ^ n - 1 := by
  have hrange : List.range (2 ^ n) = 0 :: (List.range (2 ^ n - 1)).map Nat.succ := by
    rw [← List.range_succ_eq_map, Nat.sub_add_cancel Nat.one_le_two_pow]
  rw [sortedMasks, List.length_mergeSort, hrange, List.filter_cons_of_neg (by simp),
    List.filter_eq_self.2 (by simp), List.length_map, List.length_range]

theorem pairwise_sortedMasks (n : Nat) : (sortedMasks n).Pairwise fun i j =>
    j.bitIndices.length < i.bitIndices.length ∨
      i.bitIndices.length = j.bitIndices.length ∧ i < j := by
  have hascending : ((List.range (2 ^ n)).filter (· ≠ 0)).Pairwise (· < ·) :=
    List.pairwise_lt_range.filter _
  refine (pairwise_mergeSort_of_pairwise ?_ ?_ hascending).imp fun {i j} h => ?_
  · intro i j k hij hjk
    rw [decide_eq_true_eq] at hij hjk ⊢
    exact Nat.le_trans hjk hij
  · intro i j
    rw [Bool.or_eq_true, decide_eq_true_eq, decide_eq_true_eq]
    exact Nat.le_total _ _
  · obtain ⟨hle, hlt⟩ := h
    rw [decide_eq_true_eq] at hle hlt
    rcases Nat.lt_or_eq_of_le hle with hless | hsame
    · exact .inl hless
    · exact .inr ⟨hsame.symm, hlt hsame.symm.le⟩

theorem isBySize_sortedMasks (n : Nat) : IsBySize n ((sortedMasks n).map Nat.bitIndices) where
  mem_iff := by
    intro places
    rw [List.mem_map]
    constructor
    · rintro ⟨i, hi, rfl⟩
      obtain ⟨hlt, hne⟩ := mem_sortedMasks.1 hi
      exact ⟨Nat.bitIndices_sorted, fun k hk => lt_of_mem_bitIndices hlt hk,
        bitIndices_eq_nil_iff.not.2 hne⟩
    · rintro ⟨hsorted, hlt, hne⟩
      have hplaces : (bitMask places).bitIndices = places := Nat.bitIndices_sum_map_two_pow hsorted
      refine ⟨bitMask places, mem_sortedMasks.2 ⟨?_, fun hzero => hne ?_⟩, hplaces⟩
      · refine Nat.lt_pow_two_of_testBit _ fun k hk => ?_
        rw [Bool.eq_false_iff, ne_eq, ← Nat.mem_bitIndices, hplaces]
        exact fun hm => absurd (hlt k hm) (Nat.not_lt.2 hk)
      · rw [← hplaces, hzero, Nat.bitIndices_zero]
  ordered := by
    rw [List.pairwise_map]
    refine (pairwise_sortedMasks n).imp fun {i j} h => ?_
    rwa [bitMask, bitMask, Nat.sum_map_two_pow_bitIndices, Nat.sum_map_two_pow_bitIndices]
  length_eq := by rw [List.length_map, length_sortedMasks]

/-- The selections of at least one item are those of the sets of places. -/
theorem selections_eq_map (items : List α) :
    selections items = (sortedMasks items.length).map fun i => itemsAt items i.bitIndices := by
  have hlength : ∀ i ∈ (List.range (2 ^ items.length)).filter (· ≠ 0),
      (itemsAt items i.bitIndices).length = i.bitIndices.length := by
    intro i hi
    have hlt := List.mem_range.1 (List.mem_filter.1 hi).1
    exact length_itemsAt fun k hk => lt_of_mem_bitIndices hlt hk
  have hnonempty : ∀ i ∈ List.range (2 ^ items.length),
      ((fun selection => !selection.isEmpty) ∘ fun i => itemsAt items i.bitIndices) i =
        decide (i ≠ 0) := by
    intro i hi
    have hlt : ∀ k ∈ i.bitIndices, k < items.length :=
      fun k hk => lt_of_mem_bitIndices (List.mem_range.1 hi) hk
    have hnil : itemsAt items i.bitIndices = [] ↔ i = 0 := by
      rw [← List.length_eq_zero_iff, length_itemsAt hlt, List.length_eq_zero_iff,
        bitIndices_eq_nil_iff]
    rw [Function.comp_apply, Bool.eq_iff_iff, Bool.not_eq_true', decide_eq_true_eq,
      List.isEmpty_eq_false_iff, ne_eq, hnil]
  rw [sortedMasks, selections, powerSet_eq_map, List.filter_map, List.filter_congr hnonempty]
  refine (List.map_mergeSort fun i hi j hj => ?_).symm
  rw [hlength i hi, hlength j hj]

/-! ## Unions of combinations -/

/-- A validator is the first of the members at some places, into which the others are merged one
    after the other. -/
def IsMerged (members : List Expr) (places : List Nat) (e : Expr) : Prop :=
  ∃ first rest, itemsAt members places = first :: rest ∧
    e = Expr.chain first (rest.map fun member => .call "merge" [member])

theorem isMerged_joinBy {members : List Expr} {places : List Nat}
    (h : ∀ k ∈ places, k < members.length) (hne : places ≠ []) :
    IsMerged members places (joinBy "merge" (itemsAt members places)) := by
  have hitems : itemsAt members places ≠ [] := by
    rwa [← List.length_pos_iff, length_itemsAt h, List.length_pos_iff]
  obtain ⟨first, rest, hcons⟩ := List.exists_cons_of_ne_nil hitems
  refine ⟨first, rest, hcons, ?_⟩
  rw [hcons, joinBy]

theorem union_of_two_le {members : List Expr} (h : 2 ≤ members.length) :
    union members = Expr.z "union" [.array members] := by
  unfold union
  split
  · simp at h
  · rfl

variable {inner : Nat → Compiler} {value : Value} {parts : List Value} {es : List Expr}

/-- The validators of the members are combined, whatever compiles them. -/
theorem result_alternatives (hp : value.asParts = .ok parts)
    (hm : List.Forall₂ (fun part e => (inner 4 part .unstated).result = .ok e) parts es)
    (hl : parts.length ≤ maxAlternatives) : (alternatives inner value).result = .ok (anyOf es) := by
  have hmembers : (members inner 4 value).result = .ok es := by
    rw [members, hp, Traced.result_bind, Traced.result_liftM, ok_bind]
    exact Traced.result_mapM_eq_ok_iff.2 hm
  rw [alternatives, hp, Traced.result_bind, Traced.result_liftM, ok_bind, if_neg (Nat.not_lt.2 hl),
    Traced.result_bind, hmembers]
  rfl

theorem anyOf_singleton (e : Expr) : anyOf [e] = e := by
  have hsole : selections [e] = [[e]] := by simp [selections, powerSet]
  rw [anyOf, hsole]
  rfl

theorem anyOf_eq_union (h : 2 ≤ es.length) : ∃ sets merged, IsBySize es.length sets ∧
    List.Forall₂ (IsMerged es) sets merged ∧ anyOf es = Expr.z "union" [.array merged] := by
  have hsets := isBySize_sortedMasks es.length
  refine ⟨_, ((sortedMasks es.length).map Nat.bitIndices).map fun places =>
    joinBy "merge" (itemsAt es places), hsets, ?_, ?_⟩
  · rw [List.forall₂_map_right_iff, List.forall₂_same]
    intro places hm
    obtain ⟨_, hlt, hne⟩ := (hsets.mem_iff places).1 hm
    exact isMerged_joinBy hlt hne
  · have hpow : 2 ^ 2 ≤ 2 ^ es.length := Nat.pow_le_pow_right (by decide) h
    rw [anyOf, selections_eq_map, List.map_map, List.map_map]
    refine union_of_two_le ?_
    rw [List.length_map, length_sortedMasks]
    omega

/-- The selections of a list are told by the set bits of their positions, and the validator of two to
    eight alternatives is the union of one alternative for each set of places, where the members at
    these places are merged. -/
theorem combinations_by_size :
    (∀ {α : Type} (items : List α), (powerSet items).length = 2 ^ items.length ∧
      ∀ i < 2 ^ items.length, (powerSet items)[i]? = some (itemsAt items i.bitIndices)) ∧
    ∀ {inner : Nat → Compiler} {value : Value} {parts : List Value} {es : List Expr},
      value.asParts = .ok parts →
      List.Forall₂ (fun part e => (inner 4 part .unstated).result = .ok e) parts es →
      (parts.length = 1 → ∃ e, es = [e] ∧ (alternatives inner value).result = .ok e) ∧
      (2 ≤ parts.length → parts.length ≤ 8 → ∃ sets merged, IsBySize parts.length sets ∧
        List.Forall₂ (IsMerged es) sets merged ∧
        (alternatives inner value).result = .ok (Expr.z "union" [.array merged])) := by
  refine ⟨fun items => ⟨?_, fun i hi => ?_⟩, fun {inner value parts es} hp hm => ⟨?_, ?_⟩⟩
  · rw [powerSet_eq_map, List.length_map, List.length_range]
  · rw [powerSet_eq_map, List.getElem?_map, List.getElem?_range hi]
    rfl
  · intro hone
    obtain ⟨e, rfl⟩ := List.length_eq_one_iff.1 (hm.length_eq.symm.trans hone)
    have hresult := result_alternatives hp hm (by rw [hone]; decide)
    rw [anyOf_singleton] at hresult
    exact ⟨e, rfl, hresult⟩
  · intro htwo height
    have hresult := result_alternatives hp hm height
    rw [hm.length_eq] at htwo ⊢
    obtain ⟨sets, merged, hsets, hmerged, heq⟩ := anyOf_eq_union htwo
    exact ⟨sets, merged, hsets, hmerged, heq ▸ hresult⟩

/-- Three alternatives, of which two are the same. -/
def twinChoice : Value :=
  .ofItems [.object [("type", .text "string")], .object [], .object [("type", .text "string")]]

theorem combinations_by_size_twins :
    let es := [Expr.z "string" [], Expr.z "unknown" [], Expr.z "string" []]
    let inner : Nat → Compiler := fun _ => compile .bare
    ((powerSet es).length = 8 ∧ (powerSet es)[5]? = some [Expr.z "string" [], Expr.z "string" []]) ∧
      List.Forall₂ (fun part e => (inner 4 part .unstated).result = .ok e)
        [.object [("type", .text "string")], .object [], .object [("type", .text "string")]] es ∧
      ∃ sets merged, IsBySize 3 sets ∧ List.Forall₂ (IsMerged es) sets merged ∧
        (alternatives inner twinChoice).result = .ok (Expr.z "union" [.array merged]) := by
  intro es inner
  have hmembers : List.Forall₂ (fun part e => (inner 4 part .unstated).result = .ok e)
      [.object [("type", .text "string")], .object [], .object [("type", .text "string")]] es :=
    .cons rfl (.cons rfl (.cons rfl .nil))
  obtain ⟨hsubsets, hunion⟩ := combinations_by_size
  obtain ⟨hlength, hplaces⟩ := hsubsets es
  have hfive : (powerSet es)[5]? = some (itemsAt es (Nat.bitIndices 5)) := hplaces 5 (by decide)
  refine ⟨⟨hlength, hfive⟩, hmembers, ?_⟩
  exact (hunion rfl hmembers).2 (by decide) (by decide)

end RestContract.Compile
