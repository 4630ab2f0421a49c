import RestContract.Expr.Basic

/-!
# Combinations of members

How the compiled members of a composition are put together: as a union, as an intersection, or as
the union of all ways to merge some of the members.
-/

namespace RestContract.Compile

/-- All selections of the items. The selections that leave an item out come before those that take
    it, so the selection at position `i` takes the items that are set bits of `i`. -/
def powerSet {α : Type} (items : List α) : List (List α) :=
  items.foldl (fun selections item => selections ++ selections.map (· ++ [item])) [[]]

/-- The union of the members; a single member needs none. -/
def union : List Expr → Expr
  | [member] => member
  | members => Expr.z "union" [.array members]

/-- The members joined by calls of a method on the first. -/
def joinBy (method : String) : List Expr → Expr
  | [] => .array []
  | first :: rest => Expr.chain first (rest.map fun member => .call method [member])

/-- The selections of at least one item, those of more items first and otherwise in their order. -/
def selections {α : Type} (items : List α) : List (List α) :=
  ((powerSet items).filter fun selection => !selection.isEmpty).mergeSort
    fun a b => b.length ≤ a.length

/-- The union of all ways to merge some of the members. -/
def anyOf (members : List Expr) : Expr := union ((selections members).map (joinBy "merge"))

/-- The largest number of members whose combinations are written out. -/
def maxAlternatives : Nat := 8

end RestContract.Compile
