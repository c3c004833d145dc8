import Mathlib.Algebra.Order.BigOperators.Group.List
import Mathlib.Data.List.Perm.Basic
import Mathlib.Logic.Function.Basic

/-! Totals by key, filled one amount at a time, are sums over the items of the key. -/

namespace ShortHand.Library

open List

section Totals

variable {κ α M : Type} [DecidableEq κ] [AddCommMonoid M] {key : α → κ} {amount : α → M}

/-- Add an amount to the total of a key. -/
def credit (totals : κ → M) (key : κ) (amount : M) : κ → M :=
  Function.update totals key (totals key + amount)

/-- The sum of the amounts of one key. -/
def totalOf (key : α → κ) (amount : α → M) (items : List α) (wanted : κ) : M :=
  ((items.filter fun item => key item = wanted).map amount).sum

theorem totalOf_append :
    totalOf key amount (first ++ second) wanted =
      totalOf key amount first wanted + totalOf key amount second wanted := by
  simp [totalOf]

theorem totalOf_perm (same : first.Perm second) :
    totalOf key amount first = totalOf key amount second :=
  funext fun _ => ((same.filter _).map _).sum_eq

theorem totalOf_map : totalOf key amount (items.map change) =
      totalOf (fun item => key (change item)) (fun item => amount (change item)) items := by
  funext wanted
  simp [totalOf, filter_map, Function.comp_def]

/-- One more item is credited to its key. -/
theorem totalOf_concat :
    totalOf key amount (items ++ [item]) =
      credit (totalOf key amount items) (key item) (amount item) := by
  funext wanted
  rw [credit]
  by_cases same : wanted = key item
  · subst same
    simp [totalOf]
  · have other : key item ≠ wanted := fun equal => same equal.symm
    simp [totalOf, same, other]

/-- Items that are not negative only add to a total. -/
theorem totalOf_le_append [PartialOrder M] [IsOrderedAddMonoid M]
    (nonnegative : ∀ item ∈ second, 0 ≤ amount item) :
    totalOf key amount first wanted ≤ totalOf key amount (first ++ second) wanted := by
  rw [totalOf_append]
  refine le_add_of_nonneg_right (sum_nonneg fun value inside => ?_)
  obtain ⟨item, member, rfl⟩ := mem_map.mp inside
  exact nonnegative item (mem_of_mem_filter member)

end Totals

end ShortHand.Library
