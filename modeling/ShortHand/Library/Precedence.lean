import Mathlib.Data.List.Nodup
import Mathlib.Logic.Relation

/-! Lists in which every item comes after all of its successors. Such a list has no
cycle, and what its items reach is on it. -/

namespace ShortHand.Library

open Relation

variable {α : Type} {edge : α → α → Prop} {order : List α} {item : α}

/-- Every item comes after its successors. -/
def SuccessorsFirst (edge : α → α → Prop) (order : List α) : Prop :=
  ∀ before item after, order = before ++ item :: after → ∀ next, edge item next → next ∈ before

theorem successorsFirst_nil : SuccessorsFirst edge [] := by
  intro before item after split
  exact absurd split.symm (List.append_ne_nil_of_right_ne_nil before (List.cons_ne_nil item after))

/-- An item whose successors are all there goes last. -/
theorem SuccessorsFirst.concat (sorted : SuccessorsFirst edge order)
    (successors : ∀ next, edge item next → next ∈ order) :
    SuccessorsFirst edge (order ++ [item]) := by
  intro before middle after split next follows
  rcases List.eq_nil_or_concat after with rfl | ⟨rest, last, rfl⟩
  · obtain ⟨rfl, same⟩ := List.append_inj' split rfl
    cases same
    exact successors next follows
  · have shape : order ++ [item] = (before ++ middle :: rest) ++ [last] := by
      rw [split]
      simp
    obtain ⟨rfl, _⟩ := List.append_inj' shape rfl
    exact sorted before middle rest rfl next follows

/-- The list holds all that its items lead to. -/
theorem SuccessorsFirst.closed (sorted : SuccessorsFirst edge order) (member : item ∈ order)
    (follows : edge item next) : next ∈ order := by
  obtain ⟨before, after, rfl⟩ := List.append_of_mem member
  exact List.mem_append_left _ (sorted before item after rfl next follows)

theorem SuccessorsFirst.reaches (sorted : SuccessorsFirst edge order) (member : item ∈ order)
    (path : ReflTransGen edge item last) : last ∈ order := by
  induction path with
  | refl => exact member
  | tail _ follows ih => exact sorted.closed ih follows

/-- What an item leads to stands before it. -/
theorem SuccessorsFirst.earlier (sorted : SuccessorsFirst edge order)
    (split : order = before ++ item :: after) (path : TransGen edge item last) : last ∈ before := by
  induction path with
  | single follows => exact sorted before item after split _ follows
  | @tail middle _ _ follows ih =>
    obtain ⟨first, rest, rfl⟩ := List.append_of_mem ih
    have shape : order = first ++ middle :: (rest ++ item :: after) := by
      rw [split]
      simp
    exact List.mem_append_left _ (sorted first middle _ shape _ follows)

/-- No item of a list without repetitions is on a cycle. -/
theorem SuccessorsFirst.acyclic (sorted : SuccessorsFirst edge order) (distinct : order.Nodup)
    (member : item ∈ order) : ¬TransGen edge item item := by
  intro cycle
  obtain ⟨before, after, rfl⟩ := List.append_of_mem member
  have earlier := sorted.earlier rfl cycle
  exact (List.nodup_append.mp distinct).2.2 item earlier item List.mem_cons_self rfl

/-- A chain of items leads from the first to the last. -/
theorem reaches_of_isChain (chain : (first :: path).IsChain edge)
    (ends : (first :: path).getLast? = some last) : ReflTransGen edge first last := by
  induction path generalizing first with
  | nil =>
    cases ends
    exact .refl
  | cons second path ih =>
    obtain ⟨follows, rest⟩ := List.isChain_cons_cons.mp chain
    exact .head follows (ih rest ends)

end ShortHand.Library
