import Mathlib.Data.Nat.Basic
import Mathlib.Order.Monotone.Defs

/-! Walks that take steps as long as one measure stays within a limit, and report the other. -/

namespace ShortHand.Library

/-- The first measure of the steps whose second measures fit in the limit. -/
def stride : List (Nat × Nat) → Nat → Nat
  | [], _ => 0
  | (first, second) :: rest, limit =>
    if second ≤ limit then first + stride rest (limit - second) else 0

/-- Both measures of the steps up to a stop. -/
inductive Stop : List (Nat × Nat) → Nat → Nat → Prop where
  | start {steps : List (Nat × Nat)} : Stop steps 0 0
  | next {step : Nat × Nat} {rest : List (Nat × Nat)} {first second : Nat}
      (later : Stop rest first second) :
      Stop (step :: rest) (step.1 + first) (step.2 + second)

variable {steps : List (Nat × Nat)} {first second limit : Nat}

theorem stride_mono (steps : List (Nat × Nat)) : Monotone (stride steps) := by
  induction steps with
  | nil => exact fun _ _ _ => Nat.le_refl 0
  | cons step rest ih =>
    intro small large bound
    rw [stride, stride]
    split
    · rename_i fits
      rw [if_pos (fits.trans bound)]
      exact Nat.add_le_add_left (ih (Nat.sub_le_sub_right bound _)) _
    · exact Nat.zero_le _

/-- A walk to a stop ends there. -/
theorem Stop.stride_eq (stop : Stop steps first second) (positive : ∀ step ∈ steps, 0 < step.2) :
    stride steps second = first := by
  induction stop with
  | @start steps =>
    cases steps with
    | nil => rfl
    | cons step rest =>
      have above := positive step List.mem_cons_self
      rw [stride, if_neg (by omega)]
  | @next step rest first second _ ih =>
    rw [stride, if_pos (Nat.le_add_right _ _), Nat.add_sub_cancel_left,
      ih fun other inside => positive other (List.mem_cons_of_mem _ inside)]

/-- Every walk ends at a stop within the limit. -/
theorem exists_stop (steps : List (Nat × Nat)) (limit : Nat) :
    ∃ second ≤ limit, Stop steps (stride steps limit) second := by
  induction steps generalizing limit with
  | nil => exact ⟨0, Nat.zero_le _, .start⟩
  | cons step rest ih =>
    rw [stride]
    split
    · rename_i fits
      obtain ⟨second, bound, stop⟩ := ih (limit - step.2)
      exact ⟨step.2 + second, by omega, .next stop⟩
    · exact ⟨0, Nat.zero_le _, .start⟩

theorem Stop.swap (stop : Stop steps first second) : Stop (steps.map Prod.swap) second first := by
  induction stop with
  | start => exact .start
  | next _ ih => exact .next ih

end ShortHand.Library
