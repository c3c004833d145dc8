import Mathlib.Data.List.Basic

/-! Texts built from fields without escapes, as long as no field holds the mark behind it. -/

namespace ShortHand.Library

open List

variable {α : Type} {first second rest later : List α} {mark other : α}

/-- Lists split at their first element without a property are split alike. -/
theorem append_cons_inj_of_forall {keeps : α → Prop} (inFirst : ∀ item ∈ first, keeps item)
    (inSecond : ∀ item ∈ second, keeps item) (stops : ¬ keeps mark) (halts : ¬ keeps other)
    (same : first ++ mark :: rest = second ++ other :: later) :
    first = second ∧ mark = other ∧ rest = later := by
  induction first generalizing second with
  | nil =>
    cases second with
    | nil =>
      cases same
      exact ⟨rfl, rfl, rfl⟩
    | cons head second =>
      cases same
      exact absurd (inSecond _ mem_cons_self) stops
  | cons head first ih =>
    cases second with
    | nil =>
      cases same
      exact absurd (inFirst _ mem_cons_self) halts
    | cons head second =>
      obtain ⟨rfl, tails⟩ := cons.inj same
      obtain ⟨rfl, marks, rests⟩ := ih
        (fun item member => inFirst item (mem_cons_of_mem _ member))
        (fun item member => inSecond item (mem_cons_of_mem _ member)) tails
      exact ⟨rfl, marks, rests⟩

/-- A field ends at the first mark. -/
theorem field_inj (inFirst : mark ∉ first) (inSecond : mark ∉ second)
    (same : first ++ mark :: rest = second ++ mark :: later) : first = second ∧ rest = later := by
  obtain ⟨fields, _, rests⟩ := @append_cons_inj_of_forall _ _ _ _ _ _ _ (· ≠ mark)
    (fun _ member equal => inFirst (equal ▸ member))
    (fun _ member equal => inSecond (equal ▸ member)) (not_not.mpr rfl) (not_not.mpr rfl) same
  exact ⟨fields, rests⟩

/-- The last field begins behind the last mark. -/
theorem last_field_inj (inRest : mark ∉ rest) (inLater : mark ∉ later)
    (same : first ++ mark :: rest = second ++ mark :: later) : first = second ∧ rest = later := by
  have reversed := congrArg reverse same
  simp only [reverse_append, reverse_cons, append_assoc, singleton_append]
    at reversed
  obtain ⟨rests, fields⟩ := field_inj (by simpa using inRest) (by simpa using inLater) reversed
  exact ⟨reverse_inj.mp fields, reverse_inj.mp rests⟩

/-- The text of lines, each with its end. -/
def terminated (ending : α) (lines : List (List α)) : List α := lines.flatMap (· ++ [ending])

/-- A text determines its lines if none of them holds a line end. -/
theorem terminated_inj (inLines : ∀ line ∈ lines, mark ∉ line)
    (inOthers : ∀ line ∈ others, mark ∉ line)
    (same : terminated mark lines = terminated mark others) : lines = others := by
  induction lines generalizing others with
  | nil =>
    cases others with
    | nil => rfl
    | cons line others => simp [terminated] at same
  | cons line lines ih =>
    cases others with
    | nil => simp [terminated] at same
    | cons other others =>
      rw [forall_mem_cons] at inLines inOthers
      simp only [terminated, flatMap_cons, append_assoc, singleton_append] at same
      obtain ⟨rfl, rests⟩ := field_inj inLines.1 inOthers.1 same
      rw [ih inLines.2 inOthers.2 rests]

/-- Lists are determined by the texts of their items. -/
theorem map_inj_of_forall {β : Type} {text : α → β} {keeps : α → Prop}
    (inFirst : ∀ item ∈ first, keeps item) (inSecond : ∀ item ∈ second, keeps item)
    (inject : ∀ item other, keeps item → keeps other → text item = text other → item = other)
    (same : first.map text = second.map text) : first = second := by
  induction first generalizing second with
  | nil => exact (map_eq_nil_iff.mp same.symm).symm
  | cons item first ih =>
    cases second with
    | nil => cases same
    | cons other second =>
      rw [map_cons, map_cons, cons.injEq] at same
      rw [forall_mem_cons] at inFirst inSecond
      rw [inject item other inFirst.1 inSecond.1 same.1,
        ih inFirst.2 inSecond.2 same.2]

end ShortHand.Library
