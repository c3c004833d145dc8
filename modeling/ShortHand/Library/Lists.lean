import Mathlib.Data.List.Perm.Basic
import Mathlib.Data.List.Nodup
import Mathlib.Data.List.Range
import Mathlib.Algebra.BigOperators.Group.List.Basic

/-! Lists as multisets: replacing an entry, and the part of a range that a
predicate selects. -/

namespace ShortHand.Library

open List

theorem forall_mem_concat {holds : α → Prop} :
    (∀ item ∈ items ++ [last], holds item) ↔ (∀ item ∈ items, holds item) ∧ holds last := by
  rw [forall_mem_append, forall_mem_singleton]

section Replace

variable {α β : Type*} {entries : List α} {index : Nat} {old new : α} {project : α → Option β}

theorem split_of_getElem? (found : entries[index]? = some old) :
    ∃ before after, entries = before ++ old :: after ∧
      ∀ new, entries.set index new = before ++ new :: after := by
  obtain ⟨bound, value⟩ := List.getElem?_eq_some_iff.mp found
  refine ⟨entries.take index, entries.drop (index + 1), ?_, fun new => ?_⟩
  · rw [← value, getElem_cons_drop, take_append_drop]
  · rw [set_eq_take_append_cons_drop, if_pos bound]

/-- Replacing an entry trades its projection for the new one. -/
theorem filterMap_set_perm (found : entries[index]? = some old) :
    ((project old).toList ++ (entries.set index new).filterMap project).Perm
      ((project new).toList ++ entries.filterMap project) := by
  obtain ⟨before, after, whole, replaced⟩ := split_of_getElem? found
  rw [replaced, whole]
  cases project_old : project old <;> cases project_new : project new <;>
    simp [project_old, project_new]
  · exact perm_middle.symm
  · exact ((perm_middle.cons _).trans (Perm.swap _ _ _)).trans
      (perm_middle.symm.cons _)

end Replace

section Select

variable {bound : Nat} {selects narrower : Nat → Bool} {index : Nat}

/-- The indices below a bound that a predicate selects. -/
def selected (bound : Nat) (selects : Nat → Bool) : List Nat :=
  (range bound).filter selects

theorem selected_nodup : (selected bound selects).Nodup :=
  nodup_range.filter selects

@[simp]
theorem mem_selected : index ∈ selected bound selects ↔ index < bound ∧ selects index = true := by
  simp [selected]

theorem selected_congr (same : ∀ index < bound, narrower index = selects index) :
    selected bound narrower = selected bound selects := by
  apply filter_congr
  simpa using same

theorem selected_erase (same : ∀ other, other ≠ index → narrower other = selects other)
    (dropped : narrower index = false) :
    selected bound narrower = (selected bound selects).erase index := by
  rw [selected_nodup.erase_eq_filter, selected, selected, filter_filter]
  apply filter_congr
  intro other _
  by_cases equal : other = index
  · simp [equal, dropped]
  · simp [equal, same other equal]

theorem selected_succ (chosen : selects bound = true) :
    selected (bound + 1) selects = selected bound selects ++ [bound] := by
  simp [selected, range_succ, chosen]

end Select

section Lookup

variable {α β : Type*} [BEq α] [LawfulBEq α] {entries : List (α × β)} {key : α} {value : β}

/-- With distinct keys a lookup finds just the entries of the list. -/
theorem lookup_eq_some_iff_mem (distinct : (entries.map Prod.fst).Nodup) :
    entries.lookup key = some value ↔ (key, value) ∈ entries := by
  constructor
  · intro found
    obtain ⟨before, after, rfl, _⟩ := lookup_eq_some_iff.mp found
    exact mem_append_right _ mem_cons_self
  · intro member
    obtain ⟨before, after, rfl⟩ := append_of_mem member
    refine lookup_eq_some_iff.mpr ⟨before, after, rfl, ?_⟩
    intro other earlier
    rw [map_append, nodup_append] at distinct
    rw [bne_iff_ne]
    exact (distinct.2.2 _ (mem_map_of_mem earlier) _ mem_cons_self).symm

theorem lookup_reverse (distinct : (entries.map Prod.fst).Nodup) :
    entries.reverse.lookup key = entries.lookup key := by
  refine Option.ext fun value => ?_
  rw [lookup_eq_some_iff_mem distinct, lookup_eq_some_iff_mem, mem_reverse]
  rwa [map_reverse, nodup_reverse]

end Lookup

section Kept

variable {α : Type*} {kept whole dropped : List α} {predicate : α → Bool}

/-- A part that keeps the order agrees with the whole on a predicate exactly when
nothing that was dropped satisfies it. -/
theorem filter_eq_filter_iff (ordered : kept.Sublist whole) (split : whole.Perm (kept ++ dropped)) :
    kept.filter predicate = whole.filter predicate ↔
      ∀ item ∈ dropped, predicate item = false := by
  have counted : (whole.filter predicate).length =
      (kept.filter predicate).length + (dropped.filter predicate).length := by
    rw [(split.filter predicate).length_eq, filter_append, length_append]
  have none_dropped : (∀ item ∈ dropped, predicate item = false) ↔
      (dropped.filter predicate).length = 0 := by
    simp
  rw [none_dropped]
  constructor
  · intro same
    rw [same] at counted
    omega
  · intro empty
    exact (ordered.filter predicate).eq_of_length (by omega)

end Kept

section Joined

variable {α : Type*} {separator : List α} {item : α}

theorem mem_intercalate (member : item ∈ separator.intercalate parts) :
    item ∈ separator ∨ ∃ part ∈ parts, item ∈ part := by
  induction parts with
  | nil => cases member
  | cons part parts ih =>
    cases parts with
    | nil => exact .inr ⟨part, mem_cons_self, by simpa using member⟩
    | cons next later =>
      rw [intercalate_cons_cons, mem_append, mem_append] at member
      rcases member with (inside | between) | behind
      · exact .inr ⟨part, mem_cons_self, inside⟩
      · exact .inl between
      · refine (ih behind).imp_right ?_
        rintro ⟨part, listed, inside⟩
        exact ⟨part, mem_cons_of_mem _ listed, inside⟩

theorem mem_intercalate_of_mem (listed : part ∈ parts) (inside : item ∈ part) :
    item ∈ separator.intercalate parts := by
  induction parts with
  | nil => cases listed
  | cons first parts ih =>
    cases parts with
    | nil =>
      cases mem_singleton.mp listed
      simpa using inside
    | cons next later =>
      rw [intercalate_cons_cons]
      rcases mem_cons.mp listed with rfl | behind
      · simp [inside]
      · exact mem_append_right _ (ih behind)

end Joined

end ShortHand.Library
