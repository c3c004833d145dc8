import Mathlib.Data.List.Lex
import Mathlib.Data.List.Sort
import Mathlib.Order.Fin.Basic
import ShortHand.Library.Lists

/-! Maps as association lists in strictly increasing key order, filled one entry at a time. -/

namespace ShortHand.Library

open List

variable {κ β : Type} [LinearOrder κ]

/-- Keys in strictly increasing order. -/
def InOrder (entries : List (κ × β)) : Prop := entries.Pairwise fun first second => first.1 < second.1

/-- Insert under a new key; none if the key is taken. -/
def emplaceEntry (key : κ) (value : β) : List (κ × β) → Option (List (κ × β))
  | [] => some [(key, value)]
  | entry :: rest =>
    if key < entry.1 then some ((key, value) :: entry :: rest)
    else if key = entry.1 then none
    else (emplaceEntry key value rest).map (entry :: ·)

section Entries

variable {key : κ} {value : β} {entries grown : List (κ × β)}

theorem emplaceEntry_perm (emplaced : emplaceEntry key value entries = some grown) :
    grown.Perm ((key, value) :: entries) := by
  induction entries generalizing grown with
  | nil =>
    cases emplaced
    exact Perm.refl _
  | cons entry rest ih =>
    rw [emplaceEntry] at emplaced
    split at emplaced
    · cases emplaced
      exact Perm.refl _
    split at emplaced
    · cases emplaced
    · obtain ⟨later, inserted, rfl⟩ := Option.map_eq_some_iff.mp emplaced
      exact ((ih inserted).cons entry).trans (Perm.swap _ _ _)

theorem emplaceEntry_inOrder (ordered : InOrder entries)
    (emplaced : emplaceEntry key value entries = some grown) : InOrder grown := by
  induction entries generalizing grown with
  | nil =>
    cases emplaced
    exact pairwise_singleton _ _
  | cons entry rest ih =>
    obtain ⟨before, later⟩ := pairwise_cons.mp ordered
    rw [emplaceEntry] at emplaced
    split at emplaced
    · rename_i smaller
      cases emplaced
      refine pairwise_cons.mpr ⟨?_, ordered⟩
      intro other member
      rcases mem_cons.mp member with rfl | inside
      · exact smaller
      · exact smaller.trans (before other inside)
    · rename_i notSmaller
      split at emplaced
      · cases emplaced
      rename_i different
      obtain ⟨tail, inserted, rfl⟩ := Option.map_eq_some_iff.mp emplaced
      refine pairwise_cons.mpr ⟨?_, ih later inserted⟩
      intro other member
      rcases mem_cons.mp ((emplaceEntry_perm inserted).mem_iff.mp member) with rfl | inside
      · exact lt_of_le_of_ne (not_lt.mp notSmaller) (Ne.symm different)
      · exact before other inside

theorem emplaceEntry_isSome (ordered : InOrder entries) :
    (emplaceEntry key value entries).isSome ↔ key ∉ entries.map Prod.fst := by
  induction entries with
  | nil => simp [emplaceEntry]
  | cons entry rest ih =>
    obtain ⟨before, later⟩ := pairwise_cons.mp ordered
    rw [emplaceEntry, map_cons, mem_cons, not_or]
    split
    · rename_i smaller
      refine ⟨fun _ => ⟨smaller.ne, ?_⟩, fun _ => rfl⟩
      intro inside
      obtain ⟨other, member, same⟩ := mem_map.mp inside
      exact absurd (smaller.trans (before other member)) (same ▸ lt_irrefl _)
    · split
      · rename_i same
        simp [same]
      · rename_i different
        rw [Option.isSome_map, ih later]
        exact ⟨fun absent => ⟨different, absent⟩, fun absent => absent.2⟩

theorem exists_emplaceEntry (ordered : InOrder entries) (absent : key ∉ entries.map Prod.fst) :
    ∃ grown, emplaceEntry key value entries = some grown :=
  Option.isSome_iff_exists.mp ((emplaceEntry_isSome ordered).mpr absent)

theorem InOrder.nodup (ordered : InOrder entries) : (entries.map Prod.fst).Nodup :=
  (pairwise_map.mpr ordered).imp fun smaller => smaller.ne

omit [LinearOrder κ] in
/-- A key that comes later is not there yet. -/
theorem absent_of_nodup (distinct : ((entries ++ (key, value) :: later).map Prod.fst).Nodup) :
    key ∉ entries.map Prod.fst := by
  rw [map_append, nodup_append] at distinct
  exact fun inside => distinct.2.2 _ inside _ mem_cons_self rfl

/-- Entries in order are determined by the entries. -/
theorem InOrder.eq_of_perm (ordered : InOrder entries) (also : InOrder other)
    (same : entries.Perm other) : entries = other :=
  Perm.eq_of_pairwise
    (fun _ _ _ _ smaller larger => absurd (smaller.trans larger) (lt_irrefl _)) ordered also same

end Entries

/-- A finite map, listed by increasing key. -/
structure OrderedMap (κ β : Type) [LinearOrder κ] where
  entries : List (κ × β)
  ordered : InOrder entries

namespace OrderedMap

variable {map : OrderedMap κ β} {key : κ} {value : β}

def empty : OrderedMap κ β := ⟨[], Pairwise.nil⟩

def find? (map : OrderedMap κ β) (key : κ) : Option β := map.entries.lookup key

def emplace (map : OrderedMap κ β) (key : κ) (value : β) : Option (OrderedMap κ β) :=
  match emplaced : emplaceEntry key value map.entries with
  | none => none
  | some entries => some ⟨entries, emplaceEntry_inOrder map.ordered emplaced⟩

def contains (map : OrderedMap κ β) (key : κ) : Bool := (map.find? key).isSome

def filter (map : OrderedMap κ β) (keep : κ → Bool) : OrderedMap κ β :=
  ⟨map.entries.filter fun entry => keep entry.1, map.ordered.filter _⟩

def erase (map : OrderedMap κ β) (key : κ) : OrderedMap κ β := map.filter (· ≠ key)

/-- Put a value under a key, in place of the one that was there. -/
def insert (map : OrderedMap κ β) (key : κ) (value : β) : OrderedMap κ β :=
  ((map.erase key).emplace key value).getD map

/-- Emplace the entries of a list; the first entry of a key stays. -/
def ofEntries (entries : List (κ × β)) : OrderedMap κ β :=
  entries.foldl (fun map entry => (map.emplace entry.1 entry.2).getD map) empty

theorem ext_perm (same : map.entries.Perm other.entries) : map = other := by
  cases map
  cases other
  congr
  exact InOrder.eq_of_perm ‹_› ‹_› same

theorem emplace_perm (emplaced : map.emplace key value = some grown) :
    grown.entries.Perm ((key, value) :: map.entries) := by
  unfold emplace at emplaced
  split at emplaced
  · cases emplaced
  · cases emplaced
    exact emplaceEntry_perm ‹_›

theorem exists_emplace (absent : key ∉ map.entries.map Prod.fst) :
    ∃ grown, map.emplace key value = some grown := by
  have emplaced := (@emplaceEntry_isSome _ _ _ key value _ map.ordered).mpr absent
  unfold emplace
  split
  · rename_i none
    rw [none] at emplaced
    cases emplaced
  · exact ⟨_, rfl⟩

/-- The new entry stands in place of the one that had its key. -/
theorem insert_perm_filter : (map.insert key value).entries.Perm
    ((key, value) :: map.entries.filter fun entry => entry.1 ≠ key) := by
  have absent : key ∉ (map.erase key).entries.map Prod.fst := by
    intro inside
    obtain ⟨entry, member, same⟩ := mem_map.mp inside
    exact of_decide_eq_true (mem_filter.mp member).2 same
  obtain ⟨grown, emplaced⟩ := @exists_emplace _ _ _ (map.erase key) key value absent
  rw [insert, emplaced]
  exact emplace_perm emplaced

theorem insert_perm (absent : key ∉ map.entries.map Prod.fst) :
    (map.insert key value).entries.Perm ((key, value) :: map.entries) := by
  have unchanged : map.entries.filter (fun entry => entry.1 ≠ key) = map.entries := by
    refine filter_eq_self.mpr fun entry member => decide_eq_true fun same => absent ?_
    exact mem_map.mpr ⟨entry, member, same⟩
  have moved := @insert_perm_filter _ _ _ map key value
  rwa [unchanged] at moved

/-- The entries of a list with distinct keys, in any order. -/
theorem ofEntries_perm {entries : List (κ × β)} (distinct : (entries.map Prod.fst).Nodup) :
    (ofEntries entries).entries.Perm entries := by
  have general : ∀ (entries : List (κ × β)) (map : OrderedMap κ β),
      ((map.entries ++ entries).map Prod.fst).Nodup →
      (entries.foldl (fun map entry => (map.emplace entry.1 entry.2).getD map) map).entries.Perm
        (map.entries ++ entries) := by
    intro entries
    induction entries with
    | nil => simp
    | cons entry entries ih =>
      intro map distinct
      obtain ⟨grown, emplaced⟩ :=
        @exists_emplace _ _ _ map entry.1 entry.2 (absent_of_nodup distinct)
      have moved : (grown.entries ++ entries).Perm (map.entries ++ entry :: entries) :=
        ((emplace_perm emplaced).append_right entries).trans perm_middle.symm
      rw [foldl_cons, emplaced]
      exact (ih grown ((moved.map _).nodup_iff.mpr distinct)).trans moved
  exact general entries empty distinct

/-- Entries in order stay as they are. -/
theorem ofEntries_inOrder {entries : List (κ × β)} (ordered : InOrder entries) :
    (ofEntries entries).entries = entries :=
  (ofEntries entries).ordered.eq_of_perm ordered (ofEntries_perm ordered.nodup)

theorem find?_eq_some_iff : map.find? key = some value ↔ (key, value) ∈ map.entries :=
  lookup_eq_some_iff_mem map.ordered.nodup

theorem find?_eq_none_iff : map.find? key = none ↔ key ∉ map.entries.map Prod.fst := by
  rw [Option.eq_none_iff_forall_ne_some]
  simp [find?_eq_some_iff]

theorem contains_eq_false_iff : map.contains key = false ↔ key ∉ map.entries.map Prod.fst := by
  rw [contains, Option.isSome_eq_false_iff, Option.isNone_iff_eq_none, find?_eq_none_iff]

theorem mem_insert : entry ∈ (map.insert key value).entries ↔
    entry = (key, value) ∨ entry ∈ map.entries ∧ entry.1 ≠ key := by
  rw [insert_perm_filter.mem_iff, mem_cons, mem_filter, decide_eq_true_iff]

end OrderedMap

end ShortHand.Library
