import Mathlib.Data.List.Basic

/-! Threads that share a memory. A place that one thread writes ends the same under every
schedule. -/

namespace ShortHand.Library

open List

variable {Write Memory Value : Type*}

/-- The writes of some threads in the order of a schedule. A schedule names the thread
that moves next; a thread at its end is passed over, and after the schedule the
threads are joined in order. -/
def interleave : List (List Write) → List Nat → List Write
  | threads, [] => threads.flatten
  | threads, turn :: turns =>
    match threads[turn]? with
    | some (write :: rest) => write :: interleave (threads.set turn rest) turns
    | _ => interleave threads turns

section Owner

variable {threads : List (List Write)} {selects : Write → Bool} {owner : Nat}

/-- Only the thread `owner` makes the writes that `selects` picks. -/
def OwnedBy (threads : List (List Write)) (selects : Write → Bool) (owner : Nat) : Prop :=
  ∀ index thread, threads[index]? = some thread → ∀ write ∈ thread, selects write = true →
    index = owner

theorem filter_flatten_of_ownedBy (owned : OwnedBy threads selects owner) :
    threads.flatten.filter selects = (threads[owner]?.getD []).filter selects := by
  induction threads generalizing owner with
  | nil => rfl
  | cons thread threads ih =>
    have first : owner ≠ 0 → thread.filter selects = [] := by
      intro other
      refine filter_eq_nil_iff.mpr fun write member selected => other ?_
      exact (owned 0 thread rfl write member selected).symm
    cases owner with
    | zero =>
      have later : threads.flatten.filter selects = [] := by
        refine filter_eq_nil_iff.mpr fun write member selected => ?_
        obtain ⟨other, listed, inside⟩ := mem_flatten.mp member
        obtain ⟨index, found⟩ := mem_iff_getElem?.mp listed
        cases owned (index + 1) other found write inside selected
      simp [later]
    | succ owner =>
      have tail : OwnedBy threads selects owner := fun index other found write member selected =>
        Nat.succ.inj (owned (index + 1) other found write member selected)
      simp [first (Nat.succ_ne_zero owner), ih tail]

/-- Whatever the schedule, the writes that one thread owns come in that thread's order. -/
theorem filter_interleave (owned : OwnedBy threads selects owner) (turns : List Nat) :
    (interleave threads turns).filter selects = (threads[owner]?.getD []).filter selects := by
  induction turns generalizing threads with
  | nil => exact filter_flatten_of_ownedBy owned
  | cons turn turns ih =>
    rw [interleave]
    split
    · rename_i write rest found
      have bound := (List.getElem?_eq_some_iff.mp found).1
      have remaining : OwnedBy (threads.set turn rest) selects owner := by
        intro index thread present other member selected
        by_cases same : turn = index
        · subst same
          rw [getElem?_set_self bound] at present
          cases present
          exact owned turn _ found other (mem_cons_of_mem write member) selected
        · rw [getElem?_set_ne same] at present
          exact owned index thread present other member selected
      rw [filter_cons, ih remaining]
      by_cases same : turn = owner
      · subst same
        rw [getElem?_set_self bound, found]
        simp [filter_cons]
      · have unselected : ¬ selects write = true :=
          fun selected => same (owned turn _ found write mem_cons_self selected)
        rw [if_neg unselected, getElem?_set_ne same]
    · exact ih owned

end Owner

section Place

variable {apply : Memory → Write → Memory} {read : Memory → Value} {reaches : Write → Bool}
  {threads : List (List Write)} {owner : Nat} {first second : Memory}

/-- What a place holds is decided by the writes that reach it. -/
theorem read_foldl_filter
    (elsewhere : ∀ memory write, reaches write = false → read (apply memory write) = read memory)
    (agree : ∀ first second write, read first = read second →
      read (apply first write) = read (apply second write))
    (writes : List Write) (same : read first = read second) :
    read (writes.foldl apply first) = read ((writes.filter reaches).foldl apply second) := by
  induction writes generalizing first second with
  | nil => exact same
  | cons write writes ih =>
    rw [filter_cons]
    split
    · exact ih (agree first second write same)
    · rename_i missed
      exact ih ((elsewhere first write (by simpa using missed)).trans same)

/-- A place that one thread owns ends as if that thread had run alone. -/
theorem read_interleave
    (elsewhere : ∀ memory write, reaches write = false → read (apply memory write) = read memory)
    (agree : ∀ first second write, read first = read second →
      read (apply first write) = read (apply second write))
    (owned : OwnedBy threads reaches owner) (turns : List Nat) (memory : Memory) :
    read ((interleave threads turns).foldl apply memory) =
      read ((threads[owner]?.getD []).foldl apply memory) := by
  rw [read_foldl_filter elsewhere agree _ rfl, filter_interleave owned,
    ← read_foldl_filter elsewhere agree _ rfl]

end Place

end ShortHand.Library
