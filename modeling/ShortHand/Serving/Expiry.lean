import ShortHand.Serving.Moves

/-! The expiry pass does what it is for exactly if its reference into the queue still reads the
entry that it erased. -/

namespace ShortHand.Serving

open ShortHand.Library List

namespace Runtime

variable {slot : ErasedSlot} {runtime after : Runtime} {now : Time} {kept ahead : List Ref}
  {state : Ref}

/-- What an expiry pass is for. -/
structure Expires (before after : Runtime) (now : Time) : Prop where
  queue : after.queue = before.queue.filter fun state => !before.leavesQueue now state
  completed : ∀ state ∈ before.queue, before.leavesQueue now state = true →
    (before.heap state).done = false ∧
      after.heap state = finished (before.heap state) (before.expiryStatus now state).1 ""
        (before.expiryStatus now state).2 now
  others : ∀ state, (state ∈ before.queue → before.leavesQueue now state = false) →
    after.heap state = before.heap state
  waiting : ∀ state ∈ after.queue, (after.heap state).done = false

/-- A completion changes no cell but its own. -/
theorem heap_completeLocked_of_ne (different : other ≠ state) :
    (runtime.completeLocked state status output detail completedAt).heap other =
      runtime.heap other := by
  exact (completeLocked_cell other).resolve_right fun own => different own.1

/-- The pass touches only what is still in the queue. -/
theorem heap_expireFrom_of_not_mem (absent : state ∉ kept ++ ahead) :
    (runtime.expireFrom slot now kept ahead).heap state = runtime.heap state := by
  induction ahead generalizing runtime kept with
  | nil => rfl
  | cons entry ahead ih =>
    cases leaves : runtime.leavesQueue now entry with
    | true =>
      have different : state ≠ slot.read kept entry ahead := by
        rintro rfl
        exact absent (slot.entry kept entry ahead)
      have remaining : state ∉ kept ++ ahead := by
        intro member
        apply absent
        rcases mem_append.mp member with before | behind
        · exact mem_append_left _ before
        · exact mem_append_right _ (mem_cons_of_mem entry behind)
      rw [expireFrom_leaves leaves, ih remaining,
        heap_completeLocked_of_ne different]
    | false =>
      rw [expireFrom_stays leaves]
      exact ih (by simpa using absent)

theorem expiryStatus_completeLocked (different : other ≠ state) :
    (runtime.completeLocked state status output detail completedAt).expiryStatus now other =
      runtime.expiryStatus now other := by
  simp only [expiryStatus, heap_completeLocked_of_ne different]

/-- The queue that the pass leaves does not depend on what the slots read. -/
theorem queue_expireFrom :
    (runtime.expireFrom slot now kept ahead).queue =
      kept ++ ahead.filter fun state => !runtime.leavesQueue now state := by
  induction ahead generalizing runtime kept with
  | nil => simp [expireFrom]
  | cons entry ahead ih =>
    cases leaves : runtime.leavesQueue now entry with
    | true =>
      rw [expireFrom_leaves leaves, ih]
      simp [leaves, leavesQueue_completeLocked]
    | false =>
      rw [expireFrom_stays leaves, ih]
      simp [leaves]

/-- Where every erased entry is read back, just the entries that leave are completed. -/
theorem heap_expireFrom_of_readsErased (distinct : (kept ++ ahead).Nodup)
    (pending : ∀ entry ∈ ahead, (runtime.heap entry).done = false)
    (intact : readsErased slot runtime now kept ahead) (state : Ref) :
    (runtime.expireFrom slot now kept ahead).heap state =
      if state ∈ ahead ∧ runtime.leavesQueue now state = true then
        finished (runtime.heap state) (runtime.expiryStatus now state).1 ""
          (runtime.expiryStatus now state).2 now
      else runtime.heap state := by
  induction ahead generalizing runtime kept with
  | nil =>
    rw [if_neg (by simp)]
    rfl
  | cons entry ahead ih =>
    have split : entry ∉ kept ++ ahead ∧ (kept ++ ahead).Nodup :=
      nodup_cons.mp (nodup_middle.mp distinct)
    have later : ∀ other ∈ ahead, (runtime.heap other).done = false :=
      fun other member => pending other (mem_cons_of_mem entry member)
    cases leaves : runtime.leavesQueue now entry with
    | true =>
      rw [readsErased, if_pos leaves, Bool.and_eq_true, beq_iff_eq] at intact
      rw [expireFrom_leaves leaves, intact.1]
      by_cases here : state = entry
      · subst here
        rw [heap_expireFrom_of_not_mem split.1, heap_completeLocked (pending _ mem_cons_self),
          Function.update_self, if_pos ⟨mem_cons_self, leaves⟩]
      rw [ih split.2 ?_ ?_, heap_completeLocked_of_ne here, expiryStatus_completeLocked here,
        leavesQueue_completeLocked]
      · simp [here]
      · intro other member
        rw [heap_completeLocked_of_ne]
        · exact later other member
        · rintro rfl
          exact split.1 (mem_append_right _ member)
      · exact (readsErased_congr (leavesQueue_completeLocked now)).trans intact.2
    | false =>
      rw [readsErased, if_neg (by simp [leaves])] at intact
      rw [expireFrom_stays leaves, ih (by simpa using distinct) later intact]
      by_cases here : state = entry
      · simp [here, leaves]
      · simp [here]

/-- The first entry whose slot reads another one is never completed: no later slot
can read it. -/
theorem exists_untouched_of_not_readsErased (distinct : (kept ++ ahead).Nodup)
    (broken : readsErased slot runtime now kept ahead = false) :
    ∃ state ∈ ahead, runtime.leavesQueue now state = true ∧
      (runtime.expireFrom slot now kept ahead).heap state = runtime.heap state := by
  induction ahead generalizing runtime kept with
  | nil => cases broken
  | cons entry ahead ih =>
    have split : entry ∉ kept ++ ahead ∧ (kept ++ ahead).Nodup :=
      nodup_cons.mp (nodup_middle.mp distinct)
    cases leaves : runtime.leavesQueue now entry with
    | true =>
      rw [readsErased, if_pos leaves] at broken
      rw [expireFrom_leaves leaves]
      by_cases intact : slot.read kept entry ahead = entry
      · have later : readsErased slot runtime now kept ahead = false := by
          simpa [intact] using broken
        obtain ⟨state, behind, stateLeaves, untouched⟩ :=
          @ih
            (runtime.completeLocked (slot.read kept entry ahead)
              (runtime.expiryStatus now entry).1 "" (runtime.expiryStatus now entry).2 now)
            kept split.2 ((readsErased_congr (leavesQueue_completeLocked now)).trans later)
        rw [leavesQueue_completeLocked] at stateLeaves
        refine ⟨state, mem_cons_of_mem entry behind, stateLeaves, ?_⟩
        rw [untouched, intact]
        apply heap_completeLocked_of_ne
        rintro rfl
        exact split.1 (mem_append_right _ behind)
      · refine ⟨entry, mem_cons_self, leaves, ?_⟩
        rw [heap_expireFrom_of_not_mem split.1, heap_completeLocked_of_ne (Ne.symm intact)]
    | false =>
      rw [readsErased, if_neg (by simp [leaves])] at broken
      rw [expireFrom_stays leaves]
      obtain ⟨state, behind, found⟩ := ih (by simpa using distinct) broken
      exact ⟨state, mem_cons_of_mem entry behind, found⟩

/-- The pass removes and completes just the requests that are due, each with its own
status, exactly when every queued request is unfinished and each erased slot still
reads the entry that was erased. -/
theorem expires_iff (slot : ErasedSlot) (runtime : Runtime) (now : Time)
    (distinct : runtime.queue.Nodup) :
    Expires runtime (runtime.expireQueuedLocked slot now) now ↔
      (∀ state ∈ runtime.queue, (runtime.heap state).done = false) ∧
        readsErased slot runtime now [] runtime.queue = true := by
  have queue : (runtime.expireQueuedLocked slot now).queue =
      runtime.queue.filter fun state => !runtime.leavesQueue now state := queue_expireFrom
  constructor
  · intro expires
    constructor
    · intro state queued
      cases leaves : runtime.leavesQueue now state with
      | true => exact (expires.completed state queued leaves).1
      | false =>
        rw [← expires.others state fun _ => leaves]
        apply expires.waiting
        rw [queue, mem_filter]
        exact ⟨queued, by simp [leaves]⟩
    · cases intact : readsErased slot runtime now [] runtime.queue with
      | true => rfl
      | false =>
        obtain ⟨state, queued, leaves, untouched⟩ :=
          exists_untouched_of_not_readsErased (show ([] ++ runtime.queue).Nodup from distinct) intact
        obtain ⟨pending, completed⟩ := expires.completed state queued leaves
        rw [← untouched] at pending
        change ((runtime.expireQueuedLocked slot now).heap state).done = false at pending
        rw [completed] at pending
        cases pending
  · rintro ⟨pending, intact⟩
    have heap := heap_expireFrom_of_readsErased (show ([] ++ runtime.queue).Nodup from distinct)
      pending intact
    refine ⟨queue, ?_, ?_, ?_⟩
    · intro state queued leaves
      exact ⟨pending state queued, (heap state).trans (if_pos ⟨queued, leaves⟩)⟩
    · intro state stays
      refine (heap state).trans (if_neg fun left => ?_)
      cases (stays left.1).symm.trans left.2
    · intro state queued
      rw [queue, mem_filter] at queued
      rw [expireQueuedLocked, heap, if_neg fun left => by simp [left.2] at queued]
      exact pending state queued.1

/-- Of two queued requests the first one is due. -/
theorem expires_front :
    ∃ runtime, Reachable libstdcxxSlot (fun _ _ => True) runtime ∧ runtime.queue = [0, 1] ∧
      (runtime.expireQueuedLocked libstdcxxSlot 1000000).queue = [1] ∧
      Expires runtime (runtime.expireQueuedLocked libstdcxxSlot 1000000) 1000000 := by
  have run : (execute libstdcxxSlot (fun _ _ => True) { tenantScope := "t" }
      [.submit { requestId := "a", tenantId := "t", timeout := 1 } 0,
        .submit { requestId := "b", tenantId := "t" } 0]).map
      (fun runtime => (runtime.queue, (runtime.heap 0).done, (runtime.heap 1).done,
        readsErased libstdcxxSlot runtime 1000000 [] runtime.queue,
        (runtime.expireQueuedLocked libstdcxxSlot 1000000).queue)) =
        some ([0, 1], false, false, true, [1]) := by
    decide
  obtain ⟨runtime, reached, facts⟩ := Reachable.of_execute (by decide) run
  simp only [Prod.mk.injEq] at facts
  obtain ⟨queue, first, second, intact, after⟩ := facts
  refine ⟨runtime, reached, queue, after, ?_⟩
  refine (expires_iff libstdcxxSlot runtime 1000000 (by simp [queue])).mpr ⟨?_, intact⟩
  rw [queue]
  simp [first, second]

/-- The second of three queued requests is due. Its slot is refilled with the third,
which is completed in its place, while it is in the queue and not due. -/
theorem expires_wrong_request :
    ∃ runtime, Reachable libstdcxxSlot (fun _ _ => True) runtime ∧ runtime.queue = [0, 1, 2] ∧
      (∀ state ∈ runtime.queue, (runtime.heap state).done = false) ∧
      ¬ Expires runtime (runtime.expireQueuedLocked libstdcxxSlot 1000000) 1000000 := by
  have run : (execute libstdcxxSlot (fun _ _ => True) { tenantScope := "t" }
      [.submit { requestId := "a", tenantId := "t" } 0,
        .submit { requestId := "b", tenantId := "t", timeout := 1 } 0,
        .submit { requestId := "c", tenantId := "t" } 0]).map
      (fun runtime => (runtime.queue, (runtime.heap 0).done, (runtime.heap 1).done,
        (runtime.heap 2).done, runtime.leavesQueue 1000000 2,
        ((runtime.expireQueuedLocked libstdcxxSlot 1000000).heap 2).done)) =
        some ([0, 1, 2], false, false, false, false, true) := by
    decide
  obtain ⟨runtime, reached, facts⟩ := Reachable.of_execute (by decide) run
  simp only [Prod.mk.injEq] at facts
  obtain ⟨queue, first, second, third, stays, done⟩ := facts
  refine ⟨runtime, reached, queue, ?_, ?_⟩
  · rw [queue]
    simp [first, second, third]
  · intro expires
    rw [expires.others 2 fun _ => stays, third] at done
    cases done

end Runtime

end ShortHand.Serving
