import ShortHand.Serving.Runtime

/-! What a completion can change: counters, a heap cell and the retained results. -/

namespace ShortHand.Serving

variable (counters : RuntimeMetrics)

/-- Requests that reached a terminal status. -/
def RuntimeMetrics.terminal : Nat :=
  counters.succeeded + counters.handlerError + counters.cancelled +
    counters.deadlineExceeded + counters.shutdown

@[simp]
theorem RuntimeMetrics.terminal_recordTerminal (status : TerminalStatus) :
    (counters.recordTerminal status).terminal = counters.terminal + 1 := by
  cases status <;> simp only [recordTerminal, terminal] <;> omega

@[simp]
theorem RuntimeMetrics.accepted_recordTerminal (status : TerminalStatus) :
    (counters.recordTerminal status).accepted = counters.accepted := by
  cases status <;> rfl

namespace Runtime

variable (runtime : Runtime) (state : Ref) (status : TerminalStatus) (output detail : String)
  (completedAt : Time)

/-- A runtime with other retention bookkeeping. -/
def withRetention (order : List String) (requests : AList (fun _ : String => Ref))
    (bytes evictions : Nat) (emptyPop : Bool) : Runtime :=
  { runtime with
    completedOrder := order
    requests
    retainedResultBytes := bytes
    emptyPop
    counters := { runtime.counters with resultEvictions := evictions } }

theorem evict_shape (oldest : String) :
    ∃ requests bytes evictions, runtime.evict oldest =
      runtime.withRetention runtime.completedOrder requests bytes evictions runtime.emptyPop := by
  unfold evict
  cases found : runtime.requests.lookup oldest with
  | none => exact ⟨_, _, _, rfl⟩
  | some entry =>
    by_cases done : (runtime.heap entry).done = true
    · simp only [done, if_true]
      exact ⟨_, _, _, rfl⟩
    · simp only [done]
      exact ⟨_, _, _, rfl⟩

theorem evictWhileOver_shape (order : List String) :
    ∃ kept requests bytes evictions emptyPop, runtime.evictWhileOver order =
      runtime.withRetention kept requests bytes evictions emptyPop := by
  induction order generalizing runtime with
  | nil =>
    rw [evictWhileOver]
    split <;> exact ⟨_, _, _, _, _, rfl⟩
  | cons oldest rest ih =>
    rw [evictWhileOver]
    split
    · obtain ⟨requests, bytes, evictions, evicted⟩ := evict_shape runtime oldest
      rw [evicted]
      exact ih _
    · exact ⟨_, _, _, _, _, rfl⟩

/-- A completion settles the request and then touches only what retention owns. -/
theorem completeLocked_shape (pending : (runtime.heap state).done = false) :
    ∃ kept requests bytes evictions emptyPop,
      runtime.completeLocked state status output detail completedAt =
        (runtime.settle state status output detail completedAt).withRetention
          kept requests bytes evictions emptyPop := by
  rw [completeLocked, if_neg (by simp [pending]), retainCompletedLocked]
  exact evictWhileOver_shape _ _

section Frame

variable {runtime state status output detail completedAt}

theorem completeLocked_of_done (done : (runtime.heap state).done = true) :
    runtime.completeLocked state status output detail completedAt = runtime := by
  rw [completeLocked, if_pos done]

theorem heap_completeLocked (pending : (runtime.heap state).done = false) :
    (runtime.completeLocked state status output detail completedAt).heap =
      Function.update runtime.heap state
        (finished (runtime.heap state) status output detail completedAt) := by
  obtain ⟨_, _, _, _, _, shape⟩ :=
    completeLocked_shape runtime state status output detail completedAt pending
  rw [shape]
  rfl

/-- A completion changes at most the cell of its request. -/
theorem completeLocked_cell (other : Ref) :
    (runtime.completeLocked state status output detail completedAt).heap other =
        runtime.heap other ∨
      other = state ∧ (runtime.heap other).done = false ∧
        (runtime.completeLocked state status output detail completedAt).heap other =
          finished (runtime.heap other) status output detail completedAt := by
  cases pending : (runtime.heap state).done with
  | true =>
    rw [completeLocked_of_done pending]
    exact .inl rfl
  | false =>
    rw [heap_completeLocked pending]
    by_cases same : other = state
    · subst same
      exact .inr ⟨rfl, pending, Function.update_self ..⟩
    · exact .inl (Function.update_of_ne same ..)

theorem completeLocked_frame :
    (runtime.completeLocked state status output detail completedAt).workers = runtime.workers ∧
      (runtime.completeLocked state status output detail completedAt).queue = runtime.queue ∧
      (runtime.completeLocked state status output detail completedAt).allocated =
        runtime.allocated := by
  cases pending : (runtime.heap state).done with
  | true =>
    rw [completeLocked_of_done pending]
    exact ⟨rfl, rfl, rfl⟩
  | false =>
    obtain ⟨_, _, _, _, _, shape⟩ :=
      completeLocked_shape runtime state status output detail completedAt pending
    rw [shape]
    exact ⟨rfl, rfl, rfl⟩

@[simp] theorem workers_completeLocked :
    (runtime.completeLocked state status output detail completedAt).workers = runtime.workers :=
  completeLocked_frame.1

@[simp] theorem queue_completeLocked :
    (runtime.completeLocked state status output detail completedAt).queue = runtime.queue :=
  completeLocked_frame.2.1

@[simp] theorem allocated_completeLocked :
    (runtime.completeLocked state status output detail completedAt).allocated = runtime.allocated :=
  completeLocked_frame.2.2

@[simp] theorem started_completeLocked (other : Ref) :
    ((runtime.completeLocked state status output detail completedAt).heap other).started =
      (runtime.heap other).started := by
  rcases completeLocked_cell other with same | ⟨_, _, same⟩ <;> rw [same]
  rfl

@[simp] theorem stopRequested_completeLocked (other : Ref) :
    ((runtime.completeLocked state status output detail completedAt).heap other).stopRequested =
      (runtime.heap other).stopRequested := by
  rcases completeLocked_cell other with same | ⟨_, _, same⟩ <;> rw [same]
  rfl

/-- Completion leaves the deadline and the token of every request alone. -/
theorem leavesQueue_completeLocked (now : Time) (other : Ref) :
    (runtime.completeLocked state status output detail completedAt).leavesQueue now other =
      runtime.leavesQueue now other := by
  rcases completeLocked_cell other with same | ⟨_, _, same⟩ <;> rw [leavesQueue, leavesQueue, same]
  rfl

end Frame

section Queue

variable (queue : List Ref)

theorem evict_withQueue (oldest : String) :
    evict { runtime with queue } oldest = { runtime.evict oldest with queue } := by
  unfold evict
  dsimp only
  split
  · rfl
  · split <;> rfl

theorem evictWhileOver_withQueue (order : List String) :
    evictWhileOver { runtime with queue } order = { runtime.evictWhileOver order with queue } := by
  induction order generalizing runtime with
  | nil =>
    rw [evictWhileOver, evictWhileOver]
    split <;> rfl
  | cons oldest rest ih =>
    rw [evictWhileOver, evictWhileOver, evict_withQueue, ih]
    split <;> rfl

/-- A completion neither reads nor writes the queue. -/
theorem completeLocked_withQueue :
    completeLocked { runtime with queue } state status output detail completedAt =
      { runtime.completeLocked state status output detail completedAt with queue } := by
  unfold completeLocked
  split
  · rfl
  · rw [retainCompletedLocked, retainCompletedLocked, ← evictWhileOver_withQueue]
    rfl

end Queue

end Runtime

end ShortHand.Serving
