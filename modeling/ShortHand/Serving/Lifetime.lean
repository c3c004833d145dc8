import ShortHand.Serving.Accounting

/-! What the critical sections do to one request, apart from accepting it and from the end of a
handler call. -/

namespace ShortHand.Serving

open ShortHand.Library List

/-- What can happen to the cell of a request, which was `queued` before and may have
been `taken` from the queue. -/
structure CellMoves (queued taken : Prop) (old new : RequestState) : Prop where
  started : new.started = true → old.started = true ∨ taken
  stopped : old.stopRequested = true → new.stopRequested = true
  pending : new.done = false → old.done = false ∧ new.request = old.request
  done : old.done = true → new.done = true ∧ new.result = old.result
  completed : new.done = true → old.done = true ∨ queued ∧ new.result.status.unserved = true

section Cells

variable {queued taken : Prop} {old new : RequestState}

theorem CellMoves.refl (queued taken : Prop) (cell : RequestState) :
    CellMoves queued taken cell cell :=
  ⟨.inl, id, fun pending => ⟨pending, rfl⟩, fun done => ⟨done, rfl⟩, .inl⟩

theorem CellMoves.mono (moves : CellMoves queued taken old new) (still : taken → later) :
    CellMoves queued later old new :=
  { moves with started := fun started => (moves.started started).imp_right still }

theorem CellMoves.stop (moves : CellMoves queued taken old new) :
    CellMoves queued taken old { new with stopRequested := true } :=
  { moves with stopped := fun _ => rfl }

theorem CellMoves.start (moves : CellMoves queued taken old new) (startedAt : Time)
    (held : taken) : CellMoves queued taken old { new with started := true, startedAt } :=
  { moves with started := fun _ => .inr held }

theorem CellMoves.finish (moves : CellMoves queued taken old new) (pending : new.done = false)
    (waited : queued) (unserved : status.unserved = true) :
    CellMoves queued taken old (Runtime.finished new status "" detail completedAt) where
  started := moves.started
  stopped := moves.stopped
  pending := nofun
  done done := by
    cases pending.symm.trans (moves.done done).1
  completed _ := .inr ⟨waited, unserved⟩

end Cells

namespace Runtime

/-- What can happen to the runtime. -/
structure Proceeds (before after : Runtime) : Prop where
  queue : after.queue.Sublist before.queue
  allocated : after.allocated = before.allocated
  requests : ∀ requestId state, after.requests.lookup requestId = some state →
    before.requests.lookup requestId = some state
  executing : ∀ state ∈ after.executing,
    state ∈ before.executing ∨ state ∈ before.queue ∧ state ∉ after.queue
  cells : ∀ state, CellMoves (state ∈ before.queue) (state ∈ before.queue ∧ state ∉ after.queue)
    (before.heap state) (after.heap state)

section Proceeds

variable {slot : ErasedSlot} {before runtime after : Runtime} {state : Ref} {now : Time}
  {status : TerminalStatus} {output detail : String}

theorem Proceeds.refl (runtime : Runtime) : Proceeds runtime runtime :=
  ⟨.refl _, rfl, fun _ _ => id, fun _ => .inl, fun _ => .refl _ _ _⟩

/-- A change of the cells on the way. -/
theorem Proceeds.extend (proceeds : Proceeds before runtime)
    (queue : after.queue.Sublist runtime.queue) (allocated : after.allocated = runtime.allocated)
    (requests : ∀ requestId state, after.requests.lookup requestId = some state →
      runtime.requests.lookup requestId = some state)
    (executing : ∀ state ∈ after.executing, state ∈ runtime.executing)
    (cells : ∀ state, ∀ taken, CellMoves (state ∈ before.queue) taken (before.heap state)
      (runtime.heap state) →
        CellMoves (state ∈ before.queue) taken (before.heap state) (after.heap state)) :
    Proceeds before after := by
  have taken : ∀ state, state ∈ before.queue ∧ state ∉ runtime.queue →
      state ∈ before.queue ∧ state ∉ after.queue :=
    fun state left => ⟨left.1, fun queued => left.2 (queue.subset queued)⟩
  refine ⟨queue.trans proceeds.queue, allocated.trans proceeds.allocated, ?_, ?_, ?_⟩
  · intro requestId state found
    exact proceeds.requests requestId state (requests requestId state found)
  · intro state held
    exact (proceeds.executing state (executing state held)).imp_right (taken state)
  · intro state
    exact cells state _ ((proceeds.cells state).mono (taken state))

/-- A change that leaves the cells alone. -/
theorem Proceeds.transfer (proceeds : Proceeds before runtime)
    (queue : after.queue.Sublist runtime.queue) (allocated : after.allocated = runtime.allocated)
    (requests : ∀ requestId state, after.requests.lookup requestId = some state →
      runtime.requests.lookup requestId = some state)
    (executing : ∀ state ∈ after.executing, state ∈ runtime.executing)
    (heap : after.heap = runtime.heap) : Proceeds before after := by
  refine proceeds.extend queue allocated requests executing fun state taken moves => ?_
  rwa [heap]

theorem lookup_erase_some {requests : AList fun _ : String => Ref}
    (found : (requests.erase erased).lookup requestId = some state) :
    requests.lookup requestId = some state := by
  by_cases same : requestId = erased
  · subst same
    rw [AList.lookup_erase] at found
    cases found
  · rwa [AList.lookup_erase_ne same] at found

theorem lookup_evict (found : (runtime.evict oldest).requests.lookup requestId = some state) :
    runtime.requests.lookup requestId = some state := by
  unfold evict at found
  split at found
  · exact found
  · split at found
    · exact lookup_erase_some found
    · exact found

theorem lookup_evictWhileOver
    (found : (runtime.evictWhileOver order).requests.lookup requestId = some state) :
    runtime.requests.lookup requestId = some state := by
  induction order generalizing runtime with
  | nil =>
    rw [evictWhileOver] at found
    split at found <;> exact found
  | cons oldest rest ih =>
    rw [evictWhileOver] at found
    split at found
    · exact lookup_evict (ih found)
    · exact found

/-- Completing a request adds nothing to the map. -/
theorem lookup_completeLocked
    (found : (runtime.completeLocked state status output detail now).requests.lookup requestId =
      some other) : runtime.requests.lookup requestId = some other := by
  unfold completeLocked at found
  split at found
  · exact found
  · rw [retainCompletedLocked] at found
    exact (lookup_evictWhileOver found :)

@[simp] theorem executing_completeLocked :
    (runtime.completeLocked state status output detail now).executing = runtime.executing := by
  rw [executing, workers_completeLocked, executing]

/-- Completing a request that waited in the queue. -/
theorem Proceeds.complete (proceeds : Proceeds before runtime) (waited : state ∈ before.queue)
    (unserved : status.unserved = true) :
    Proceeds before (runtime.completeLocked state status "" detail now) := by
  refine proceeds.extend (by simp) (by simp) (fun _ _ => lookup_completeLocked) (by simp) ?_
  intro other taken moves
  rcases @completeLocked_cell runtime state status "" detail now other with
    same | ⟨rfl, pending, same⟩
  · rwa [same]
  · rw [same]
    exact moves.finish pending waited unserved

/-- Setting the tokens of some requests. -/
theorem Proceeds.stops (proceeds : Proceeds before runtime) {heap : Ref → RequestState}
    (flagged : ∀ state, heap state = runtime.heap state ∨
      heap state = { runtime.heap state with stopRequested := true }) :
    Proceeds before { runtime with heap } := by
  refine proceeds.extend (.refl _) rfl (fun _ _ => id) (fun _ => id) fun state taken moves => ?_
  rcases flagged state with same | set
  · change CellMoves _ _ _ (heap state)
    rwa [same]
  · change CellMoves _ _ _ (heap state)
    rw [set]
    exact moves.stop

theorem executing_set_subset (idle : place.held = none)
    (held : state ∈ Runtime.executing { runtime with workers := runtime.workers.set worker place }) :
    state ∈ runtime.executing := by
  obtain ⟨found, member, holds⟩ := mem_filterMap.mp held
  rcases mem_or_eq_of_mem_set member with old | new
  · exact mem_filterMap.mpr ⟨found, old, holds⟩
  · rw [new, idle] at holds
    cases holds

theorem Proceeds.beginExecution (proceeds : Proceeds before runtime)
    (waited : state ∈ before.queue) (popped : state ∉ runtime.queue) (startedAt : Time) :
    Proceeds before (runtime.beginExecution worker state startedAt) := by
  refine ⟨proceeds.queue, proceeds.allocated, proceeds.requests, ?_, ?_⟩
  · intro other held
    obtain ⟨found, member, holds⟩ := mem_filterMap.mp held
    rcases mem_or_eq_of_mem_set member with old | new
    · exact proceeds.executing other (mem_filterMap.mpr ⟨found, old, holds⟩)
    · rw [new] at holds
      cases holds
      exact .inr ⟨waited, popped⟩
  · intro other
    have moves := proceeds.cells other
    by_cases same : other = state
    · subst same
      change CellMoves _ _ _ (Function.update runtime.heap other _ other)
      rw [Function.update_self]
      exact moves.start startedAt ⟨waited, popped⟩
    · change CellMoves _ _ _ (Function.update runtime.heap state _ other)
      rwa [Function.update_of_ne same]

theorem Proceeds.move (proceeds : Proceeds before runtime) (distinct : before.queue.Nodup)
    (move : Move intact own runtime after) : Proceeds before after := by
  have popped : ∀ first state later, runtime.queue = first ++ state :: later →
      Proceeds before { runtime with queue := first ++ later } := by
    intro first state later queue
    refine proceeds.transfer ?_ rfl (fun _ _ => id) (fun _ => id) rfl
    rw [queue]
    exact (sublist_cons_self _ _).append_left _
  cases move with
  | note => exact proceeds.transfer (.refl _) rfl (fun _ _ => id) (fun _ => id) rfl
  | stop flagged => exact proceeds.stops flagged
  | withdraw queue listed _ unserved =>
    exact (popped _ _ _ queue).complete (proceeds.queue.subset listed) unserved
  | @start worker state rest startedAt queue =>
    have sublist := proceeds.queue
    rw [queue] at sublist
    exact (popped [] state rest queue).beginExecution (sublist.subset mem_cons_self)
      (nodup_cons.mp (distinct.sublist sublist)).1 startedAt
  | exit => exact proceeds.transfer (.refl _) rfl (fun _ _ => id) (fun _ => executing_set_subset rfl) rfl
  | @take requestId state =>
    unfold takeResult
    dsimp only
    split
    · split <;> exact proceeds.transfer (.refl _) rfl (fun _ _ => lookup_erase_some) (fun _ => id) rfl
    · split <;> exact proceeds.transfer (.refl _) rfl (fun _ _ => id) (fun _ => id) rfl

theorem Moves.proceeds (moves : Moves intact own before after) (distinct : before.queue.Nodup) :
    Proceeds before after := by
  induction moves with
  | refl => exact .refl before
  | tail _ move ih => exact ih.move distinct move

theorem admissionState_proceeds (distinct : before.queue.Nodup) :
    Proceeds before (before.admissionState slot now) :=
  (@admissionState_moves slot before now False True nofun).proceeds distinct

/-- What a critical section can do, said once. -/
inductive Effect (slot : ErasedSlot) (before : Runtime) : Action → Runtime → Prop where
  | proceeds {action after} (proceeds : Proceeds before after) : Effect slot before action after
  | accepts {request now} (accepted : (before.submit slot request now).1.status = .accepted) :
    Effect slot before (.submit request now)
      ((before.admissionState slot now).acceptRequest request now)
  | finishes {worker outcome completedAt state}
      (busy : before.workers[worker]? = some (.executing state)) :
    Effect slot before (.workerFinish worker outcome completedAt)
      (before.workerFinish worker state outcome completedAt)

theorem Performed.effect (performed : Performed slot before action after)
    (distinct : before.queue.Nodup) : Effect slot before action after := by
  cases performed.section with
  | moves moves => exact .proceeds (moves.proceeds distinct)
  | accepts accepted => exact .accepts (submit_answer slot before _ _ ▸ accepted)
  | finishes busy => exact .finishes busy

end Proceeds

end Runtime

end ShortHand.Serving
