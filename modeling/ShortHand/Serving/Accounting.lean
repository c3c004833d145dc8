import ShortHand.Library.Lists
import ShortHand.Serving.Moves

/-! A `Ledger` ties the counters to the unfinished requests; every critical section keeps it if
the expiry pass completes the entries it erases. -/

namespace ShortHand.Serving

open ShortHand.Library List

def Worker.held : Worker → Option Ref
  | .executing state => some state
  | .waiting | .exited => none

namespace Runtime

/-- The accepted requests that are not done. -/
def unfinished (runtime : Runtime) : List Ref :=
  selected runtime.allocated fun state => !(runtime.heap state).done

/-- The requests the workers hold. -/
def executing (runtime : Runtime) : List Ref := runtime.workers.filterMap Worker.held

def payloadBytes (runtime : Runtime) (state : Ref) : Nat :=
  (runtime.heap state).request.payload.utf8ByteSize

/-- The books of the runtime, with the unfinished requests divided between the
ones waiting in `queued` and the ones started in `held`. -/
structure Ledger (runtime : Runtime) (queued held : List Ref) : Prop where
  owners : (queued ++ held).Perm runtime.unfinished
  waiting : ∀ state ∈ queued, (runtime.heap state).started = false
  running : ∀ state ∈ held, (runtime.heap state).started = true
  active : runtime.active = held.length
  inFlight : runtime.inFlight = runtime.unfinished.length
  bytes : runtime.inFlightRequestBytes = (runtime.unfinished.map runtime.payloadBytes).sum
  terminal : runtime.counters.accepted = runtime.counters.terminal + runtime.inFlight
  issued : runtime.counters.accepted = runtime.allocated

variable {runtime after : Runtime} {queued held queued' held' : List Ref} {state : Ref}
  {status : TerminalStatus} {output detail : String} {completedAt now : Time}

/-- The ledger reads of a request only whether it is done or started, and its
payload. -/
theorem Ledger.transfer (ledger : Ledger runtime queued held)
    (progress : ∀ state, (after.heap state).done = (runtime.heap state).done ∧
      (after.heap state).started = (runtime.heap state).started ∧
      (after.heap state).request = (runtime.heap state).request)
    (allocated : after.allocated = runtime.allocated) (active : after.active = runtime.active)
    (inFlight : after.inFlight = runtime.inFlight)
    (bytes : after.inFlightRequestBytes = runtime.inFlightRequestBytes)
    (accepted : after.counters.accepted = runtime.counters.accepted)
    (terminal : after.counters.terminal = runtime.counters.terminal) :
    Ledger after queued held := by
  have sameUnfinished : after.unfinished = runtime.unfinished := by
    simp only [unfinished, allocated, progress]
  have samePayload : after.payloadBytes = runtime.payloadBytes := by
    funext state
    simp only [payloadBytes, progress]
  constructor
  · rw [sameUnfinished]
    exact ledger.owners
  · intro state membership
    rw [(progress state).2.1]
    exact ledger.waiting state membership
  · intro state membership
    rw [(progress state).2.1]
    exact ledger.running state membership
  · rw [active, ledger.active]
  · rw [inFlight, sameUnfinished, ledger.inFlight]
  · rw [bytes, sameUnfinished, samePayload, ledger.bytes]
  · rw [accepted, terminal, inFlight, ledger.terminal]
  · rw [accepted, allocated, ledger.issued]

theorem Ledger.permHeld (ledger : Ledger runtime queued held) (same : held'.Perm held) :
    Ledger runtime queued held' :=
  { ledger with
    owners := (same.append_left queued).trans ledger.owners
    running := fun state membership => ledger.running state (same.mem_iff.mp membership)
    active := by rw [ledger.active, same.length_eq] }

theorem unfinished_settle (runtime : Runtime) :
    (runtime.settle state status output detail completedAt).unfinished =
      runtime.unfinished.erase state := by
  apply selected_erase
  · intro other different
    simp [settle, Function.update_of_ne different]
  · simp [settle, finished]

section Settling

variable (ledger : Ledger runtime queued held)
  (taken : (queued ++ held).Perm (state :: (queued' ++ held')))
  (fromQueue : queued' ⊆ queued) (fromHeld : held' ⊆ held)
  (leaves : held.length = held'.length + if (runtime.heap state).started then 1 else 0)

include ledger taken fromQueue fromHeld leaves

/-- Settling an owned request takes it from its owner and from every total. -/
theorem Ledger.settle :
    Ledger (runtime.settle state status output detail completedAt) queued' held' := by
  have membership : state ∈ runtime.unfinished :=
    ledger.owners.mem_iff.mp (taken.mem_iff.mpr (by simp))
  have remaining : runtime.unfinished.Perm (state :: runtime.unfinished.erase state) :=
    perm_cons_erase membership
  have sameStarted : ∀ other,
      ((runtime.settle state status output detail completedAt).heap other).started =
        (runtime.heap other).started := by
    intro other
    by_cases same : other = state
    · simp [Runtime.settle, finished, same]
    · simp [Runtime.settle, Function.update_of_ne same]
  have samePayload : ∀ other ∈ runtime.unfinished.erase state,
      (runtime.settle state status output detail completedAt).payloadBytes other =
        runtime.payloadBytes other := by
    intro other kept
    have different : other ≠ state := by
      rintro rfl
      exact selected_nodup.not_mem_erase kept
    simp [payloadBytes, Runtime.settle, Function.update_of_ne different]
  have fewer : runtime.inFlight = (runtime.unfinished.erase state).length + 1 := by
    rw [ledger.inFlight, remaining.length_eq, length_cons]
  constructor
  · rw [unfinished_settle]
    have erased := (taken.symm.trans ledger.owners).erase state
    rwa [erase_cons_head] at erased
  · intro other membership
    rw [sameStarted]
    exact ledger.waiting other (fromQueue membership)
  · intro other membership
    rw [sameStarted]
    exact ledger.running other (fromHeld membership)
  · simp only [Runtime.settle, ledger.active, leaves]
    cases (runtime.heap state).started <;> simp
  · rw [unfinished_settle]
    simp [Runtime.settle, fewer]
  · have total : runtime.inFlightRequestBytes = runtime.payloadBytes state +
        ((runtime.unfinished.erase state).map runtime.payloadBytes).sum := by
      rw [ledger.bytes, (remaining.map _).sum_eq, map_cons, sum_cons]
    rw [unfinished_settle, map_congr_left samePayload]
    change (if runtime.inFlightRequestBytes ≥ runtime.payloadBytes state
      then runtime.inFlightRequestBytes - runtime.payloadBytes state else 0) = _
    rw [total, if_pos (Nat.le_add_right _ _), Nat.add_sub_cancel_left]
  · have before := ledger.terminal
    simp only [Runtime.settle, RuntimeMetrics.accepted_recordTerminal,
      RuntimeMetrics.terminal_recordTerminal, before, fewer]
    simp
    omega
  · exact (RuntimeMetrics.accepted_recordTerminal _ _).trans ledger.issued

theorem Ledger.completeLocked :
    Ledger (runtime.completeLocked state status output detail completedAt) queued' held' := by
  have membership : state ∈ runtime.unfinished :=
    ledger.owners.mem_iff.mp (taken.mem_iff.mpr (by simp))
  obtain ⟨_, pending⟩ := mem_selected.mp membership
  obtain ⟨_, _, _, _, _, shape⟩ := completeLocked_shape runtime state status output detail
    completedAt (by simpa using pending)
  rw [shape]
  exact (ledger.settle taken fromQueue fromHeld leaves).transfer (fun _ => ⟨rfl, rfl, rfl⟩)
    rfl rfl rfl rfl rfl rfl

end Settling

/-- Completing a queued request, wherever it stands in the queue. -/
theorem Ledger.completeQueued (ledger : Ledger runtime queued held)
    (taken : queued.Perm (state :: queued')) :
    Ledger (runtime.completeLocked state status output detail completedAt) queued' held := by
  have membership : state ∈ queued := taken.mem_iff.mpr (by simp)
  refine ledger.completeLocked (taken.append_right held) ?_ (Subset.refl held) ?_
  · intro other kept
    exact taken.mem_iff.mpr (mem_cons_of_mem state kept)
  · simp [ledger.waiting state membership]

/-- Completing a request that a worker holds. -/
theorem Ledger.completeHeld (ledger : Ledger runtime queued held)
    (taken : held.Perm (state :: held')) :
    Ledger (runtime.completeLocked state status output detail completedAt) queued held' := by
  have membership : state ∈ held := taken.mem_iff.mpr (by simp)
  refine ledger.completeLocked ?_ (Subset.refl queued) ?_ ?_
  · exact (taken.append_left queued).trans perm_middle
  · intro other kept
    exact taken.mem_iff.mpr (mem_cons_of_mem state kept)
  · simp [ledger.running state membership, taken.length_eq]

theorem heap_beginExecution (runtime : Runtime) (worker : Nat) (startedAt : Time) (other : Ref) :
    ((runtime.beginExecution worker state startedAt).heap other).done =
        (runtime.heap other).done ∧
      ((runtime.beginExecution worker state startedAt).heap other).request =
        (runtime.heap other).request := by
  by_cases same : other = state
  · simp [beginExecution, same]
  · simp [beginExecution, Function.update_of_ne same]

/-- Handing a queued request to a worker. -/
theorem Ledger.beginExecution (ledger : Ledger runtime (state :: queued) held) (worker : Nat)
    (startedAt : Time) :
    Ledger (runtime.beginExecution worker state startedAt) queued (state :: held) := by
  have distinct : (state :: queued ++ held).Nodup := ledger.owners.nodup_iff.mpr selected_nodup
  obtain ⟨fresh, _⟩ := nodup_cons.mp distinct
  have sameUnfinished :
      (runtime.beginExecution worker state startedAt).unfinished = runtime.unfinished := by
    simp only [unfinished, heap_beginExecution]
    rfl
  have samePayload :
      (runtime.beginExecution worker state startedAt).payloadBytes = runtime.payloadBytes := by
    funext other
    simp only [payloadBytes, heap_beginExecution]
  constructor
  · rw [sameUnfinished]
    exact perm_middle.trans ledger.owners
  · intro other membership
    have different : other ≠ state := by
      rintro rfl
      exact fresh (mem_append_left held membership)
    simpa [Runtime.beginExecution, Function.update_of_ne different] using
      ledger.waiting other (mem_cons_of_mem state membership)
  · intro other membership
    by_cases same : other = state
    · simp [Runtime.beginExecution, same]
    · simpa [Runtime.beginExecution, Function.update_of_ne same] using
        ledger.running other (mem_of_ne_of_mem same membership)
  · exact congrArg (· + 1) ledger.active
  · rw [sameUnfinished]
    exact ledger.inFlight
  · rw [sameUnfinished, samePayload]
    exact ledger.bytes
  · exact ledger.terminal
  · exact ledger.issued

/-- A fresh request state joins the end of the queue. -/
theorem Ledger.acceptRequest (ledger : Ledger runtime queued held) (request : Request) :
    Ledger (runtime.acceptRequest request now) (queued ++ [runtime.allocated]) held := by
  have olderHeap : ∀ other < runtime.allocated,
      (runtime.acceptRequest request now).heap other = runtime.heap other := by
    intro other older
    simp [Runtime.acceptRequest, Function.update_of_ne (Nat.ne_of_lt older)]
  have grown : (runtime.acceptRequest request now).unfinished =
      runtime.unfinished ++ [runtime.allocated] := by
    change selected (runtime.allocated + 1) _ = _
    rw [selected_succ (by simp [Runtime.acceptRequest])]
    congr 1
    apply selected_congr
    intro other older
    rw [olderHeap other older]
  have allocatedBefore : ∀ other ∈ queued ++ held, other < runtime.allocated := by
    intro other membership
    exact (mem_selected.mp (ledger.owners.mem_iff.mp membership)).1
  constructor
  · rw [grown, append_assoc]
    refine Perm.trans ?_ (ledger.owners.append_right [runtime.allocated])
    rw [append_assoc]
    exact perm_append_comm.append_left queued
  · intro other membership
    rcases mem_append.mp membership with older | fresh
    · rw [olderHeap other (allocatedBefore other (mem_append_left held older))]
      exact ledger.waiting other older
    · simp [Runtime.acceptRequest, mem_singleton.mp fresh]
  · intro other membership
    rw [olderHeap other (allocatedBefore other (mem_append_right queued membership))]
    exact ledger.running other membership
  · exact ledger.active
  · rw [grown, length_append, ← ledger.inFlight]
    rfl
  · have samePayload : ∀ other ∈ runtime.unfinished,
        (runtime.acceptRequest request now).payloadBytes other = runtime.payloadBytes other := by
      intro other membership
      rw [payloadBytes, olderHeap other (mem_selected.mp membership).1, payloadBytes]
    rw [grown, map_append, sum_append, map_congr_left samePayload, ← ledger.bytes]
    simp [payloadBytes, Runtime.acceptRequest]
  · have before := ledger.terminal
    change runtime.counters.accepted + 1 = runtime.counters.terminal + (runtime.inFlight + 1)
    omega
  · exact congrArg (· + 1) ledger.issued

end Runtime

end ShortHand.Serving
