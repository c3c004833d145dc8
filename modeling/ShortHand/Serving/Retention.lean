import ShortHand.Serving.Moves
import Mathlib.Algebra.BigOperators.Group.List.Basic

/-! Retention of completed results: which ids `completedOrder` lists, and how
many bytes they hold. -/

namespace ShortHand.Serving

open ShortHand.Library List

namespace Runtime

/-- The bytes of the result that the request map holds under an id. -/
def retainedBytes (runtime : Runtime) (requestId : String) : Nat :=
  match runtime.requests.lookup requestId with
  | some state => resultBytes (runtime.heap state).result
  | none => 0

/-- The request map against the heap, and `order` against the request map. An
unfinished request can always be found under its id. -/
structure Registry (runtime : Runtime) (order : List String) : Prop where
  known : ∀ requestId state, runtime.requests.lookup requestId = some state →
    state < runtime.allocated ∧ (runtime.heap state).request.requestId = requestId
  findable : ∀ state < runtime.allocated, (runtime.heap state).done = false →
    runtime.requests.lookup (runtime.heap state).request.requestId = some state
  distinct : order.Nodup
  listed : ∀ requestId, requestId ∈ order ↔
    ∃ state, runtime.requests.lookup requestId = some state ∧ (runtime.heap state).done = true
  bytes : runtime.retainedResultBytes = (order.map runtime.retainedBytes).sum

variable {slot : ErasedSlot} {runtime after : Runtime} {order rest : List String}
  {requestId oldest : String} {state : Ref} {status : TerminalStatus} {output detail : String}
  {completedAt now : Time}

theorem Registry.transfer (registry : Registry runtime order)
    (heap : ∀ state, (after.heap state).done = (runtime.heap state).done ∧
      (after.heap state).result = (runtime.heap state).result ∧
      (after.heap state).request.requestId = (runtime.heap state).request.requestId)
    (requests : after.requests = runtime.requests)
    (allocated : after.allocated = runtime.allocated)
    (bytes : after.retainedResultBytes = runtime.retainedResultBytes) :
    Registry after order := by
  have sameBytes : after.retainedBytes = runtime.retainedBytes := by
    funext requestId
    simp only [retainedBytes, requests, heap]
  constructor
  · simpa only [requests, allocated, heap] using registry.known
  · intro state older pending
    rw [requests, (heap state).2.2]
    exact registry.findable state (allocated ▸ older) ((heap state).1 ▸ pending)
  · exact registry.distinct
  · simpa only [requests, heap] using registry.listed
  · rw [bytes, sameBytes, registry.bytes]

/-- Dropping a listed id from the order, the map and the byte count. -/
theorem Registry.drop (registry : Registry runtime order)
    (found : runtime.requests.lookup requestId = some state) (listed : requestId ∈ order)
    (evictions : Nat) :
    Registry { runtime with
      retainedResultBytes :=
        if runtime.retainedResultBytes ≥ resultBytes (runtime.heap state).result
        then runtime.retainedResultBytes - resultBytes (runtime.heap state).result else 0
      requests := runtime.requests.erase requestId
      counters := { runtime.counters with resultEvictions := evictions } }
      (order.erase requestId) := by
  obtain ⟨_, found', done⟩ := (registry.listed requestId).mp listed
  cases found.symm.trans found'
  have lookupOther : ∀ other, other ≠ requestId →
      (runtime.requests.erase requestId).lookup other = runtime.requests.lookup other :=
    fun other different => AList.lookup_erase_ne different
  have lookupSelf : (runtime.requests.erase requestId).lookup requestId = none :=
    AList.lookup_erase _ _
  constructor
  · intro other entry present
    by_cases same : other = requestId
    · rw [same, lookupSelf] at present
      cases present
    · rw [lookupOther other same] at present
      exact registry.known other entry present
  · intro entry older pending
    have present := registry.findable entry older pending
    refine (lookupOther _ ?_).trans present
    intro same
    rw [same, found] at present
    cases present
    exact Bool.noConfusion (done.symm.trans pending)
  · exact registry.distinct.erase requestId
  · intro other
    rw [registry.distinct.mem_erase_iff]
    by_cases same : other = requestId
    · subst same
      simp [lookupSelf]
    · simp [same, lookupOther other same, registry.listed other]
  · have total : runtime.retainedResultBytes = resultBytes (runtime.heap state).result +
        ((order.erase requestId).map runtime.retainedBytes).sum := by
      rw [registry.bytes, ((perm_cons_erase listed).map _).sum_eq, map_cons,
        sum_cons, retainedBytes, found]
    have same : ∀ other ∈ order.erase requestId,
        retainedBytes { runtime with requests := runtime.requests.erase requestId } other =
          runtime.retainedBytes other := by
      intro other kept
      have different := (registry.distinct.mem_erase_iff.mp kept).1
      simp only [retainedBytes, lookupOther other different]
    refine Eq.trans ?_ (congrArg sum (map_congr_left same)).symm
    rw [total, if_pos (Nat.le_add_right _ _), Nat.add_sub_cancel_left]

theorem Registry.evict (registry : Registry runtime (oldest :: rest)) :
    Registry (runtime.evict oldest) rest := by
  have listed : oldest ∈ oldest :: rest := mem_cons_self
  obtain ⟨state, found, done⟩ := (registry.listed oldest).mp listed
  have dropped := registry.drop found listed (runtime.counters.resultEvictions + 1)
  rw [erase_cons_head] at dropped
  simpa only [Runtime.evict, found, done, if_true] using dropped

/-- What the eviction loop guarantees. An exact byte count is zero once the
deque is empty, so the loop stops there. -/
structure Within (runtime : Runtime) : Prop where
  registry : Registry runtime runtime.completedOrder
  capacity : runtime.completedOrder.length ≤ runtime.limits.completedResultCapacity
  budget : runtime.retainedResultBytes ≤ runtime.limits.maxRetainedResultBytes

theorem Registry.evictWhileOver (registry : Registry runtime order) :
    Within (runtime.evictWhileOver order) ∧
      (runtime.evictWhileOver order).emptyPop = runtime.emptyPop := by
  induction order generalizing runtime with
  | nil =>
    have zero : runtime.retainedResultBytes = 0 := registry.bytes
    rw [Runtime.evictWhileOver, if_neg (by omega)]
    refine ⟨⟨?_, Nat.zero_le _, ?_⟩, rfl⟩
    · exact registry.transfer (fun _ => ⟨rfl, rfl, rfl⟩) rfl rfl rfl
    · exact zero ▸ Nat.zero_le _
  | cons oldest rest ih =>
    rw [Runtime.evictWhileOver]
    split
    · obtain ⟨within, popped⟩ := ih registry.evict
      obtain ⟨_, _, _, shape⟩ := evict_shape runtime oldest
      refine ⟨within, popped.trans ?_⟩
      rw [shape]
      rfl
    · rename_i within
      simp only [Bool.or_eq_true, decide_eq_true_eq, not_or, Nat.not_lt] at within
      exact ⟨⟨registry.transfer (fun _ => ⟨rfl, rfl, rfl⟩) rfl rfl rfl, within.1, within.2⟩, rfl⟩

/-- Completing an unfinished request lists its id at the end. -/
theorem Registry.settle (registry : Registry runtime order) (older : state < runtime.allocated)
    (pending : (runtime.heap state).done = false) :
    Registry
      { runtime.settle state status output detail completedAt with
        retainedResultBytes :=
          (runtime.settle state status output detail completedAt).retainedResultBytes +
            resultBytes
              ((runtime.settle state status output detail completedAt).heap state).result }
      (order ++ [(runtime.heap state).request.requestId]) := by
  have found := registry.findable state older pending
  set settled := runtime.settle state status output detail completedAt
  have requests : settled.requests = runtime.requests := rfl
  have heapSelf : settled.heap state = finished (runtime.heap state) status output detail completedAt :=
    Function.update_self ..
  have heapOther : ∀ other, other ≠ state → settled.heap other = runtime.heap other :=
    fun _ different => Function.update_of_ne different ..
  have unlisted : (runtime.heap state).request.requestId ∉ order := by
    intro listed
    obtain ⟨_, present, done⟩ := (registry.listed _).mp listed
    cases found.symm.trans present
    exact Bool.noConfusion (done.symm.trans pending)
  have otherState : ∀ requestId entry, requestId ≠ (runtime.heap state).request.requestId →
      runtime.requests.lookup requestId = some entry → entry ≠ state := by
    rintro requestId entry different present rfl
    exact different (registry.known requestId entry present).2.symm
  constructor
  · intro requestId entry present
    obtain ⟨allocated, named⟩ := registry.known requestId entry present
    refine ⟨allocated, ?_⟩
    by_cases same : entry = state
    · subst same
      exact (congrArg (fun state => state.request.requestId) heapSelf).trans named
    · exact (congrArg (fun state => state.request.requestId) (heapOther entry same)).trans named
  · intro entry allocated unfinished
    by_cases same : entry = state
    · subst same
      exact Bool.noConfusion ((congrArg RequestState.done heapSelf).symm.trans unfinished)
    · have sameHeap := heapOther entry same
      rw [sameHeap] at unfinished ⊢
      exact registry.findable entry allocated unfinished
  · exact registry.distinct.append (nodup_singleton _) (by simpa using unlisted)
  · intro requestId
    by_cases same : requestId = (runtime.heap state).request.requestId
    · subst same
      simp only [mem_append, mem_singleton, or_true, true_iff]
      exact ⟨state, found, by rw [heapSelf]; rfl⟩
    · rw [mem_append, mem_singleton, registry.listed requestId]
      simp only [same, or_false]
      constructor
      · rintro ⟨entry, present, done⟩
        exact ⟨entry, present, by rw [heapOther entry (otherState _ _ same present)]; exact done⟩
      · rintro ⟨entry, present, done⟩
        rw [heapOther entry (otherState _ _ same present)] at done
        exact ⟨entry, present, done⟩
  · have sameBytes : ∀ requestId ∈ order,
        settled.retainedBytes requestId = runtime.retainedBytes requestId := by
      intro requestId listed
      obtain ⟨entry, present, _⟩ := (registry.listed requestId).mp listed
      have different : requestId ≠ (runtime.heap state).request.requestId := by
        rintro rfl
        exact unlisted listed
      simp only [retainedBytes, requests, present, heapOther entry (otherState _ _ different present)]
    have ownBytes : settled.retainedBytes (runtime.heap state).request.requestId =
        resultBytes (settled.heap state).result := by
      simp only [retainedBytes, requests, found]
    change runtime.retainedResultBytes + _ = ((order ++ [_]).map settled.retainedBytes).sum
    rw [map_append, sum_append, map_congr_left sameBytes, ← registry.bytes]
    simp [ownBytes]

/-- The whole invariant: results are retained within the limits, no empty deque
was popped, and the queue and the workers point to allocated requests. -/
structure Tidy (runtime : Runtime) : Prop extends Within runtime where
  popped : runtime.emptyPop = false
  queued : ∀ state ∈ runtime.queue, state < runtime.allocated
  held : ∀ state, Worker.executing state ∈ runtime.workers → state < runtime.allocated

theorem Tidy.completeLocked (tidy : Tidy runtime) (older : state < runtime.allocated) :
    Tidy (runtime.completeLocked state status output detail completedAt) := by
  cases pending : (runtime.heap state).done with
  | true => rwa [completeLocked_of_done pending]
  | false =>
    obtain ⟨within, popped⟩ := (tidy.registry.settle older pending).evictWhileOver
    have sameId : ((runtime.settle state status output detail completedAt).heap
        state).request.requestId = (runtime.heap state).request.requestId := by
      simp [Runtime.settle, finished]
    refine ⟨?_, ?_, ?_, ?_⟩
    · rwa [Runtime.completeLocked, if_neg (by simp [pending]), retainCompletedLocked, sameId]
    · rw [Runtime.completeLocked, if_neg (by simp [pending]), retainCompletedLocked, sameId]
      exact popped.trans tidy.popped
    · rw [queue_completeLocked, allocated_completeLocked]
      exact tidy.queued
    · rw [workers_completeLocked, allocated_completeLocked]
      exact tidy.held

end Runtime

end ShortHand.Serving
