import ShortHand.Serving.Retention

/-! Result retention in every interleaving. The one hazard is a blocked `wait` that resumes
after its id was reused. -/

namespace ShortHand.Serving

open ShortHand.Library List

namespace Runtime

variable {slot : ErasedSlot} {runtime after : Runtime} {requestId : String} {state : Ref}
  {now : Time}

theorem Tidy.transfer (tidy : Tidy runtime)
    (heap : ∀ state, (after.heap state).done = (runtime.heap state).done ∧
      (after.heap state).result = (runtime.heap state).result ∧
      (after.heap state).request.requestId = (runtime.heap state).request.requestId)
    (requests : after.requests = runtime.requests)
    (order : after.completedOrder = runtime.completedOrder)
    (limits : after.limits = runtime.limits)
    (allocated : after.allocated = runtime.allocated)
    (bytes : after.retainedResultBytes = runtime.retainedResultBytes)
    (popped : after.emptyPop = runtime.emptyPop)
    (queued : ∀ state ∈ after.queue, state < runtime.allocated)
    (held : ∀ state, Worker.executing state ∈ after.workers → state < runtime.allocated) :
    Tidy after := by
  refine ⟨⟨?_, ?_, ?_⟩, popped.trans tidy.popped, ?_, ?_⟩
  · rw [order]
    exact tidy.registry.transfer heap requests allocated bytes
  · rw [order, limits]
    exact tidy.capacity
  · rw [bytes, limits]
    exact tidy.budget
  · rwa [allocated]
  · rwa [allocated]

theorem Tidy.withQueue (tidy : Tidy runtime) {queue : List Ref}
    (queued : ∀ state ∈ queue, state < runtime.allocated) :
    Tidy { runtime with queue } :=
  tidy.transfer (fun _ => ⟨rfl, rfl, rfl⟩) rfl rfl rfl rfl rfl rfl queued tidy.held

/-- A worker that changes places may only take up an allocated request. -/
theorem Tidy.held_set (tidy : Tidy runtime)
    (allowed : ∀ state, place = .executing state → state < runtime.allocated) :
    ∀ state, Worker.executing state ∈ runtime.workers.set worker place → state < runtime.allocated := by
  intro state membership
  rcases mem_or_eq_of_mem_set membership with old | new
  · exact tidy.held state old
  · exact allowed state new.symm

theorem Tidy.setWorker (tidy : Tidy runtime) (worker : Nat) (place : Worker)
    (idle : ∀ state, place ≠ .executing state) :
    Tidy { runtime with workers := runtime.workers.set worker place } :=
  tidy.transfer (fun _ => ⟨rfl, rfl, rfl⟩) rfl rfl rfl rfl rfl rfl tidy.queued
    (tidy.held_set fun state same => absurd same (idle state))

/-- The id of a new request is not in the map, so nothing listed changes. -/
theorem Tidy.acceptRequest (tidy : Tidy runtime)
    (absent : runtime.requests.lookup request.requestId = none) :
    Tidy (runtime.acceptRequest request now) := by
  have lookupOther : ∀ other, other ≠ request.requestId →
      (runtime.acceptRequest request now).requests.lookup other =
        runtime.requests.lookup other :=
    fun other different => AList.lookup_insert_ne different
  have lookupSelf : (runtime.acceptRequest request now).requests.lookup request.requestId =
      some runtime.allocated := AList.lookup_insert _
  have heapOther : ∀ other < runtime.allocated,
      (runtime.acceptRequest request now).heap other = runtime.heap other := by
    intro other older
    simp [Runtime.acceptRequest, Function.update_of_ne (Nat.ne_of_lt older)]
  have heapSelf : ((runtime.acceptRequest request now).heap runtime.allocated).request = request ∧
      ((runtime.acceptRequest request now).heap runtime.allocated).done = false := by
    simp [Runtime.acceptRequest]
  have unlisted : request.requestId ∉ runtime.completedOrder := by
    intro listed
    obtain ⟨_, present, _⟩ := (tidy.registry.listed _).mp listed
    cases absent.symm.trans present
  have registry : Registry (runtime.acceptRequest request now) runtime.completedOrder := by
    constructor
    · intro requestId entry present
      by_cases same : requestId = request.requestId
      · subst same
        cases lookupSelf.symm.trans present
        exact ⟨Nat.lt_succ_self _, congrArg Request.requestId heapSelf.1⟩
      · rw [lookupOther _ same] at present
        obtain ⟨older, named⟩ := tidy.registry.known requestId entry present
        rw [heapOther entry older]
        exact ⟨Nat.lt_succ_of_lt older, named⟩
    · intro entry allocated pending
      rcases Nat.lt_succ_iff_lt_or_eq.mp allocated with older | rfl
      · rw [heapOther entry older] at pending ⊢
        have present := tidy.registry.findable entry older pending
        refine (lookupOther _ ?_).trans present
        intro same
        rw [same] at present
        cases absent.symm.trans present
      · rwa [heapSelf.1]
    · exact tidy.registry.distinct
    · intro requestId
      by_cases same : requestId = request.requestId
      · subst same
        simp [unlisted, lookupSelf, heapSelf.2]
      rw [tidy.registry.listed requestId, lookupOther _ same]
      constructor <;> rintro ⟨entry, present, done⟩ <;>
        obtain ⟨older, _⟩ := tidy.registry.known requestId entry present <;>
        refine ⟨entry, present, ?_⟩ <;>
        simpa only [heapOther entry older] using done
    · have sameBytes : ∀ requestId ∈ runtime.completedOrder,
          (runtime.acceptRequest request now).retainedBytes requestId =
            runtime.retainedBytes requestId := by
        intro requestId listed
        obtain ⟨entry, present, _⟩ := (tidy.registry.listed requestId).mp listed
        have different : requestId ≠ request.requestId := by
          rintro rfl
          exact unlisted listed
        have older := (tidy.registry.known requestId entry present).1
        simp only [retainedBytes, lookupOther _ different, present, heapOther entry older]
      rw [map_congr_left sameBytes]
      exact tidy.registry.bytes
  refine ⟨⟨registry, tidy.capacity, tidy.budget⟩, tidy.popped, ?_, ?_⟩
  · intro entry membership
    rcases mem_append.mp membership with older | fresh
    · exact Nat.lt_succ_of_lt (tidy.queued entry older)
    · exact mem_singleton.mp fresh ▸ Nat.lt_succ_self _
  · intro entry membership
    exact Nat.lt_succ_of_lt (tidy.held entry membership)

theorem lookup_none_of_accepted (accepted : (runtime.admission request).status = .accepted) :
    runtime.requests.lookup request.requestId = none := by
  by_contra present
  have found : (runtime.requests.lookup request.requestId).isSome = true :=
    Option.isSome_iff_ne_none.mpr present
  unfold admission at accepted
  split_ifs at accepted

/-- `wait` takes the result it found. It edits the order by id, which is right
as long as no other finished request has that id. -/
theorem Tidy.takeResult (tidy : Tidy runtime) (done : (runtime.heap state).done = true)
    (own : ∀ other, runtime.requests.lookup requestId = some other →
      other = state ∨ (runtime.heap other).done = false) :
    Tidy (runtime.takeResult requestId state).2 := by
  by_cases found : runtime.requests.lookup requestId = some state
  · have listed := (tidy.registry.listed requestId).mpr ⟨state, found, done⟩
    have dropped := tidy.registry.drop found listed runtime.counters.resultEvictions
    simp only [Runtime.takeResult, found, if_true, listed]
    refine ⟨⟨?_, ?_, ?_⟩, tidy.popped, tidy.queued, tidy.held⟩
    · exact dropped.transfer (fun _ => ⟨rfl, rfl, rfl⟩) rfl rfl rfl
    · exact (length_erase_le).trans tidy.capacity
    · have budget := tidy.budget
      dsimp only
      split <;> omega
  · have unlisted : requestId ∉ runtime.completedOrder := by
      intro listed
      obtain ⟨other, present, finished⟩ := (tidy.registry.listed requestId).mp listed
      rcases own other present with rfl | pending
      · exact found present
      · exact Bool.noConfusion (finished.symm.trans pending)
    simpa only [Runtime.takeResult, found, if_false, unlisted] using tidy

theorem Tidy.move (tidy : Tidy runtime) (held : own) (move : Move intact own runtime after) :
    Tidy after := by
  cases move with
  | note => exact tidy.transfer (fun _ => ⟨rfl, rfl, rfl⟩) rfl rfl rfl rfl rfl rfl tidy.queued tidy.held
  | stop flagged =>
    refine tidy.transfer (fun state => ?_) rfl rfl rfl rfl rfl rfl tidy.queued tidy.held
    rcases flagged state with same | same <;> simp [same]
  | withdraw queue listed =>
    refine Tidy.completeLocked (tidy.withQueue fun other kept => tidy.queued other ?_)
      (tidy.queued _ listed)
    rw [queue]
    exact ((sublist_cons_self _ _).append_left _).subset kept
  | @start worker state rest startedAt queue =>
    have queued : ∀ other ∈ state :: rest, other < runtime.allocated := queue ▸ tidy.queued
    refine tidy.transfer (fun other => ?_) rfl rfl rfl rfl rfl rfl
      (fun other later => queued other (mem_cons_of_mem state later))
      (tidy.held_set fun other same => ?_)
    · by_cases same : other = state
      · simp [beginExecution, same]
      · simp [beginExecution, Function.update_of_ne same]
    · cases same
      exact queued state mem_cons_self
  | exit => exact tidy.setWorker _ .exited nofun
  | take done mine => exact tidy.takeResult done (mine held)

theorem Tidy.moves (tidy : Tidy runtime) (held : own) (moves : Moves intact own runtime after) :
    Tidy after := by
  induction moves with
  | refl => exact tidy
  | tail _ move ih => exact ih.move held move

theorem Tidy.performed (tidy : Tidy runtime) (permitted : WakesOwn runtime action)
    (performed : Performed slot runtime action after) : Tidy after := by
  cases performed.section with
  | moves moves => exact tidy.moves permitted moves
  | @accepts request now accepted =>
    have expired := tidy.moves trivial (@admissionState_moves slot runtime now False True nofun)
    exact expired.acceptRequest (lookup_none_of_accepted accepted)
  | @finishes worker outcome completedAt state busy =>
    obtain ⟨status, output, detail, completed, _⟩ :=
      workerFinish_completes runtime worker state outcome completedAt
    rw [completed]
    exact (tidy.setWorker worker .waiting nofun).completeLocked
      (tidy.held state (mem_of_getElem? busy))

theorem Tidy.initial (limits : RuntimeLimits) : Tidy (initial limits) := by
  refine ⟨⟨?_, Nat.zero_le _, Nat.zero_le _⟩, rfl, nofun, ?_⟩
  · constructor <;> simp [Serving.initial]
  · simp [Serving.initial]

/-- Which results are retained, and how much they hold. -/
structure Retention (runtime : Runtime) : Prop where
  distinct : runtime.completedOrder.Nodup
  listed : ∀ requestId, requestId ∈ runtime.completedOrder ↔
    ∃ state, runtime.requests.lookup requestId = some state ∧ (runtime.heap state).done = true
  bytes : runtime.retainedResultBytes = (runtime.completedOrder.map runtime.retainedBytes).sum
  capacity : runtime.completedOrder.length ≤ runtime.limits.completedResultCapacity
  budget : runtime.retainedResultBytes ≤ runtime.limits.maxRetainedResultBytes
  popped : runtime.emptyPop = false

/-- In every interleaving whose blocked waits resume on their own request, the
retained results are exactly the finished requests in the map. The stale
reference of the expiry pass does not matter here. -/
theorem retention_of_wakesOwn (slot : ErasedSlot) (runtime : Runtime)
    (reached : Reachable slot WakesOwn runtime) : Retention runtime := by
  have tidy : Tidy runtime := by
    refine reached.invariant (fun limits _ => Tidy.initial limits) ?_ ?_
    · intro runtime clock tidy
      exact tidy.transfer (fun _ => ⟨rfl, rfl, rfl⟩) rfl rfl rfl rfl rfl rfl tidy.queued tidy.held
    · intro earlier action later tidy permitted performed
      exact tidy.performed permitted performed
  exact ⟨tidy.registry.distinct, tidy.registry.listed, tidy.registry.bytes, tidy.capacity,
    tidy.budget, tidy.popped⟩

/-- Two waits on request 0 block, one takes its result, and the id is used again
for request 1, which completes. -/
def reusedId : List Action :=
  [.submit { requestId := "x", tenantId := "t" } 0, .wait "t" "x" 1, .wait "t" "x" 1,
    .workerTake 0 0 0 0, .workerFinish 0 (.ok ⟨true, "1", ""⟩) 0, .wake ⟨"x", 0⟩,
    .submit { requestId := "x", tenantId := "t" } 0,
    .workerTake 0 0 0 0, .workerFinish 0 (.ok ⟨true, "long", ""⟩) 0]

theorem retention_before_late_wake :
    ∃ runtime, Reachable libstdcxxSlot WakesOwn runtime ∧
      runtime.completedOrder = ["x"] ∧ runtime.retainedResultBytes = 4 ∧ Retention runtime := by
  have run : (execute libstdcxxSlot WakesOwn { tenantScope := "t" } reusedId).map
      (fun runtime => (runtime.completedOrder, runtime.retainedResultBytes)) =
        some (["x"], 4) := by
    decide
  obtain ⟨runtime, reached, facts⟩ := Reachable.of_execute (by decide) run
  obtain ⟨order, bytes⟩ := Prod.mk.inj facts
  exact ⟨runtime, reached, order, bytes, retention_of_wakesOwn libstdcxxSlot runtime reached⟩

/-- The second waiter wakes: it drops the id of request 1 from the order and
subtracts the size of the result of request 0. -/
theorem retention_lost_in_late_wake :
    ∃ runtime, Reachable libstdcxxSlot (fun _ _ => True) runtime ∧
      runtime.completedOrder = [] ∧ runtime.retainedResultBytes = 3 ∧
      runtime.requests.lookup "x" = some 1 ∧ (runtime.heap 1).done = true ∧
      ¬ Retention runtime := by
  have run : (execute libstdcxxSlot (fun _ _ => True) { tenantScope := "t" }
      (reusedId ++ [.wake ⟨"x", 0⟩])).map
      (fun runtime => (runtime.completedOrder, runtime.retainedResultBytes,
        runtime.requests.lookup "x", (runtime.heap 1).done)) = some ([], 3, some 1, true) := by
    decide
  obtain ⟨runtime, reached, facts⟩ := Reachable.of_execute (by decide) run
  simp only [Prod.mk.injEq] at facts
  obtain ⟨order, bytes, found, done⟩ := facts
  refine ⟨runtime, reached, order, bytes, found, done, ?_⟩
  intro retention
  have listed := (retention.listed "x").mpr ⟨1, found, done⟩
  rw [order] at listed
  cases listed

end Runtime

end ShortHand.Serving
