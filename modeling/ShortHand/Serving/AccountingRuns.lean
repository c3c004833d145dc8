import ShortHand.Serving.Accounting

/-! The accounting of every interleaving, and the run in which the expiry pass breaks it. -/

namespace ShortHand.Serving

open ShortHand.Library List

namespace Runtime

variable {slot : ErasedSlot} {runtime after : Runtime}

/-- The ledger of the queue and of what the workers hold. -/
abbrev Balanced (runtime : Runtime) : Prop := Ledger runtime runtime.queue runtime.executing

/-- A worker that changes places gives up what it held and takes what it holds now. -/
theorem held_set_perm {workers : List Worker} (found : workers[worker]? = some old) (new : Worker) :
    (old.held.toList ++ (workers.set worker new).filterMap Worker.held).Perm
      (new.held.toList ++ workers.filterMap Worker.held) :=
  filterMap_set_perm found

theorem Balanced.takeResult (balanced : Balanced runtime) :
    Balanced (runtime.takeResult requestId state).2 := by
  unfold Runtime.takeResult
  dsimp only
  split <;> split <;> exact balanced.transfer (fun _ => ⟨rfl, rfl, rfl⟩) rfl rfl rfl rfl rfl rfl

theorem Balanced.move (balanced : Balanced runtime) (held : intact)
    (move : Move intact own runtime after) : Balanced after := by
  cases move with
  | note accepted terminal =>
    exact balanced.transfer (fun _ => ⟨rfl, rfl, rfl⟩) rfl rfl rfl rfl accepted terminal
  | @stop heap flagged =>
    refine balanced.transfer (fun state => ?_) rfl rfl rfl rfl rfl rfl
    rcases flagged state with same | same <;> simp [same]
  | @withdraw first state later _ _ _ _ queue _ same _ =>
    cases same held
    rw [Balanced, queue] at balanced
    have front : Ledger { runtime with queue := first ++ later } (first ++ state :: later)
        runtime.executing := balanced.transfer (fun _ => ⟨rfl, rfl, rfl⟩) rfl rfl rfl rfl rfl rfl
    rw [Balanced, queue_completeLocked, executing, workers_completeLocked]
    exact front.completeQueued perm_middle
  | @start worker state rest startedAt queue idle =>
    rw [Balanced, queue] at balanced
    have front : Ledger { runtime with queue := rest } (state :: rest) runtime.executing :=
      balanced.transfer (fun _ => ⟨rfl, rfl, rfl⟩) rfl rfl rfl rfl rfl rfl
    exact (front.beginExecution worker startedAt).permHeld (held_set_perm idle (.executing state))
  | exit idle =>
    exact (balanced.permHeld (held_set_perm idle .exited)).transfer
      (fun _ => ⟨rfl, rfl, rfl⟩) rfl rfl rfl rfl rfl rfl
  | take => exact balanced.takeResult

theorem Balanced.moves (balanced : Balanced runtime) (held : intact)
    (moves : Moves intact own runtime after) : Balanced after := by
  induction moves with
  | refl => exact balanced
  | tail _ move ih => exact ih.move held move

theorem Balanced.workerFinish {worker : Nat} (balanced : Balanced runtime)
    (busy : runtime.workers[worker]? = some (.executing state)) :
    Balanced (runtime.workerFinish worker state outcome completedAt) := by
  have released : Ledger { runtime with workers := runtime.workers.set worker .waiting }
      runtime.queue runtime.executing :=
    balanced.transfer (fun _ => ⟨rfl, rfl, rfl⟩) rfl rfl rfl rfl rfl rfl
  obtain ⟨status, output, detail, completed, _⟩ :=
    workerFinish_completes runtime worker state outcome completedAt
  rw [completed, Balanced, queue_completeLocked, executing, workers_completeLocked]
  exact released.completeHeld (held_set_perm busy .waiting).symm

/-- The books as a reader of the counters understands them. -/
structure Accounting (runtime : Runtime) : Prop where
  accepted : runtime.counters.accepted = runtime.counters.succeeded +
    runtime.counters.handlerError + runtime.counters.cancelled +
    runtime.counters.deadlineExceeded + runtime.counters.shutdown + runtime.inFlight
  issued : runtime.counters.accepted = runtime.allocated
  inFlight : runtime.inFlight = runtime.unfinished.length
  owned : ∀ state ∈ runtime.unfinished,
    (runtime.queue.count state = 1 ∧ (runtime.heap state).started = false ∧
        state ∉ runtime.executing) ∨
      (runtime.executing.count state = 1 ∧ state ∉ runtime.queue)
  queued : ∀ state ∈ runtime.queue, (runtime.heap state).done = false
  active : runtime.active = runtime.executing.length
  bytes : runtime.inFlightRequestBytes = (runtime.unfinished.map runtime.payloadBytes).sum

theorem Balanced.accounting (balanced : Balanced runtime) : Accounting runtime := by
  have distinct : (runtime.queue ++ runtime.executing).Nodup :=
    balanced.owners.nodup_iff.mpr selected_nodup
  obtain ⟨queueNodup, executingNodup, disjoint⟩ := nodup_append.mp distinct
  refine ⟨balanced.terminal, balanced.issued, balanced.inFlight, ?_, ?_, balanced.active,
    balanced.bytes⟩
  · intro state membership
    rcases mem_append.mp (balanced.owners.mem_iff.mpr membership) with queued | held
    · left
      refine ⟨count_eq_one_of_mem queueNodup queued, balanced.waiting state queued, ?_⟩
      intro held
      exact disjoint state queued state held rfl
    · right
      refine ⟨count_eq_one_of_mem executingNodup held, ?_⟩
      intro queued
      exact disjoint state queued state held rfl
  · intro state queued
    have membership := balanced.owners.mem_iff.mp (mem_append_left _ queued)
    simpa using (mem_selected.mp membership).2

theorem Balanced.performed (balanced : Balanced runtime)
    (permitted : CompletesErased slot runtime action)
    (performed : Performed slot runtime action after) : Balanced after := by
  cases performed.section with
  | moves moves => exact balanced.moves permitted moves
  | accepts =>
    have expired := balanced.moves permitted (@admissionState_moves slot runtime _ _ True id)
    exact expired.acceptRequest _
  | finishes busy => exact balanced.workerFinish busy

theorem Balanced.initial (limits : RuntimeLimits) : Balanced (initial limits) := by
  have idle : (Serving.initial limits).executing = [] := by
    simp [executing, Serving.initial, Worker.held]
  rw [Balanced, idle]
  constructor <;> simp [Serving.initial, unfinished, selected, RuntimeMetrics.terminal]

/-- Whatever a standard library leaves in an erased slot: in every interleaving
whose expiry passes complete the requests they erase, the books are right in
every state. -/
theorem accounting_of_completesErased (slot : ErasedSlot) (runtime : Runtime)
    (reached : Reachable slot (CompletesErased slot) runtime) : Accounting runtime := by
  have balanced : Balanced runtime := by
    refine reached.invariant (fun limits _ => Balanced.initial limits) ?_ ?_
    · intro runtime clock balanced
      exact balanced.transfer (fun _ => ⟨rfl, rfl, rfl⟩) rfl rfl rfl rfl rfl rfl
    · intro earlier action later balanced permitted performed
      exact balanced.performed permitted performed
  exact balanced.accounting

/-- A request expires at the front of the queue and a worker takes the next one:
the pass completes what it erased, and the books are right. -/
theorem accounting_after_front_expiry :
    ∃ runtime, Reachable libstdcxxSlot (CompletesErased libstdcxxSlot) runtime ∧
      runtime.counters.deadlineExceeded = 1 ∧ runtime.executing = [1] ∧ Accounting runtime := by
  have run : (execute libstdcxxSlot (CompletesErased libstdcxxSlot)
      { tenantScope := "t" }
      [.submit { requestId := "a", tenantId := "t", timeout := 1 } 0,
        .submit { requestId := "b", tenantId := "t" } 0,
        .workerTake 0 1000000 1000000 1000000]).map
      (fun runtime => (runtime.counters.deadlineExceeded, runtime.executing)) =
        some (1, [1]) := by
    decide
  obtain ⟨runtime, reached, facts⟩ := Reachable.of_execute (by decide) run
  obtain ⟨expired, executing⟩ := Prod.mk.inj facts
  exact ⟨runtime, reached, expired, executing,
    accounting_of_completesErased libstdcxxSlot runtime reached⟩

/-- Request 1 expires between 0 and 2. The slot it leaves is refilled with 2, so
2 is completed and stays queued, and nobody owns 1 any more. -/
theorem accounting_lost_in_expiry :
    ∃ runtime, Reachable libstdcxxSlot (fun _ _ => True) runtime ∧
      runtime.queue = [0, 2, 3] ∧ runtime.executing = [] ∧
      (runtime.heap 1).done = false ∧ (runtime.heap 2).done = true ∧ ¬ Accounting runtime := by
  have run : (execute libstdcxxSlot (fun _ _ => True) { tenantScope := "t" }
      [.submit { requestId := "a", tenantId := "t" } 0,
        .submit { requestId := "b", tenantId := "t", timeout := 1 } 0,
        .submit { requestId := "c", tenantId := "t" } 0,
        .submit { requestId := "d", tenantId := "t" } 1000000]).map
      (fun runtime => (runtime.queue, runtime.executing, (runtime.heap 1).done,
        (runtime.heap 2).done)) = some ([0, 2, 3], [], false, true) := by
    decide
  obtain ⟨runtime, reached, facts⟩ := Reachable.of_execute (by decide) run
  simp only [Prod.mk.injEq] at facts
  obtain ⟨queue, executing, lost, completed⟩ := facts
  refine ⟨runtime, reached, queue, executing, lost, completed, ?_⟩
  intro accounting
  have pending := accounting.queued 2 (by simp [queue])
  simp [completed] at pending

end Runtime

end ShortHand.Serving
