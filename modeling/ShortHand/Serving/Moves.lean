import Mathlib.Logic.Relation
import ShortHand.Serving.Completion
import ShortHand.Serving.Step

/-! Each critical section but two is a sequence of a few small moves, so what these keep is kept
by every section. -/

namespace ShortHand.Serving

open List

/-- The statuses with which a request leaves the queue. -/
def TerminalStatus.unserved : TerminalStatus → Bool
  | .cancelled | .deadlineExceeded | .shutdown => true
  | .succeeded | .handlerError => false

namespace Runtime

/-- A small move. If `intact`, what leaves the queue is what is completed; if `own`, a
result is taken under an id that no other finished request has. -/
inductive Move (intact own : Prop) (runtime : Runtime) : Runtime → Prop where
  | note {counters waiters phase clock live accepting draining stopping joined}
      (accepted : counters.accepted = runtime.counters.accepted)
      (terminal : counters.terminal = runtime.counters.terminal)
      (closed : accepting = true → runtime.accepting = true) :
    Move intact own runtime { runtime with
      counters, waiters, shutdownPhase := phase, clock, live, accepting, draining, stopping, joined }
  | stop {heap} (flagged : ∀ state, heap state = runtime.heap state ∨
      heap state = { runtime.heap state with stopRequested := true }) :
    Move intact own runtime { runtime with heap }
  | withdraw {first state later victim status detail completedAt}
      (queue : runtime.queue = first ++ state :: later) (listed : victim ∈ runtime.queue)
      (same : intact → victim = state) (unserved : status.unserved = true) :
    Move intact own runtime
      (completeLocked { runtime with queue := first ++ later } victim status "" detail completedAt)
  | start {worker state rest startedAt} (queue : runtime.queue = state :: rest)
      (idle : runtime.workers[worker]? = some .waiting) :
    Move intact own runtime (beginExecution { runtime with queue := rest } worker state startedAt)
  | exit {worker} (idle : runtime.workers[worker]? = some .waiting) :
    Move intact own runtime { runtime with workers := runtime.workers.set worker .exited }
  | take {requestId state} (done : (runtime.heap state).done = true)
      (mine : own → ∀ other, runtime.requests.lookup requestId = some other →
        other = state ∨ (runtime.heap other).done = false) :
    Move intact own runtime (runtime.takeResult requestId state).2

abbrev Moves (intact own : Prop) : Runtime → Runtime → Prop := Relation.ReflTransGen (Move intact own)

variable {slot : ErasedSlot} {runtime after : Runtime} {now : Time} {kept ahead : List Ref}
  {state : Ref} {intact own : Prop}

/-- The status and the detail with which the pass completes a request. -/
def expiryStatus (runtime : Runtime) (now : Time) (state : Ref) : TerminalStatus × String :=
  if (runtime.heap state).deadline ≤ now then (.deadlineExceeded, "deadline_exceeded_while_queued")
  else (.cancelled, "cancelled_while_queued")

theorem expiryStatus_unserved : (runtime.expiryStatus now state).1.unserved = true := by
  unfold expiryStatus
  split <;> rfl

/-- One round of the pass at an entry that leaves. -/
theorem expireFrom_leaves (leaves : runtime.leavesQueue now state = true) :
    runtime.expireFrom slot now kept (state :: ahead) =
      (runtime.completeLocked (slot.read kept state ahead) (runtime.expiryStatus now state).1 ""
        (runtime.expiryStatus now state).2 now).expireFrom slot now kept ahead := by
  rw [expireFrom, expiryStatus]
  by_cases expired : (runtime.heap state).deadline ≤ now
  · simp [expired]
  · have stopped : (runtime.heap state).stopRequested = true := by
      simpa [leavesQueue, expired] using leaves
    simp [expired, stopped]

theorem expireFrom_stays (stays : runtime.leavesQueue now state = false) :
    runtime.expireFrom slot now kept (state :: ahead) =
      runtime.expireFrom slot now (kept ++ [state]) ahead := by
  obtain ⟨running, unstopped⟩ : ¬ (runtime.heap state).deadline ≤ now ∧
      (runtime.heap state).stopRequested = false := by
    simpa [leavesQueue] using stays
  rw [expireFrom, if_neg running, if_neg (by simp [unstopped])]

/-- Every entry that the expiry pass erases is what its stale reference still
reads. -/
def readsErased (slot : ErasedSlot) (runtime : Runtime) (now : Time) (kept : List Ref) :
    List Ref → Bool
  | [] => true
  | state :: ahead =>
    if runtime.leavesQueue now state then
      slot.read kept state ahead == state && readsErased slot runtime now kept ahead
    else readsErased slot runtime now (kept ++ [state]) ahead

theorem readsErased_congr
    (same : ∀ state, after.leavesQueue now state = runtime.leavesQueue now state) :
    readsErased slot after now kept ahead = readsErased slot runtime now kept ahead := by
  induction ahead generalizing kept with
  | nil => rfl
  | cons state ahead ih =>
    simp only [readsErased, same, ih]

theorem expireFrom_moves (reads : intact → readsErased slot runtime now kept ahead = true) :
    Moves intact own { runtime with queue := kept ++ ahead }
        (runtime.expireFrom slot now kept ahead) ∧
      (runtime.expireFrom slot now kept ahead).workers = runtime.workers := by
  induction ahead generalizing runtime kept with
  | nil =>
    rw [append_nil]
    exact ⟨.refl, rfl⟩
  | cons state ahead ih =>
    cases leaves : runtime.leavesQueue now state with
    | true =>
      simp only [readsErased, leaves, if_true, Bool.and_eq_true, beq_iff_eq] at reads
      have withdrawn : Move intact own { runtime with queue := kept ++ state :: ahead }
          (completeLocked { runtime with queue := kept ++ ahead } (slot.read kept state ahead)
            (runtime.expiryStatus now state).1 "" (runtime.expiryStatus now state).2 now) :=
        .withdraw rfl (slot.entry kept state ahead) (fun held => (reads held).1)
          expiryStatus_unserved
      rw [completeLocked_withQueue] at withdrawn
      rw [expireFrom_leaves leaves]
      obtain ⟨moves, workers⟩ := ih fun held =>
        (readsErased_congr (leavesQueue_completeLocked now)).trans (reads held).2
      exact ⟨.head withdrawn moves, workers.trans workers_completeLocked⟩
    | false =>
      simp only [readsErased, leaves, Bool.false_eq_true, if_false] at reads
      rw [expireFrom_stays leaves]
      have moves := ih reads
      rwa [append_assoc] at moves

theorem expireQueuedLocked_moves
    (reads : intact → readsErased slot runtime now [] runtime.queue = true) :
    Moves intact own runtime (runtime.expireQueuedLocked slot now) ∧
      (runtime.expireQueuedLocked slot now).workers = runtime.workers :=
  expireFrom_moves reads

/-- The runtime whose limits `submit` checks the request against. -/
def admissionState (slot : ErasedSlot) (runtime : Runtime) (now : Time) : Runtime :=
  expireQueuedLocked slot { runtime with
    counters := { runtime.counters with submitted := runtime.counters.submitted + 1 } } now

theorem admissionState_moves
    (reads : intact → readsErased slot runtime now [] runtime.queue = true) :
    Moves intact own runtime (runtime.admissionState slot now) := by
  refine .head ?_ (expireQueuedLocked_moves fun held => ?_).1
  · exact .note rfl rfl id
  · rw [← reads held]
    exact readsErased_congr fun _ => rfl

theorem submit_answer (slot : ErasedSlot) (runtime : Runtime) (request : Request) (now : Time) :
    (runtime.submit slot request now).1 = (runtime.admissionState slot now).admission request := by
  unfold submit
  simp only
  split <;> rfl

theorem countRejection_books (counters : RuntimeMetrics) (status : AdmissionStatus) :
    (countRejection counters status).accepted = counters.accepted ∧
      (countRejection counters status).terminal = counters.terminal := by
  cases status <;> exact ⟨rfl, rfl⟩

theorem submit_cases (slot : ErasedSlot) (runtime : Runtime) (request : Request) (now : Time) :
    Move intact own (runtime.admissionState slot now) (runtime.submit slot request now).2 ∨
      ((runtime.admissionState slot now).admission request).status = .accepted ∧
        (runtime.submit slot request now).2 =
          (runtime.admissionState slot now).acceptRequest request now := by
  unfold submit
  simp only
  split
  · rename_i accepted
    exact .inr ⟨accepted, rfl⟩
  · exact .inl (.note (countRejection_books _ _).1 (countRejection_books _ _).2 id)

theorem requestStop_move (runtime : Runtime) (state : Ref) :
    Move intact own runtime (runtime.requestStop state) := by
  refine .stop fun other => ?_
  by_cases same : other = state
  · subst same
    exact .inr (Function.update_self ..)
  · exact .inl (Function.update_of_ne same ..)

theorem cancel_moves (runtime : Runtime) (tenantId requestId : String) (now : Time) :
    Moves intact own runtime (runtime.cancel tenantId requestId now).2 := by
  unfold cancel
  split
  · exact .refl
  split
  · exact .refl
  rename_i state _
  split
  · exact .refl
  have flagged : Move intact own runtime _ := requestStop_move runtime state
  simp only
  split
  · rename_i queued
    obtain ⟨first, later, _, listed, erased⟩ := exists_erase_eq queued
    rw [erased]
    exact .tail (.single flagged) (.withdraw listed queued (fun _ => rfl) rfl)
  · exact .single flagged

theorem waitBegin_moves (runtime : Runtime) (tenantId requestId : String) (maxWait : Int) :
    Moves intact own runtime (runtime.waitBegin tenantId requestId maxWait).2 := by
  unfold waitBegin
  split
  · exact .refl
  split
  · exact .refl
  split
  · exact .refl
  rename_i state found
  split
  · rename_i done
    exact .single (.take done fun _ other present =>
      .inl (Option.some.inj (present.symm.trans found)))
  · exact .single (.note rfl rfl id)

theorem beginDrain_moves (runtime : Runtime) : Moves intact own runtime runtime.beginDrain.2 := by
  unfold beginDrain
  split
  · exact .refl
  · exact .single (.note rfl rfl nofun)

/-- Completing what is left of the queue, from its front. -/
def drainQueue (detail : String) (now : Time) (runtime : Runtime) : List Ref → Runtime
  | [] => { runtime with queue := [] }
  | state :: rest =>
    drainQueue detail now
      (completeLocked { runtime with queue := rest } state .shutdown "" detail now) rest

theorem shutdownQueue_eq_drainQueue (now : Time) (runtime : Runtime) (rest : List Ref) :
    shutdownQueue now runtime rest = drainQueue "grace_period_exhausted" now runtime rest := by
  induction rest generalizing runtime with
  | nil => rfl
  | cons state rest ih => exact ih _

theorem drainQueue_moves (queue : runtime.queue = rest) :
    Moves intact own runtime (runtime.drainQueue detail now rest) := by
  induction rest generalizing runtime with
  | nil =>
    rw [drainQueue, ← queue]
  | cons state rest ih =>
    have withdrawn : Move intact own runtime
        (completeLocked { runtime with queue := [] ++ rest } state .shutdown "" detail now) :=
      .withdraw queue (queue ▸ mem_cons_self) (fun _ => rfl) rfl
    exact .head withdrawn (ih queue_completeLocked)

theorem requestStops_move (runtime : Runtime) : Move intact own runtime runtime.requestStops := by
  refine .stop fun other => ?_
  split
  · exact .inr rfl
  · exact .inl rfl

theorem shutdownResume_moves (runtime : Runtime) (now : Time) :
    Moves intact own runtime (runtime.shutdownResume now) := by
  refine .tail ?_ (.note rfl rfl id)
  split
  · exact .refl
  · rw [shutdownQueue_eq_drainQueue]
    exact .head (requestStops_move runtime) (drainQueue_moves rfl)

theorem workerTake_moves (idle : runtime.workers[worker]? = some .waiting)
    (reads : intact → readsErased slot runtime expiredAt [] runtime.queue = true) :
    Moves intact own runtime (runtime.workerTake slot worker expiredAt checkedAt startedAt) := by
  obtain ⟨expired, workers⟩ := @expireQueuedLocked_moves slot runtime expiredAt intact own reads
  rw [← workers] at idle
  unfold workerTake
  split
  · exact .single (.exit (workers ▸ idle))
  dsimp only
  split
  · split
    · exact expired.tail (.exit idle)
    · exact expired
  · rename_i state rest queue
    have completed : ∀ status detail at_, status.unserved = true → Moves intact own runtime
        (completeLocked { runtime.expireQueuedLocked slot expiredAt with queue := [] ++ rest }
          state status "" detail at_) := fun _ _ _ unserved =>
      expired.tail (.withdraw queue (queue ▸ mem_cons_self) (fun _ => rfl) unserved)
    split
    · exact completed _ _ _ rfl
    · split
      · exact completed _ _ _ rfl
      · exact expired.tail (.start queue idle)

/-- How the end of a handler call completes its request. -/
theorem workerFinish_completes (runtime : Runtime) (worker : Nat) (state : Ref)
    (outcome : Except String HandlerResult) (completedAt : Time) :
    ∃ status output detail, runtime.workerFinish worker state outcome completedAt =
        Runtime.completeLocked { runtime with workers := runtime.workers.set worker .waiting }
          state status output detail completedAt ∧
      ((runtime.heap state).stopRequested = true → status = .cancelled) := by
  unfold workerFinish
  dsimp only
  split
  · exact ⟨_, _, _, rfl, fun _ => rfl⟩
  rename_i running
  have unstopped : ∀ {status : TerminalStatus},
      (runtime.heap state).stopRequested = true → status = .cancelled :=
    fun stopped => absurd stopped running
  split_ifs <;> exact ⟨_, _, _, rfl, unstopped⟩

/-- The two critical sections that run the expiry pass complete the requests
they erase from the queue. -/
def CompletesErased (slot : ErasedSlot) (runtime : Runtime) : Action → Prop
  | .submit _ now | .workerTake _ now _ _ => readsErased slot runtime now [] runtime.queue = true
  | _ => True

instance (slot : ErasedSlot) (runtime : Runtime) (action : Action) :
    Decidable (CompletesErased slot runtime action) := by
  unfold CompletesErased
  split <;> infer_instance

/-- A `wait` that resumes finds its id gone, still its own, or in the hands of a
request that is not done. -/
def WakesOwn (runtime : Runtime) : Action → Prop
  | .wake waiter => ∀ other ∈ runtime.requests.lookup waiter.requestId,
      other = waiter.state ∨ (runtime.heap other).done = false
  | _ => True

instance (runtime : Runtime) (action : Action) : Decidable (WakesOwn runtime action) := by
  unfold WakesOwn
  split <;> infer_instance

/-- What a critical section does. -/
inductive Section (slot : ErasedSlot) (before : Runtime) : Action → Runtime → Prop where
  | moves {action after}
      (moves : Moves (CompletesErased slot before action) (WakesOwn before action) before after) :
    Section slot before action after
  | accepts {request now}
      (accepted : ((before.admissionState slot now).admission request).status = .accepted) :
    Section slot before (.submit request now)
      ((before.admissionState slot now).acceptRequest request now)
  | finishes {worker outcome completedAt state}
      (busy : before.workers[worker]? = some (.executing state)) :
    Section slot before (.workerFinish worker outcome completedAt)
      (before.workerFinish worker state outcome completedAt)

theorem Performed.section (performed : Performed slot runtime action after) :
    Section slot runtime action after := by
  cases performed with
  | @submit request now =>
    rcases submit_cases slot runtime request now with refused | ⟨accepted, entered⟩
    · exact .moves ((admissionState_moves id).tail refused)
    · rw [entered]
      exact .accepts accepted
  | cancel => exact .moves (cancel_moves runtime _ _ _)
  | wait => exact .moves (waitBegin_moves runtime _ _ _)
  | wake _ done => exact .moves (.tail (.single (.take done id)) (.note rfl rfl id))
  | beginDrain => exact .moves (beginDrain_moves runtime)
  | shutdownAgain => exact .moves .refl
  | shutdown => exact .moves (.single (.note rfl rfl nofun))
  | shutdownResume => exact .moves (shutdownResume_moves runtime _)
  | giveUp _ | shutdownJoin => exact .moves (.single (.note rfl rfl id))
  | workerTake idle => exact .moves (workerTake_moves idle id)
  | workerFinish busy => exact .finishes busy

end Runtime

end ShortHand.Serving
