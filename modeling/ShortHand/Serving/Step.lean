import ShortHand.Library.Transition
import ShortHand.Serving.Runtime

/-! Interleavings of the serving runtime: a step is one critical section of one thread, which
keeps only its locals in between. -/

namespace ShortHand.Serving

open ShortHand.Library

/-- One critical section, with the clock readings and the handler result that
the environment supplies. -/
inductive Action where
  | submit (request : Request) (now : Time)
  | cancel (tenantId requestId : String) (now : Time)
  | wait (tenantId requestId : String) (maxWait : Int)
  | wake (waiter : Waiter)
  | giveUp (waiter : Waiter)
  | beginDrain
  | shutdown
  | shutdownResume (now : Time)
  | shutdownJoin
  | workerTake (worker : Nat) (expiredAt checkedAt startedAt : Time)
  | workerFinish (worker : Nat) (outcome : Except String HandlerResult) (completedAt : Time)

/-- The last clock reading of an action; the steady clock never goes back. -/
def Action.readsClock (clock : Time) : Action → Option Time
  | .submit _ now | .cancel _ _ now | .shutdownResume now | .workerFinish _ _ now =>
    if clock ≤ now then some now else none
  | .workerTake _ expiredAt checkedAt startedAt =>
    if clock ≤ expiredAt ∧ expiredAt ≤ checkedAt ∧ checkedAt ≤ startedAt
    then some startedAt else none
  | .wait .. | .wake _ | .giveUp _ | .beginDrain | .shutdown | .shutdownJoin => some clock

namespace Runtime

/-- The effect of an enabled critical section. A blocked `wait` resumes with its
answer once its request is done and otherwise gives up at its timeout; a
worker's first section waits for work or for `stopping`. -/
def perform (slot : ErasedSlot) (runtime : Runtime) : Action → Option Runtime
  | .submit request now => some (runtime.submit slot request now).2
  | .cancel tenantId requestId now => some (runtime.cancel tenantId requestId now).2
  | .wait tenantId requestId maxWait => some (runtime.waitBegin tenantId requestId maxWait).2
  | .wake waiter =>
    if waiter ∈ runtime.waiters ∧ (runtime.heap waiter.state).done then
      some { (runtime.takeResult waiter.requestId waiter.state).2 with
        waiters := runtime.waiters.erase waiter }
    else none
  | .giveUp waiter =>
    if waiter ∈ runtime.waiters ∧ (runtime.heap waiter.state).done = false then
      some { runtime with waiters := runtime.waiters.erase waiter }
    else none
  | .beginDrain => some runtime.beginDrain.2
  | .shutdown =>
    if runtime.shutdownPhase = .idle then
      if runtime.joined then some runtime
      else some { runtime with
        accepting := false, draining := true, shutdownPhase := .draining }
    else none
  | .shutdownResume now =>
    if runtime.shutdownPhase = .draining then some (runtime.shutdownResume now) else none
  | .shutdownJoin =>
    match runtime.shutdownPhase with
    | .joining _ =>
      if runtime.workers.all (· == .exited) then
        some { runtime with joined := true, live := false, shutdownPhase := .idle }
      else none
    | _ => none
  | .workerTake worker expiredAt checkedAt startedAt =>
    if runtime.workers[worker]? = some .waiting ∧
        (runtime.stopping ∨ runtime.queue ≠ []) then
      some (runtime.workerTake slot worker expiredAt checkedAt startedAt)
    else none
  | .workerFinish worker outcome completedAt =>
    match runtime.workers[worker]? with
    | some (.executing state) => some (runtime.workerFinish worker state outcome completedAt)
    | _ => none

/-- What each action did, once it was enabled. -/
inductive Performed (slot : ErasedSlot) (runtime : Runtime) : Action → Runtime → Prop where
  | submit {request now} :
    Performed slot runtime (.submit request now) (runtime.submit slot request now).2
  | cancel {tenantId requestId now} :
    Performed slot runtime (.cancel tenantId requestId now) (runtime.cancel tenantId requestId now).2
  | wait {tenantId requestId maxWait} :
    Performed slot runtime (.wait tenantId requestId maxWait)
      (runtime.waitBegin tenantId requestId maxWait).2
  | wake {waiter} (blocked : waiter ∈ runtime.waiters)
      (done : (runtime.heap waiter.state).done = true) :
    Performed slot runtime (.wake waiter)
      { (runtime.takeResult waiter.requestId waiter.state).2 with
        waiters := runtime.waiters.erase waiter }
  | giveUp {waiter} (blocked : waiter ∈ runtime.waiters) :
    Performed slot runtime (.giveUp waiter)
      { runtime with waiters := runtime.waiters.erase waiter }
  | beginDrain : Performed slot runtime .beginDrain runtime.beginDrain.2
  | shutdownAgain : Performed slot runtime .shutdown runtime
  | shutdown :
    Performed slot runtime .shutdown
      { runtime with accepting := false, draining := true, shutdownPhase := .draining }
  | shutdownResume {now} :
    Performed slot runtime (.shutdownResume now) (runtime.shutdownResume now)
  | shutdownJoin :
    Performed slot runtime .shutdownJoin
      { runtime with joined := true, live := false, shutdownPhase := .idle }
  | workerTake {worker expiredAt checkedAt startedAt}
      (idle : runtime.workers[worker]? = some .waiting) :
    Performed slot runtime (.workerTake worker expiredAt checkedAt startedAt)
      (runtime.workerTake slot worker expiredAt checkedAt startedAt)
  | workerFinish {worker outcome completedAt state}
      (busy : runtime.workers[worker]? = some (.executing state)) :
    Performed slot runtime (.workerFinish worker outcome completedAt)
      (runtime.workerFinish worker state outcome completedAt)

theorem Performed.of_perform (performed : runtime.perform slot action = some after) :
    Performed slot runtime action after := by
  cases action <;> simp only [perform, Option.some.injEq, Option.ite_none_right_eq_some] at performed
  case submit => exact performed ▸ .submit
  case cancel => exact performed ▸ .cancel
  case wait => exact performed ▸ .wait
  case wake =>
    obtain ⟨⟨blocked, done⟩, rfl⟩ := performed
    exact .wake blocked done
  case giveUp =>
    obtain ⟨⟨blocked, _⟩, rfl⟩ := performed
    exact .giveUp blocked
  case beginDrain => exact performed ▸ .beginDrain
  case shutdown =>
    obtain ⟨_, result⟩ := performed
    split at result <;> cases result
    · exact .shutdownAgain
    · exact .shutdown
  case shutdownResume =>
    obtain ⟨_, rfl⟩ := performed
    exact .shutdownResume
  case shutdownJoin =>
    split at performed
    · obtain ⟨_, result⟩ := Option.ite_none_right_eq_some.mp performed
      cases result
      exact .shutdownJoin
    · cases performed
  case workerTake =>
    obtain ⟨⟨idle, _⟩, rfl⟩ := performed
    exact .workerTake idle
  case workerFinish =>
    split at performed
    · rename_i busy
      cases performed
      exact .workerFinish busy
    · cases performed

/-- A step reads the clock and performs its critical section. -/
def step (slot : ErasedSlot) (runtime : Runtime) (action : Action) : Option Runtime := do
  let clock ← action.readsClock runtime.clock
  let after ← runtime.perform slot action
  return { after with clock }

/-- A step is an enabled critical section, up to the clock. -/
theorem step_performed (taken : step slot before action = some after) :
    ∃ later clock, Performed slot before action later ∧ after = { later with clock } := by
  obtain ⟨clock, _, performed⟩ := Option.bind_eq_some_iff.mp taken
  obtain ⟨later, section_, result⟩ := Option.bind_eq_some_iff.mp performed
  cases result
  exact ⟨later, clock, .of_perform section_, rfl⟩

/-- A state of some interleaving, from a runtime that the constructor accepts. -/
def Reachable (slot : ErasedSlot) (guard : Runtime → Action → Prop) (runtime : Runtime) : Prop :=
  ∃ limits, validateLimits limits = true ∧
    Reaches (step slot) guard (initial limits) runtime

/-- A property that holds initially, does not read the clock and is kept by
every permitted critical section holds in every reachable state. -/
theorem Reachable.invariant {guard : Runtime → Action → Prop}
    {property : Runtime → Prop} {runtime : Runtime} (reached : Reachable slot guard runtime)
    (start : ∀ limits, validateLimits limits = true → property (initial limits))
    (clockFree : ∀ runtime clock, property runtime → property { runtime with clock })
    (kept : ∀ earlier action later, property earlier → guard earlier action →
      Performed slot earlier action later → property later) : property runtime := by
  obtain ⟨limits, valid, run⟩ := reached
  apply run.invariant (start limits valid)
  intro earlier action later holds permitted taken
  obtain ⟨after, clock, performed, rfl⟩ := step_performed taken
  exact clockFree after clock (kept earlier action after holds permitted performed)

/-- Execute actions on a constructed runtime; stops at a refused or unpermitted one. -/
def execute (slot : ErasedSlot) (guard : Runtime → Action → Prop)
    [∀ runtime action, Decidable (guard runtime action)] (limits : RuntimeLimits)
    (actions : List Action) : Option Runtime :=
  runAll (fun runtime action => if guard runtime action then runtime.step slot action else none)
    (initial limits) actions

theorem Reachable.of_execute {guard : Runtime → Action → Prop}
    [∀ runtime action, Decidable (guard runtime action)] {limits : RuntimeLimits}
    {facts : Runtime → α} (valid : validateLimits limits = true)
    (executed : (execute slot guard limits actions).map facts = some seen) :
    ∃ runtime, Reachable slot guard runtime ∧ facts runtime = seen := by
  obtain ⟨runtime, executed, seen⟩ := Option.map_eq_some_iff.mp executed
  exact ⟨runtime, ⟨limits, valid, reaches_of_runAll executed⟩, seen⟩

end Runtime

end ShortHand.Serving
