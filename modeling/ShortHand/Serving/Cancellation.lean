import ShortHand.Serving.Lifetime

/-! Once `cancel` has answered true its request can only end as cancelled. -/

namespace ShortHand.Serving

open ShortHand.Library List Function

namespace Runtime

/-- The critical section of the destructor; joining the workers and the last section
are those of `shutdown`. -/
def destroy (runtime : Runtime) (now : Time) : Runtime :=
  let stopped := requestStops { runtime with accepting := false, draining := true, stopping := true }
  { drainQueue "runtime_destructor_shutdown" now stopped stopped.queue with
    shutdownPhase := .joining false }

end Runtime

/-- A call of the runtime, or its destruction. -/
inductive LifetimeAction where
  | call (action : Action)
  | destroy (now : Time)

namespace Runtime

/-- The destructor waits for the lifecycle mutex and does nothing to a joined runtime. -/
def lifetimeStep (slot : ErasedSlot) (runtime : Runtime) : LifetimeAction → Option Runtime
  | .call action => runtime.step slot action
  | .destroy now =>
    if runtime.shutdownPhase = .idle ∧ runtime.clock ≤ now then
      if runtime.joined then some runtime else some { runtime.destroy now with clock := now }
    else none

section Dispatch

variable {slot : ErasedSlot} {before runtime after : Runtime} {state : Ref} {now : Time}

theorem destroy_moves (runtime : Runtime) (now : Time) :
    Moves True True runtime (runtime.destroy now) := by
  have closed : Move True True runtime
      { runtime with accepting := false, draining := true, stopping := true } := .note rfl rfl nofun
  exact .tail (.head closed (.head (requestStops_move _) (drainQueue_moves rfl))) (.note rfl rfl id)

/-- Who may hold a request: a queued one is queued once, unstarted and with no worker. -/
structure Dispatch (runtime : Runtime) : Prop where
  distinct : runtime.queue.Nodup
  queued : ∀ state ∈ runtime.queue, state < runtime.allocated ∧
    (runtime.heap state).started = false ∧ state ∉ runtime.executing
  held : ∀ state ∈ runtime.executing, state < runtime.allocated
  known : ∀ requestId state, runtime.requests.lookup requestId = some state →
    state < runtime.allocated

theorem Dispatch.initial (limits : RuntimeLimits) : Dispatch (initial limits) := by
  constructor
  · exact nodup_nil
  · nofun
  · intro state held
    simp [Serving.initial, executing, Worker.held] at held
  · intro requestId state found
    cases found

theorem Dispatch.proceeds (dispatch : Dispatch before) (proceeds : Proceeds before after) :
    Dispatch after := by
  constructor
  · exact dispatch.distinct.sublist proceeds.queue
  · intro state queued
    obtain ⟨issued, unstarted, free⟩ := dispatch.queued state (proceeds.queue.subset queued)
    refine ⟨proceeds.allocated ▸ issued, ?_, ?_⟩
    · cases started : (after.heap state).started with
      | false => rfl
      | true =>
        rcases (proceeds.cells state).started started with earlier | taken
        · cases unstarted.symm.trans earlier
        · exact absurd queued taken.2
    · intro held
      rcases proceeds.executing state held with earlier | taken
      · exact free earlier
      · exact taken.2 queued
  · intro state held
    rw [proceeds.allocated]
    rcases proceeds.executing state held with earlier | taken
    · exact dispatch.held state earlier
    · exact (dispatch.queued state taken.1).1
  · intro requestId state found
    rw [proceeds.allocated]
    exact dispatch.known requestId state (proceeds.requests requestId state found)

theorem Dispatch.acceptRequest (dispatch : Dispatch runtime) :
    Dispatch (runtime.acceptRequest request now) := by
  have fresh : runtime.allocated ∉ runtime.queue :=
    fun queued => absurd (dispatch.queued _ queued).1 (Nat.lt_irrefl _)
  constructor
  · exact nodup_append.mpr ⟨dispatch.distinct, nodup_singleton _, by
      rintro older queued _ new rfl
      exact fresh (mem_singleton.mp new ▸ queued)⟩
  · intro state queued
    change state < runtime.allocated + 1 ∧
      (update runtime.heap runtime.allocated _ state).started = false ∧
        state ∉ runtime.executing
    rcases mem_append.mp queued with older | new
    · obtain ⟨issued, unstarted, free⟩ := dispatch.queued state older
      rw [update_of_ne (Nat.ne_of_lt issued)]
      exact ⟨Nat.lt_succ_of_lt issued, unstarted, free⟩
    · rw [mem_singleton.mp new, update_self]
      exact ⟨Nat.lt_succ_self _, rfl, fun held => absurd (dispatch.held _ held) (Nat.lt_irrefl _)⟩
  · intro state held
    exact Nat.lt_succ_of_lt (dispatch.held state held)
  · intro requestId state found
    change (runtime.requests.insert request.requestId runtime.allocated).lookup requestId = _ at found
    by_cases same : requestId = request.requestId
    · subst same
      rw [AList.lookup_insert] at found
      cases found
      exact Nat.lt_succ_self _
    · rw [AList.lookup_insert_ne same] at found
      exact Nat.lt_succ_of_lt (dispatch.known requestId state found)

theorem Dispatch.workerFinish (dispatch : Dispatch runtime) (completedAt : Time) :
    Dispatch (runtime.workerFinish worker state outcome completedAt) := by
  obtain ⟨status, output, detail, completed, _⟩ :=
    workerFinish_completes runtime worker state outcome completedAt
  rw [completed]
  constructor
  · rw [queue_completeLocked]
    exact dispatch.distinct
  · intro other queued
    rw [queue_completeLocked] at queued
    rw [allocated_completeLocked, started_completeLocked, executing_completeLocked]
    obtain ⟨issued, unstarted, free⟩ := dispatch.queued other queued
    exact ⟨issued, unstarted, fun held => free (executing_set_subset rfl held)⟩
  · intro other held
    rw [executing_completeLocked] at held
    rw [allocated_completeLocked]
    exact dispatch.held other (executing_set_subset rfl held)
  · intro requestId other found
    rw [allocated_completeLocked]
    have listed := lookup_completeLocked found
    exact dispatch.known requestId other listed

theorem Dispatch.effect (dispatch : Dispatch before) (effect : Effect slot before action after) :
    Dispatch after := by
  cases effect with
  | proceeds proceeds => exact dispatch.proceeds proceeds
  | accepts _ =>
    exact (dispatch.proceeds (admissionState_proceeds dispatch.distinct)).acceptRequest
  | finishes _ => exact dispatch.workerFinish _

theorem Proceeds.tick (runtime : Runtime) (clock : Time) : Proceeds runtime { runtime with clock } :=
  (Proceeds.refl runtime).transfer (.refl _) rfl (fun _ _ => id) (fun _ => id) rfl

/-- A step has an effect; behind it only the clock moves on. -/
theorem lifetimeStep_cases (taken : lifetimeStep slot before event = some after)
    (distinct : before.queue.Nodup) :
    ∃ action later, Effect slot before action later ∧ Proceeds later after := by
  cases event with
  | call action =>
    obtain ⟨later, clock, performed, rfl⟩ := step_performed taken
    exact ⟨action, later, performed.effect distinct, .tick later clock⟩
  | destroy now =>
    obtain ⟨_, result⟩ := Option.ite_none_right_eq_some.mp taken
    split at result <;> cases result
    · exact ⟨.shutdown, before, .proceeds (.refl before), .refl before⟩
    · exact ⟨.shutdown, _, .proceeds ((destroy_moves before now).proceeds distinct), .tick _ now⟩

theorem Dispatch.lifetimeStep (dispatch : Dispatch before)
    (taken : Runtime.lifetimeStep slot before event = some after) : Dispatch after := by
  obtain ⟨action, later, effect, ticks⟩ := lifetimeStep_cases taken dispatch.distinct
  exact (dispatch.effect effect).proceeds ticks

/-- In every run, whatever the erased slots read. -/
theorem dispatch_of_reaches {guard : Runtime → LifetimeAction → Prop} {limits : RuntimeLimits}
    (run : Reaches (Runtime.lifetimeStep slot) guard (initial limits) runtime) :
    Dispatch runtime :=
  run.invariant (Dispatch.initial limits) fun _ _ _ dispatch _ taken => dispatch.lifetimeStep taken

end Dispatch

section Withdrawn

variable {slot : ErasedSlot} {before runtime after : Runtime} {state : Ref} {now : Time}
  {wasQueued : Prop}

/-- A request that was cancelled, possibly while it was queued. -/
structure Withdrawn (runtime : Runtime) (state : Ref) (wasQueued : Prop) : Prop where
  issued : state < runtime.allocated
  unqueued : state ∉ runtime.queue
  stopped : (runtime.heap state).stopRequested = true
  outcome : (runtime.heap state).done = true → (runtime.heap state).result.status = .cancelled
  unstarted : wasQueued → (runtime.heap state).started = false ∧ state ∉ runtime.executing

theorem Withdrawn.proceeds (withdrawn : Withdrawn before state wasQueued)
    (proceeds : Proceeds before after) : Withdrawn after state wasQueued := by
  have moves := proceeds.cells state
  have absent := withdrawn.unqueued
  constructor
  · exact proceeds.allocated ▸ withdrawn.issued
  · exact fun queued => absent (proceeds.queue.subset queued)
  · exact moves.stopped withdrawn.stopped
  · intro done
    rcases moves.completed done with earlier | left
    · rw [(moves.done earlier).2]
      exact withdrawn.outcome earlier
    · exact absurd left.1 absent
  · intro queued
    obtain ⟨unstarted, free⟩ := withdrawn.unstarted queued
    constructor
    · cases started : (after.heap state).started with
      | false => rfl
      | true =>
        rcases moves.started started with earlier | taken
        · cases unstarted.symm.trans earlier
        · exact absurd taken.1 absent
    · intro held
      rcases proceeds.executing state held with earlier | taken
      · exact free earlier
      · exact absent taken.1

theorem Withdrawn.acceptRequest (withdrawn : Withdrawn runtime state wasQueued) :
    Withdrawn (runtime.acceptRequest request now) state wasQueued := by
  have cell : (runtime.acceptRequest request now).heap state = runtime.heap state :=
    update_of_ne (Nat.ne_of_lt withdrawn.issued) _ _
  constructor
  · exact Nat.lt_succ_of_lt withdrawn.issued
  · intro queued
    rcases mem_append.mp queued with older | new
    · exact withdrawn.unqueued older
    · exact absurd (mem_singleton.mp new) (Nat.ne_of_lt withdrawn.issued)
  · rw [cell]
    exact withdrawn.stopped
  · rw [cell]
    exact withdrawn.outcome
  · rw [cell]
    exact withdrawn.unstarted

/-- The end of its own handler call finds the token set. -/
theorem Withdrawn.workerFinish {outcome : Except String HandlerResult}
    (withdrawn : Withdrawn runtime state wasQueued) (completedAt : Time) :
    Withdrawn (runtime.workerFinish worker other outcome completedAt) state wasQueued := by
  obtain ⟨status, output, detail, completed, decided⟩ :=
    workerFinish_completes runtime worker other outcome completedAt
  rw [completed]
  constructor
  · rw [allocated_completeLocked]
    exact withdrawn.issued
  · rw [queue_completeLocked]
    exact withdrawn.unqueued
  · rw [stopRequested_completeLocked]
    exact withdrawn.stopped
  · intro done
    rcases @completeLocked_cell { runtime with workers := runtime.workers.set worker .waiting }
      other status output detail completedAt state with same | ⟨rfl, _, finished⟩
    · rw [same] at done ⊢
      exact withdrawn.outcome done
    · rw [finished]
      exact decided withdrawn.stopped
  · intro queued
    rw [started_completeLocked, executing_completeLocked]
    obtain ⟨unstarted, free⟩ := withdrawn.unstarted queued
    exact ⟨unstarted, fun held => free (executing_set_subset rfl held)⟩

theorem Withdrawn.lifetimeStep (withdrawn : Withdrawn before state wasQueued)
    (distinct : before.queue.Nodup) (taken : Runtime.lifetimeStep slot before event = some after) :
    Withdrawn after state wasQueued := by
  obtain ⟨action, later, effect, ticks⟩ := lifetimeStep_cases taken distinct
  refine Withdrawn.proceeds ?_ ticks
  cases effect with
  | proceeds proceeds => exact withdrawn.proceeds proceeds
  | accepts _ => exact (withdrawn.proceeds (admissionState_proceeds distinct)).acceptRequest
  | finishes _ => exact withdrawn.workerFinish _

/-- A request that `cancel` answers true for is withdrawn at once. -/
theorem cancel_withdraws (dispatch : Dispatch runtime)
    (answered : (runtime.cancel tenantId requestId now).1 = true) :
    ∃ state, runtime.requests.lookup requestId = some state ∧
      (runtime.heap state).done = false ∧
      Withdrawn (runtime.cancel tenantId requestId now).2 state (state ∈ runtime.queue) := by
  unfold cancel at answered ⊢
  split at answered
  · cases answered
  rename_i ownTenant
  simp only [ownTenant, Bool.false_eq_true, if_false]
  cases found : runtime.requests.lookup requestId with
  | none =>
    rw [found] at answered
    cases answered
  | some state =>
    simp only [found] at answered ⊢
    have issued := dispatch.known requestId state found
    have flag : ((runtime.requestStop state).heap state) =
        { runtime.heap state with stopRequested := true } := update_self ..
    cases done : (runtime.heap state).done with
    | true =>
      rw [if_pos done] at answered
      cases answered
    | false =>
      refine ⟨state, rfl, done, ?_⟩
      simp only [Bool.false_eq_true, if_false]
      by_cases queued : state ∈ runtime.queue
      · obtain ⟨_, unstarted, free⟩ := dispatch.queued state queued
        have member : state ∈ (runtime.requestStop state).queue := queued
        rw [if_pos member]
        have pending : ((runtime.requestStop state).heap state).done = false := by
          rwa [flag]
        have cell := @heap_completeLocked
          { runtime.requestStop state with
            queue := (runtime.requestStop state).queue.erase state } state .cancelled ""
          "cancelled_while_queued" now pending
        constructor
        · rwa [allocated_completeLocked]
        · rw [queue_completeLocked]
          exact dispatch.distinct.not_mem_erase
        · rw [cell, update_self, flag]
          rfl
        · rw [cell, update_self]
          exact fun _ => rfl
        · rw [cell, update_self, executing_completeLocked, flag]
          exact fun _ => ⟨unstarted, free⟩
      · have absent : state ∉ (runtime.requestStop state).queue := queued
        rw [if_neg absent]
        refine ⟨issued, queued, ?_, ?_, fun member => absurd member queued⟩
        · rw [flag]
        · rw [flag]
          intro finished
          cases done.symm.trans finished

/-- Once `cancel` returned true for a request, in every later state of every run it is
completed with no status but cancelled, and if it was still queued its handler was
never started. -/
theorem cancel_is_decisive (slot : ErasedSlot) (limits : RuntimeLimits)
    {before cancelled after : Runtime} {tenantId requestId : String} {now : Time}
    (run : Reaches (lifetimeStep slot) (fun _ _ => True) (initial limits) before)
    (answered : (before.cancel tenantId requestId now).1 = true)
    (taken : lifetimeStep slot before (.call (.cancel tenantId requestId now)) = some cancelled)
    (later : Reaches (lifetimeStep slot) (fun _ _ => True) cancelled after) :
    ∃ state, before.requests.lookup requestId = some state ∧
      (before.heap state).done = false ∧
      ((after.heap state).done = true → (after.heap state).result.status = .cancelled) ∧
      (state ∈ before.queue →
        (after.heap state).started = false ∧ state ∉ after.executing) := by
  have dispatch := dispatch_of_reaches run
  obtain ⟨state, found, pending, withdrawn⟩ := cancel_withdraws dispatch answered
  refine ⟨state, found, pending, ?_⟩
  obtain ⟨clock, _, performed⟩ := Option.bind_eq_some_iff.mp taken
  cases performed
  obtain ⟨_, ended⟩ := @Reaches.invariant _ _ _ _ _ _
    (fun reached => Dispatch reached ∧ Withdrawn reached state (state ∈ before.queue)) later
    ⟨dispatch.lifetimeStep taken, withdrawn.proceeds (.tick _ clock)⟩
    fun _ _ _ held _ step =>
      ⟨held.1.lifetimeStep step, held.2.lifetimeStep held.1.distinct step⟩
  exact ⟨ended.outcome, ended.unstarted⟩

/-- A running request is cancelled and the runtime destroyed; then its handler returns
a good result in time. -/
theorem cancel_while_running :
    ∃ before cancelled after : Runtime,
      Reaches (lifetimeStep libstdcxxSlot) (fun _ _ => True) (initial { tenantScope := "t" }) before ∧
      before.executing = [0] ∧ (before.cancel "t" "a" 2).1 = true ∧
      lifetimeStep libstdcxxSlot before (.call (.cancel "t" "a" 2)) = some cancelled ∧
      Reaches (lifetimeStep libstdcxxSlot) (fun _ _ => True) cancelled after ∧
      (after.heap 0).done = true ∧ (after.heap 0).result.status = .cancelled := by
  let step (runtime : Runtime) (event : LifetimeAction) : Option Runtime :=
    if True then runtime.lifetimeStep libstdcxxSlot event else none
  have run : (runAll step (initial { tenantScope := "t" })
      [.call (.submit { requestId := "a", tenantId := "t" } 0), .call (.workerTake 0 1 1 1)]).bind
      (fun before => (before.lifetimeStep libstdcxxSlot (.call (.cancel "t" "a" 2))).bind
        fun cancelled => (runAll step cancelled
          [.destroy 3, .call (.workerFinish 0 (.ok ⟨true, "out", ""⟩) 4)]).map
          fun after => (before.executing, (before.cancel "t" "a" 2).1,
            before.requests.lookup "a", (after.heap 0).done)) =
      some ([0], true, some 0, true) := by
    decide +kernel
  obtain ⟨before, first, rest⟩ := Option.bind_eq_some_iff.mp run
  obtain ⟨cancelled, taken, ending⟩ := Option.bind_eq_some_iff.mp rest
  obtain ⟨after, last, facts⟩ := Option.map_eq_some_iff.mp ending
  simp only [Prod.mk.injEq] at facts
  obtain ⟨executing, answered, found, done⟩ := facts
  have run := reaches_of_runAll first
  have later := reaches_of_runAll last
  obtain ⟨state, named, _, outcome, _⟩ := cancel_is_decisive libstdcxxSlot _ run answered taken later
  cases found.symm.trans named
  exact ⟨before, cancelled, after, run, executing, answered, taken, later, done, outcome done⟩

end Withdrawn

end Runtime

end ShortHand.Serving
