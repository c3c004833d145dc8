import ShortHand.Serving.Moves

/-! The capacity limits: only an accepting `submit` adds, and it has checked each limit. -/

namespace ShortHand.Serving

open ShortHand.Library

namespace Runtime

/-- Nothing counted against a limit has grown, and a closed runtime stays closed. -/
structure Shrinks (before after : Runtime) : Prop where
  limits : after.limits = before.limits
  queue : after.queue.length ≤ before.queue.length
  inFlight : after.inFlight ≤ before.inFlight
  bytes : after.inFlightRequestBytes ≤ before.inFlightRequestBytes
  accepting : after.accepting = true → before.accepting = true

section Shrinks

variable {slot : ErasedSlot} {runtime middle after : Runtime} {state : Ref} {now : Time}

theorem Shrinks.refl (runtime : Runtime) : Shrinks runtime runtime :=
  ⟨rfl, Nat.le_refl _, Nat.le_refl _, Nat.le_refl _, id⟩

theorem Shrinks.trans (first : Shrinks runtime middle) (second : Shrinks middle after) :
    Shrinks runtime after where
  limits := second.limits.trans first.limits
  queue := Nat.le_trans second.queue first.queue
  inFlight := Nat.le_trans second.inFlight first.inFlight
  bytes := Nat.le_trans second.bytes first.bytes
  accepting := first.accepting ∘ second.accepting

theorem completeLocked_shrinks (runtime : Runtime) (state : Ref) (status : TerminalStatus)
    (output detail : String) (completedAt : Time) :
    Shrinks runtime (runtime.completeLocked state status output detail completedAt) := by
  cases pending : (runtime.heap state).done with
  | true =>
    rw [completeLocked, if_pos pending]
    exact .refl runtime
  | false =>
    obtain ⟨_, _, _, _, _, shape⟩ :=
      completeLocked_shape runtime state status output detail completedAt pending
    rw [shape]
    -- the decrements are guarded, so neither total can wrap
    refine ⟨rfl, Nat.le_refl _, ?_, ?_, id⟩
    · simp only [withRetention, settle]
      split <;> omega
    · simp only [withRetention, settle]
      split <;> omega

theorem takeResult_shrinks (runtime : Runtime) (requestId : String) (state : Ref) :
    Shrinks runtime (runtime.takeResult requestId state).2 := by
  unfold takeResult
  simp only
  split_ifs <;> exact ⟨rfl, Nat.le_refl _, Nat.le_refl _, Nat.le_refl _, id⟩

theorem Move.shrinks (move : Move intact own runtime after) : Shrinks runtime after := by
  cases move with
  | note _ _ closed => exact ⟨rfl, Nat.le_refl _, Nat.le_refl _, Nat.le_refl _, closed⟩
  | withdraw queue =>
    refine .trans ?_ (completeLocked_shrinks _ _ _ _ _ _)
    exact ⟨rfl, by simp [queue], Nat.le_refl _, Nat.le_refl _, id⟩
  | start queue => exact ⟨rfl, by simp [queue, beginExecution], Nat.le_refl _, Nat.le_refl _, id⟩
  | take => exact takeResult_shrinks runtime _ _
  | stop | exit => exact ⟨rfl, Nat.le_refl _, Nat.le_refl _, Nat.le_refl _, id⟩

theorem Moves.shrinks (moves : Moves intact own runtime after) : Shrinks runtime after := by
  induction moves with
  | refl => exact .refl runtime
  | tail _ move ih => exact ih.trans move.shrinks

theorem workerFinish_shrinks (runtime : Runtime) (worker : Nat) (state : Ref)
    (outcome : Except String HandlerResult) (completedAt : Time) :
    Shrinks runtime (runtime.workerFinish worker state outcome completedAt) := by
  obtain ⟨status, output, detail, completed, _⟩ :=
    workerFinish_completes runtime worker state outcome completedAt
  rw [completed]
  refine .trans ?_ (completeLocked_shrinks _ _ _ _ _ _)
  exact ⟨rfl, Nat.le_refl _, Nat.le_refl _, Nat.le_refl _, id⟩

end Shrinks

/-- What an accepting answer has checked. -/
theorem admission_accepted {runtime : Runtime}
    (accepted : (runtime.admission request).status = .accepted) :
    runtime.accepting = true ∧ runtime.queue.length < runtime.limits.queueCapacity ∧
      runtime.inFlight < runtime.limits.maxInFlight ∧
      request.payload.utf8ByteSize ≤
        sizeSub runtime.limits.maxInFlightRequestBytes runtime.inFlightRequestBytes := by
  unfold admission at accepted
  split_ifs at accepted with closed _ _ _ _ _ full busy bytes
  refine ⟨?_, Nat.lt_of_not_ge full, Nat.lt_of_not_ge busy, Nat.le_of_not_gt bytes⟩
  simp only [Bool.or_eq_true, Bool.not_eq_true', not_or, Bool.not_eq_false] at closed
  exact closed.1

theorem admissionState_shrinks (slot : ErasedSlot) (runtime : Runtime) (now : Time) :
    Shrinks runtime (runtime.admissionState slot now) :=
  Moves.shrinks (@admissionState_moves slot runtime now False True nofun)

/-- The queue and the in-flight totals are within the limits. -/
structure WithinLimits (runtime : Runtime) : Prop where
  queue : runtime.queue.length ≤ runtime.limits.queueCapacity
  inFlight : runtime.inFlight ≤ runtime.limits.maxInFlight
  bytes : runtime.inFlightRequestBytes ≤ runtime.limits.maxInFlightRequestBytes

section WithinLimits

variable {slot : ErasedSlot} {runtime after : Runtime}

theorem WithinLimits.shrinks (within : WithinLimits runtime) (shrinks : Shrinks runtime after) :
    WithinLimits after := by
  refine ⟨?_, ?_, ?_⟩ <;> rw [shrinks.limits]
  · exact Nat.le_trans shrinks.queue within.queue
  · exact Nat.le_trans shrinks.inFlight within.inFlight
  · exact Nat.le_trans shrinks.bytes within.bytes

theorem WithinLimits.acceptRequest (within : WithinLimits runtime)
    (accepted : (runtime.admission request).status = .accepted) (now : Time) :
    WithinLimits (runtime.acceptRequest request now) := by
  obtain ⟨_, room, idle, payload⟩ := admission_accepted accepted
  -- the subtraction of the byte check does not wrap below the limit
  have available : request.payload.utf8ByteSize ≤
      runtime.limits.maxInFlightRequestBytes - runtime.inFlightRequestBytes := by
    rwa [sizeSub, if_pos within.bytes] at payload
  have bytes := within.bytes
  refine ⟨?_, idle, ?_⟩ <;> simp only [Runtime.acceptRequest, List.length_append, List.length_singleton]
  · exact room
  · omega

end WithinLimits

section Steps

variable {slot : ErasedSlot} {runtime after : Runtime} {action : Action}

/-- A closed runtime answers no request with `accepted`. -/
theorem submit_closed (closed : runtime.accepting = false) (request : Request) (now : Time) :
    (runtime.submit slot request now).1.status ≠ .accepted := by
  intro accepted
  rw [submit_answer] at accepted
  have open_ := (admissionState_shrinks slot runtime now).accepting (admission_accepted accepted).1
  exact Bool.noConfusion (closed.symm.trans open_)

theorem Performed.keeps_limits (performed : Performed slot runtime action after) :
    after.limits = runtime.limits ∧ (runtime.WithinLimits → after.WithinLimits) ∧
      (runtime.accepting = false → after.accepting = false) := by
  have shrunk : Shrinks runtime after → after.limits = runtime.limits ∧
      (runtime.WithinLimits → after.WithinLimits) ∧
      (runtime.accepting = false → after.accepting = false) := fun shrinks =>
    ⟨shrinks.limits, fun within => within.shrinks shrinks, fun closed =>
      Bool.eq_false_iff.mpr fun reopened => Bool.eq_false_iff.mp closed (shrinks.accepting reopened)⟩
  cases performed.section with
  | moves moves => exact shrunk moves.shrinks
  | finishes => exact shrunk (workerFinish_shrinks runtime _ _ _ _)
  | @accepts request now accepted =>
    have expired := admissionState_shrinks slot runtime now
    refine ⟨expired.limits, fun within => (within.shrinks expired).acceptRequest accepted now,
      fun closed => ?_⟩
    exact absurd (submit_answer slot runtime request now ▸ accepted) (submit_closed closed request now)

theorem step_keeps_limits (taken : step slot runtime action = some after) :
    after.limits = runtime.limits ∧ (runtime.WithinLimits → after.WithinLimits) ∧
      (runtime.accepting = false → after.accepting = false) := by
  obtain ⟨later, clock, performed, rfl⟩ := step_performed taken
  obtain ⟨limits, within, closed⟩ := performed.keeps_limits
  exact ⟨limits, fun holds => ⟨(within holds).queue, (within holds).inFlight, (within holds).bytes⟩,
    closed⟩

/-- In every interleaving the queue and the in-flight totals stay within the
limits of the constructor, the byte check of `submit` subtracts a smaller total
from a larger one, and a runtime that stopped accepting never accepts again. -/
theorem reaches_within_limits {limits : RuntimeLimits}
    (run : Reaches (step slot) (fun _ _ => True) (initial limits) runtime) :
    runtime.queue.length ≤ limits.queueCapacity ∧ runtime.inFlight ≤ limits.maxInFlight ∧
      runtime.inFlightRequestBytes ≤ limits.maxInFlightRequestBytes ∧
      (∀ now, (runtime.admissionState slot now).limits = limits ∧
        (runtime.admissionState slot now).inFlightRequestBytes ≤
          limits.maxInFlightRequestBytes) ∧
      (runtime.accepting = false →
        ∀ later, Reaches (step slot) (fun _ _ => True) runtime later →
          ∀ request now, (later.submit slot request now).1.status ≠ .accepted) := by
  obtain ⟨rfl, within⟩ : runtime.limits = limits ∧ runtime.WithinLimits := by
    refine @Reaches.invariant _ _ _ _ _ _
      (fun reached => reached.limits = limits ∧ reached.WithinLimits) run
      ⟨rfl, Nat.zero_le _, Nat.zero_le _, Nat.zero_le _⟩ ?_
    rintro earlier action later ⟨same, holds⟩ _ taken
    obtain ⟨kept, stays, _⟩ := step_keeps_limits taken
    exact ⟨kept.trans same, stays holds⟩
  refine ⟨within.queue, within.inFlight, within.bytes, fun now => ?_, fun closed later rest => ?_⟩
  · have expired := admissionState_shrinks slot runtime now
    exact ⟨expired.limits, Nat.le_trans expired.bytes within.bytes⟩
  have stillClosed := @Reaches.invariant _ _ _ _ _ _
    (fun reached => reached.accepting = false) rest closed
    fun _ _ _ holds _ taken => (step_keeps_limits taken).2.2 holds
  exact fun request now => submit_closed stillClosed request now

end Steps

/-- A runtime with one queued request that has begun to drain. -/
theorem drained_within_limits :
    ∃ runtime : Runtime,
      Reaches (step libstdcxxSlot) (fun _ _ => True) (initial { tenantScope := "t" }) runtime ∧
        runtime.queue.length = 1 ∧ runtime.inFlightRequestBytes = 2 ∧
        runtime.accepting = false ∧ runtime.queue.length ≤ 128 ∧
        ∀ request now, (runtime.submit libstdcxxSlot request now).1.status ≠ .accepted := by
  have run : (execute libstdcxxSlot (fun _ _ => True) { tenantScope := "t" }
      [.submit { requestId := "a", tenantId := "t", payload := "hi" } 1, .beginDrain]).map
        (fun runtime => (runtime.queue.length, runtime.inFlightRequestBytes, runtime.accepting)) =
      some (1, 2, false) := by
    decide +kernel
  obtain ⟨runtime, executed, facts⟩ := Option.map_eq_some_iff.mp run
  obtain ⟨queued, bytes, closed⟩ : runtime.queue.length = 1 ∧
      runtime.inFlightRequestBytes = 2 ∧ runtime.accepting = false := by
    simpa using facts
  have reached := reaches_of_runAll executed
  obtain ⟨withinQueue, _, _, _, refused⟩ := reaches_within_limits reached
  exact ⟨runtime, reached, queued, bytes, closed, withinQueue, refused closed runtime .start⟩

end Runtime

end ShortHand.Serving
