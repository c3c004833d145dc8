import ShortHand.Inference.Backend
import ShortHand.Library.Outcome

/-! Immutable-model handles (`immutable_v1` in `RuntimeThreadSafeFacade.cpp`). Every call holds
the facade's lock, so a history is a list of whole calls; the platform of each call supplies
what sessions do. -/

namespace ShortHand.Inference.Immutable

open ShortHand.Library ShortHand.Routing

variable {Session : Type}

/-- What one call runs against. `runInto` may throw, and in any case returns what
it left in the scratch buffer. -/
structure Platform (Session : Type) where
  host : Host
  registry : List (AIBackend Session)
  around : Surroundings
  sha256 : List UInt8 → String
  validateEnvelope : List UInt8 → Except String Unit
  runInto : Session → TensorBuffer → List Float32Bits →
    Except String InferenceResult × (Nat → Float32Bits)

structure ImmutableSlot (Session : Type) where
  configuration : InferenceConfiguration
  model : ModelSpec
  runtime : AIRuntime
  session : Session
  scratch : List Float32Bits
  digest : String
  generation : Nat

/-- The two process-wide variables. -/
structure State (Session : Type) where
  immutableSlot : Option (ImmutableSlot Session) := none
  immutableGeneration : Nat := 0

structure Binding where
  handle : Nat := 0
  error : String := ""
  deriving DecidableEq, Repr

/-- A caller's pointer to floats: its address and what is stored from there on. -/
structure FloatPointer where
  address : Nat
  contents : List Float32Bits

def kMaxElements : Nat := 65536

/-- The loop of `immutableShape`: the element count, while it stays in bounds. -/
def immutableCount (count : Nat) : List Int → Option Nat
  | [] => some count
  | dimension :: rest =>
    if dimension ≤ 0 || dimension.toNat > kMaxElements / count then none
    else immutableCount (count * dimension.toNat) rest

def immutableShape (spec : TensorSpec) : Bool :=
  if spec.elementType != .float32 || spec.dynamic || spec.shape.isEmpty || spec.shape.length > 8
  then false
  else immutableCount 1 spec.shape == some spec.elementCount

def immutableRange (pointer : FloatPointer) (count : Nat) : Bool :=
  pointer.address != 0 && pointer.address % 4 == 0 && count != 0 && count ≤ kMaxElements &&
    count * 4 ≤ 2 ^ 64 - 1 - pointer.address

def isfinite (value : Float32Bits) : Bool := value >>> 23 &&& 0xff != 0xff

def immutableFailure (status : InferenceStatus) (reason : String) : InferenceResult :=
  { status, reason }

/-- `AIRuntime::prepare`. -/
def prepare (platform : Platform Session) (runtime : AIRuntime) (model : ModelSpec)
    (configuration : InferenceConfiguration) : Except String Session × AIRuntime :=
  let (resolved, runtime) := runtime.routeForModel platform.host platform.around.world model
  if !resolved.route.selected then (.error resolved.route.reason, runtime)
  else
    let routed :=
      { model with backendPreference := [resolved.route.backend], allowFallback := false }
    match select platform.registry platform.around routed with
    | none => (.error "prepared_backend_unavailable", runtime)
    | some backend => (backend.prepare routed configuration, runtime)

/-- The checks of `bind` on its arguments and on the counter, in order. -/
def bindChecks (state : State Session) (model : ModelSpec) (bytes : Option (List UInt8))
    (sha256 : String) : Except String (List UInt8) :=
  match bytes with
  | none => .error "invalid_immutable_snapshot_or_digest"
  | some bytes =>
    if bytes.isEmpty || bytes.length > 16 * 1024 * 1024 || sha256.utf8ByteSize != 64 ||
        sha256.toList.any (fun c => !"0123456789abcdef".toList.contains c) then
      .error "invalid_immutable_snapshot_or_digest"
    else if model.format != .onnx || model.precision != "float32" || model.allowFallback ||
        model.backendPreference != [.onnxRuntimeCPU] || !immutableShape model.input ||
        !immutableShape model.output then
      .error "immutable_requires_concrete_fp32_cpu_contract"
    else if state.immutableGeneration == 2 ^ 64 - 1 then .error "immutable_generation_exhausted"
    else .ok bytes

def checkDigest (digest sha256 : String) : Except String Unit :=
  if digest == sha256 then .ok () else .error "immutable_sha256_mismatch"

/-- The candidate that `bind` builds before it commits anything. The caller's
path is never resolved. -/
def candidate (platform : Platform Session) (state : State Session) (model : ModelSpec)
    (bytes : Option (List UInt8)) (sha256 : String) : Except String (ImmutableSlot Session) := do
  let snapshot ← bindChecks state model bytes sha256
  let digest := platform.sha256 snapshot
  checkDigest digest sha256
  platform.validateEnvelope snapshot
  let model := { model with path := "immutable-sha256:" ++ digest }
  let configuration := { modelBytes := snapshot, maximumTensorElements := kMaxElements }
  let prepared := prepare platform (.construct platform.around.world) model configuration
  let session ← prepared.1
  return {
    configuration, model, session, digest
    runtime := prepared.2
    scratch := List.replicate model.output.elementCount 0
    generation := (state.immutableGeneration + 1) % 2 ^ 64 }

namespace State

def bind (state : State Session) (platform : Platform Session) (model : ModelSpec)
    (bytes : Option (List UInt8)) (sha256 : String) : Binding × State Session :=
  match candidate platform state model bytes sha256 with
  | .error error => ({ error }, state)
  | .ok slot =>
    ({ handle := slot.generation },
      { immutableSlot := some slot, immutableGeneration := slot.generation })

/-- The slot that a handle names. -/
def current (state : State Session) (handle : Nat) : Option (ImmutableSlot Session) :=
  if handle == 0 then none
  else state.immutableSlot.filter fun slot => handle == slot.generation

/-- `AIRuntime::inferPreparedCPUInto` on the slot's session and scratch buffer. -/
def inferPreparedCPUInto (platform : Platform Session) (slot : ImmutableSlot Session)
    (buffer : TensorBuffer) : Except String InferenceResult × ImmutableSlot Session :=
  let (resolved, runtime) :=
    slot.runtime.routeForModel platform.host platform.around.world slot.model
  let slot := { slot with runtime }
  if !resolved.route.selected || resolved.route.backend != .onnxRuntimeCPU then
    (.ok (attachHardwareEvidence (unavailableResult resolved.route.reason) resolved.route), slot)
  else if !validateInputMatchesShape buffer then
    (.ok (attachHardwareEvidence
      { status := .invalidInput, reason := "input_shape_mismatch" } resolved.route), slot)
  else
    let (outcome, written) := platform.runInto slot.session buffer slot.scratch
    (outcome.map (attachHardwareEvidence · resolved.route),
      { slot with scratch := (List.range slot.scratch.length).map written })

def immutableEvidence (slot : ImmutableSlot Session) : String :=
  "\x7b\"schema\":\"shorthand.immutable_model.v1\",\"generation\":" ++ toString slot.generation ++
    ",\"sha256\":\"" ++ slot.digest ++ "\"\x7d"

/-- `infer`: the result, the state, and what the caller's output holds afterwards. -/
def infer (state : State Session) (platform : Platform Session) (handle : Nat)
    (input : FloatPointer) (inputCount : Nat) (output : FloatPointer) (outputCount : Nat) :
    InferenceResult × State Session × List Float32Bits :=
  match state.current handle with
  | none => (immutableFailure .invalidInput "stale_immutable_handle", state, output.contents)
  | some slot =>
    if inputCount != slot.model.input.elementCount ||
        outputCount != slot.model.output.elementCount ||
        !immutableRange input inputCount || !immutableRange output outputCount then
      (immutableFailure .invalidInput "invalid_immutable_io", state, output.contents)
    else
      let buffer := TensorBuffer.bindExternalF32 { spec := slot.model.input }
        (some (input.contents.take inputCount)) inputCount
      let refreshed := { slot with
        runtime := slot.runtime.refreshPolicyFromEnvironment platform.around.world }
      let (outcome, slot) := inferPreparedCPUInto platform refreshed buffer
      let state := { state with immutableSlot := some slot }
      match outcome with
      | .error what => (immutableFailure .runtimeError what, state, output.contents)
      | .ok result =>
        if result.status != .success then (result, state, output.contents)
        else if result.outputElements != outputCount || !slot.scratch.all isfinite then
          (immutableFailure .runtimeError "invalid_immutable_output", state, output.contents)
        else
          ({ result with evidenceJsonFragment := immutableEvidence slot }, state,
            slot.scratch.take outputCount ++ output.contents.drop outputCount)

def release (state : State Session) (handle : Nat) : Bool × State Session :=
  match state.current handle with
  | none => (false, state)
  | some _ => (true, { state with immutableSlot := none })

/-- What `short_runtime_reset` does to the slot. -/
def reset (state : State Session) : State Session := { state with immutableSlot := none }

end State

inductive Call (Session : Type) where
  | bind (platform : Platform Session) (model : ModelSpec) (bytes : Option (List UInt8))
      (sha256 : String)
  | infer (platform : Platform Session) (handle : Nat) (input : FloatPointer) (inputCount : Nat)
      (output : FloatPointer) (outputCount : Nat)
  | release (handle : Nat)
  | reset

/-- What a call returned. -/
inductive Answer where
  | bound (binding : Binding)
  | inferred (result : InferenceResult) (output : List Float32Bits)
  | released (done : Bool)
  | reset

def State.step (state : State Session) : Call Session → Answer × State Session
  | .bind platform model bytes sha256 =>
    let answer := state.bind platform model bytes sha256
    (.bound answer.1, answer.2)
  | .infer platform handle input inputCount output outputCount =>
    let answer := state.infer platform handle input inputCount output outputCount
    (.inferred answer.1 answer.2.2, answer.2.1)
  | .release handle =>
    let answer := state.release handle
    (.released answer.1, answer.2)
  | .reset => (.reset, state.reset)

/-- A call together with its answer. -/
structure Event (Session : Type) where
  call : Call Session
  answer : Answer

namespace Event

/-- The handle that a successful bind returned. -/
def boundHandle (event : Event Session) : Option Nat :=
  match event.answer with
  | .bound binding => if binding.handle == 0 then none else some binding.handle
  | _ => none

/-- The call asks to invalidate this handle. -/
def Invalidates (handle : Nat) (event : Event Session) : Prop :=
  match event.call with
  | .reset => True
  | .release released => released = handle
  | _ => False

/-- An inference or a release of this handle that succeeded. -/
def SucceedsOn (handle : Nat) (event : Event Session) : Prop :=
  match event.call, event.answer with
  | .infer _ used _ _ _ _, .inferred result _ => used = handle ∧ result.status = .success
  | .release used, .released done => used = handle ∧ done = true
  | _, _ => False

end Event

/-- The handle was returned by the most recent successful bind, and no reset and
no release of it came after. -/
def Live (past : List (Event Session)) (handle : Nat) : Prop :=
  ∃ earlier bound later, past = earlier ++ bound :: later ∧ bound.boundHandle = some handle ∧
    ∀ event ∈ later, event.boundHandle = none ∧ ¬ event.Invalidates handle

/-- One call, entered into the history. -/
def record (run : List (Event Session) × State Session) (call : Call Session) :
    Option (List (Event Session) × State Session) :=
  some (run.1 ++ [⟨call, (run.2.step call).1⟩], (run.2.step call).2)

/-- The histories of a process, each with the state it ends in. -/
def History (past : List (Event Session)) (state : State Session) : Prop :=
  Reaches record (fun _ _ => True) ([], {}) (past, state)

section Step

variable {platform : Platform Session} {state : State Session} {model : ModelSpec}
  {bytes : Option (List UInt8)} {sha256 : String} {slot : ImmutableSlot Session} {handle : Nat}

theorem bindChecks_generation (checked : bindChecks state model bytes sha256 = .ok snapshot) :
    state.immutableGeneration ≠ 2 ^ 64 - 1 := by
  unfold bindChecks at checked
  split at checked
  · cases checked
  · split_ifs at checked with _ _ exhausted
    simpa using exhausted

theorem candidate_generation (built : candidate platform state model bytes sha256 = .ok slot) :
    state.immutableGeneration ≠ 2 ^ 64 - 1 ∧
      slot.generation = (state.immutableGeneration + 1) % 2 ^ 64 := by
  obtain ⟨snapshot, checked, rest⟩ := bind_eq_ok.mp built
  obtain ⟨_, _, rest⟩ := bind_eq_ok.mp rest
  obtain ⟨_, _, rest⟩ := bind_eq_ok.mp rest
  obtain ⟨_, _, rest⟩ := bind_eq_ok.mp rest
  cases rest
  exact ⟨bindChecks_generation checked, rfl⟩

/-- A bind replaces the slot under a fresh handle, or changes nothing. -/
theorem State.bind_cases (state : State Session) (platform : Platform Session)
    (model : ModelSpec) (bytes : Option (List UInt8)) (sha256 : String)
    (bounded : state.immutableGeneration < 2 ^ 64) :
    (∃ error, state.bind platform model bytes sha256 = ({ error }, state)) ∨
      ∃ slot : ImmutableSlot Session, slot.generation = state.immutableGeneration + 1 ∧
        slot.generation < 2 ^ 64 ∧
        state.bind platform model bytes sha256 =
          ({ handle := slot.generation },
            { immutableSlot := some slot, immutableGeneration := slot.generation }) := by
  unfold State.bind
  split
  · exact .inl ⟨_, rfl⟩
  rename_i slot built
  obtain ⟨spare, generation⟩ := candidate_generation built
  rw [Nat.mod_eq_of_lt (by omega)] at generation
  exact .inr ⟨slot, generation, by omega, rfl⟩

theorem State.current_eq_some (found : state.current handle = some slot) :
    state.immutableSlot = some slot ∧ slot.generation = handle := by
  unfold State.current at found
  split at found
  · cases found
  · obtain ⟨stored, same⟩ := Option.filter_eq_some_iff.mp found
    exact ⟨stored, (beq_iff_eq.mp same).symm⟩

theorem State.current_eq_none (missing : state.current handle = none)
    (stored : state.immutableSlot = some slot) (fresh : slot.generation ≠ 0) :
    handle ≠ slot.generation := by
  rintro rfl
  simp [State.current, stored, fresh] at missing

theorem inferPreparedCPUInto_generation (slot : ImmutableSlot Session) (buffer : TensorBuffer) :
    (State.inferPreparedCPUInto platform slot buffer).2.generation = slot.generation := by
  unfold State.inferPreparedCPUInto
  simp only
  split_ifs <;> rfl

/-- An inference keeps the slot's generation, needs the slot's handle to succeed
and commits to the output only then. -/
theorem State.infer_cases (state : State Session) (platform : Platform Session) (handle : Nat)
    (input : FloatPointer) (inputCount : Nat) (output : FloatPointer) (outputCount : Nat) :
    let answer := state.infer platform handle input inputCount output outputCount
    answer.2.1.immutableGeneration = state.immutableGeneration ∧
      answer.2.1.immutableSlot.map (·.generation) = state.immutableSlot.map (·.generation) ∧
      (answer.1.status = .success → state.immutableSlot.map (·.generation) = some handle) ∧
      (answer.1.status ≠ .success → answer.2.2 = output.contents) := by
  unfold State.infer
  cases found : state.current handle with
  | none => exact ⟨rfl, rfl, nofun, fun _ => rfl⟩
  | some slot =>
    obtain ⟨stored, generation⟩ := State.current_eq_some found
    have current : state.immutableSlot.map (·.generation) = some handle := by
      rw [stored, Option.map_some, generation]
    simp only
    split
    · exact ⟨rfl, rfl, fun _ => current, fun _ => rfl⟩
    have kept := @inferPreparedCPUInto_generation _ platform
      { slot with runtime := slot.runtime.refreshPolicyFromEnvironment platform.around.world }
      (TensorBuffer.bindExternalF32 { spec := slot.model.input }
        (some (input.contents.take inputCount)) inputCount)
    replace kept := (congrArg some kept).trans (generation ▸ current.symm)
    split
    · exact ⟨rfl, kept, fun _ => current, fun _ => rfl⟩
    split_ifs with failed rejected
    · exact ⟨rfl, kept, fun _ => current, fun _ => rfl⟩
    · exact ⟨rfl, kept, fun _ => current, fun _ => rfl⟩
    refine ⟨rfl, kept, fun _ => current, ?_⟩
    intro unsuccessful
    simp only [bne_iff_ne, ne_eq, not_not] at failed
    exact absurd failed unsuccessful

theorem State.release_cases (state : State Session) (handle : Nat) :
    (∃ slot, state.current handle = some slot ∧
        state.release handle = (true, { state with immutableSlot := none })) ∨
      state.current handle = none ∧ state.release handle = (false, state) := by
  unfold State.release
  cases found : state.current handle with
  | none => exact .inr ⟨rfl, rfl⟩
  | some slot => exact .inl ⟨slot, rfl, rfl⟩

end Step

section History

variable {past : List (Event Session)} {state : State Session} {event : Event Session}
  {handle : Nat}

theorem Live.append (live : Live past handle) (quiet : event.boundHandle = none)
    (spared : ¬ event.Invalidates handle) : Live (past ++ [event]) handle := by
  obtain ⟨earlier, bound, later, rfl, returned, untouched⟩ := live
  exact ⟨earlier, bound, later ++ [event], by simp, returned,
    List.forall_mem_append.mpr ⟨untouched, List.forall_mem_singleton.mpr ⟨quiet, spared⟩⟩⟩

theorem Live.ne_zero (live : Live past handle) : handle ≠ 0 := by
  obtain ⟨_, bound, _, _, returned, _⟩ := live
  unfold Event.boundHandle at returned
  split at returned
  · split_ifs at returned with zero
    simp_all
  · cases returned

/-- The history explains the state: the slot's handle is live, and the counter
is above every handle returned so far. -/
structure Explains (past : List (Event Session)) (state : State Session) : Prop where
  bounded : state.immutableGeneration < 2 ^ 64
  below : ∀ handle ∈ past.filterMap Event.boundHandle, handle ≤ state.immutableGeneration
  increasing : (past.filterMap Event.boundHandle).Pairwise (· < ·)
  live : ∀ handle, state.immutableSlot.map (·.generation) = some handle → Live past handle

/-- A call that returns no handle and stores no other generation. -/
theorem Explains.quiet (explains : Explains past state) (quiet : event.boundHandle = none)
    (counter : after.immutableGeneration = state.immutableGeneration)
    (slot : ∀ handle, after.immutableSlot.map (·.generation) = some handle →
      state.immutableSlot.map (·.generation) = some handle ∧ ¬ event.Invalidates handle) :
    Explains (past ++ [event]) after := by
  have same : (past ++ [event]).filterMap Event.boundHandle =
      past.filterMap Event.boundHandle := by simp [List.filterMap_append, quiet]
  refine ⟨counter ▸ explains.bounded, ?_, ?_, ?_⟩
  · rw [same, counter]
    exact explains.below
  · rw [same]
    exact explains.increasing
  · intro handle stored
    obtain ⟨before, spared⟩ := slot handle stored
    exact (explains.live handle before).append quiet spared

theorem Explains.step (explains : Explains past state) (call : Call Session) :
    Explains (past ++ [⟨call, (state.step call).1⟩]) (state.step call).2 := by
  cases call with
  | bind platform model bytes sha256 =>
    rcases state.bind_cases platform model bytes sha256 explains.bounded with
      ⟨error, failed⟩ | ⟨slot, next, within, bound⟩
    · simp only [State.step, failed]
      exact explains.quiet rfl rfl fun handle stored => ⟨stored, id⟩
    have returned : @Event.boundHandle Session
        ⟨.bind platform model bytes sha256, .bound { handle := slot.generation }⟩ =
        some slot.generation := by
      simp [Event.boundHandle, next]
    simp only [State.step, bound]
    refine ⟨within, ?_, ?_, ?_⟩
    · simp only [List.filterMap_append, List.mem_append]
      rintro handle (old | new)
      · have := explains.below handle old
        omega
      · simp [returned] at new
        omega
    · rw [List.filterMap_append, List.pairwise_append]
      refine ⟨explains.increasing, by simp [returned], ?_⟩
      intro old before new after
      have := explains.below old before
      simp [returned] at after
      omega
    · intro handle stored
      obtain rfl : slot.generation = handle := Option.some.inj stored
      exact ⟨past, ⟨.bind platform model bytes sha256, .bound { handle := slot.generation }⟩, [],
        rfl, returned, by simp⟩
  | infer platform handle input inputCount output outputCount =>
    obtain ⟨counter, slot, _, _⟩ :=
      state.infer_cases platform handle input inputCount output outputCount
    exact explains.quiet rfl counter fun handle stored => ⟨slot.symm.trans stored, id⟩
  | release handle =>
    rcases state.release_cases handle with ⟨slot, _, released⟩ | ⟨missing, refused⟩
    · simp only [State.step, released]
      exact explains.quiet rfl rfl nofun
    simp only [State.step, refused]
    refine explains.quiet rfl rfl fun stored same => ⟨same, ?_⟩
    obtain ⟨slot, held, rfl⟩ := Option.map_eq_some_iff.mp same
    exact State.current_eq_none missing held (explains.live _ same).ne_zero
  | reset => exact explains.quiet rfl rfl nofun

theorem History.explains (history : History past state) : Explains past state := by
  refine @Reaches.invariant _ _ record (fun _ _ => True) ([], {}) (past, state)
    (fun run => Explains run.1 run.2) history ?_ ?_
  · exact ⟨Nat.two_pow_pos 64, nofun, .nil, nofun⟩
  · rintro ⟨past, state⟩ call _ explains _ ⟨⟩
    exact explains.step call

/-- In every history: each successful bind returns a handle larger than all
before it; an inference or release succeeds only on the live handle; a bind that
fails changes nothing; and an inference that does not succeed leaves the output
as it was. -/
theorem handle_protocol (history : History past state) :
    (past.filterMap Event.boundHandle).Pairwise (· < ·) ∧
    (∀ call handle, Event.SucceedsOn handle ⟨call, (state.step call).1⟩ → Live past handle) ∧
    (∀ platform model bytes sha256, (state.bind platform model bytes sha256).1.handle = 0 →
      (state.bind platform model bytes sha256).2 = state) ∧
    (∀ platform handle input inputCount output outputCount,
      (state.infer platform handle input inputCount output outputCount).1.status ≠ .success →
      (state.infer platform handle input inputCount output outputCount).2.2 =
        output.contents) := by
  have explains := history.explains
  refine ⟨explains.increasing, ?_, ?_, ?_⟩
  · intro call handle succeeds
    cases call with
    | bind | reset => exact succeeds.elim
    | infer platform used input inputCount output outputCount =>
      obtain ⟨rfl, success⟩ := succeeds
      obtain ⟨_, _, current, _⟩ :=
        state.infer_cases platform used input inputCount output outputCount
      exact explains.live used (current success)
    | release used =>
      obtain ⟨rfl, done⟩ : used = handle ∧ (state.release used).1 = true := succeeds
      rcases state.release_cases used with ⟨slot, found, _⟩ | ⟨_, refused⟩
      · obtain ⟨stored, generation⟩ := State.current_eq_some found
        exact explains.live used (by rw [stored, Option.map_some, generation])
      · rw [refused] at done
        cases done
  · intro platform model bytes sha256 failed
    rcases state.bind_cases platform model bytes sha256 explains.bounded with
      ⟨error, unchanged⟩ | ⟨slot, next, _, bound⟩
    · rw [unchanged]
    · rw [bound] at failed
      simp only at failed
      omega
  · intro platform handle input inputCount output outputCount unsuccessful
    obtain ⟨_, _, _, untouched⟩ :=
      state.infer_cases platform handle input inputCount output outputCount
    exact untouched unsuccessful

end History

/-- A platform whose sessions always answer with one zero. -/
def cpuPlatform : Platform (List UInt8) where
  host := cpuHost
  registry := [cpuBackend]
  around := ⟨⟨fun _ => none, fun _ => false⟩, fun _ => none⟩
  sha256 _ := String.ofList (List.replicate 64 'a')
  validateEnvelope _ := .ok ()
  runInto _ _ _ := (.ok { status := .success, outputElements := 1 }, fun _ => 0)

def scalarModel : ModelSpec :=
  let scalar : TensorSpec := { elementType := .float32, shape := [1], elementCount := 1 }
  { format := .onnx, precision := "float32", input := scalar, output := scalar
    backendPreference := [.onnxRuntimeCPU], allowFallback := false }

def bindScalar : Call (List UInt8) :=
  .bind cpuPlatform scalarModel (some [1]) (String.ofList (List.replicate 64 'a'))

/-- Bind twice, then infer through the second handle. -/
theorem second_handle_live :
    ∃ past state, @History (List UInt8) past state ∧
      past.filterMap Event.boundHandle = [1, 2] ∧
      (state.infer cpuPlatform 2 ⟨4, [7]⟩ 1 ⟨8, [9]⟩ 1).1.status = .success ∧
      (state.infer cpuPlatform 2 ⟨4, [7]⟩ 1 ⟨8, [9]⟩ 1).2.2 = [0] ∧ Live past 2 := by
  let first := @State.step (List UInt8) {} bindScalar
  let second := first.2.step bindScalar
  have history : History [⟨bindScalar, first.1⟩, ⟨bindScalar, second.1⟩] second.2 :=
    @Reaches.next _ _ _ _ _ _ _ bindScalar
      (@Reaches.next _ _ _ _ _ _ _ bindScalar .start trivial rfl) trivial rfl
  have success : (second.2.infer cpuPlatform 2 ⟨4, [7]⟩ 1 ⟨8, [9]⟩ 1).1.status = .success := by
    decide +kernel
  refine ⟨_, _, history, by decide +kernel, success, by decide +kernel, ?_⟩
  exact (handle_protocol history).2.1 (.infer cpuPlatform 2 ⟨4, [7]⟩ 1 ⟨8, [9]⟩ 1) 2
    ⟨rfl, success⟩

end ShortHand.Inference.Immutable
