import ShortHand.Inference.Backend

/-! The prepared-session cache of `AIRuntime::inferCached`. A run is any list of calls, on any
runtime objects, on one cache. -/

namespace ShortHand.Inference

open ShortHand.Library ShortHand.Routing

variable {Session : Type}

structure PreparedInferenceCache (Session : Type) where
  model : ModelSpec := {}
  snapshot : List UInt8 := []
  candidateSnapshot : List UInt8 := []
  session : Option Session := none
  preparations : Nat := 0

namespace PreparedInferenceCache

def clear (cache : PreparedInferenceCache Session) : PreparedInferenceCache Session :=
  { preparations := cache.preparations }

end PreparedInferenceCache

def kMaxSnapshotBytes : Nat := 16 * 1024 * 1024

/-- The bytes that `readCacheableSnapshot` reads, when it succeeds: the file must
still have exactly the size it was opened with. -/
def readCacheableSnapshot (around : Surroundings) (model : ModelSpec) : Option (List UInt8) :=
  if model.format != .onnx || model.precision != "float32" then none
  else
    match around.file model.path with
    | none => none
    | some view =>
      if view.size ≤ 0 || view.size > kMaxSnapshotBytes then none
      else if view.contents.length == view.size.toNat then some view.contents else none

/-- The model as it is passed to the backend of the route. -/
def routedModel (model : ModelSpec) (route : HardwareRoute) : ModelSpec :=
  { model with backendPreference := [route.backend], allowFallback := false }

/-- A call's result, the state it leaves, and the session it ran, if any. -/
structure Outcome (Session : Type) where
  result : InferenceResult
  cache : PreparedInferenceCache Session
  output : Option (List Float32Bits)
  ran : Option Session := none

/-- Use the cached session when model and bytes are the cached ones, and prepare
a new one otherwise. The cache holds the candidate bytes. -/
def acquire (backend : AIBackend Session) (routed : ModelSpec)
    (cache : PreparedInferenceCache Session) : Bool × PreparedInferenceCache Session :=
  if cache.session.isSome && sameModel cache.model routed &&
      cache.snapshot == cache.candidateSnapshot then (true, cache)
  else
    let configuration : InferenceConfiguration := { modelBytes := cache.candidateSnapshot }
    match backend.prepare routed configuration with
    | .error _ => (false, cache.clear)
    | .ok session =>
      (false, { cache.clear with
        model := routed
        snapshot := configuration.modelBytes
        session := some session
        preparations := (cache.clear.preparations + 1) % 2 ^ 64 })

def cacheEvidence (hit : Bool) (preparations : Nat) (resolved : ResolvedRoute)
    (preallocated : Bool) : String :=
  "\x7b\"schema\":\"shorthand.prepared_cache.v1\",\"hit\":" ++ jsonBool hit ++
    ",\"preparations\":" ++ toString preparations ++
    ",\"route_cache_hit\":" ++ jsonBool resolved.cacheHit ++
    ",\"hardware_probes\":" ++ toString resolved.hardwareProbes ++
    ",\"preallocated_output\":" ++ jsonBool preallocated ++ "\x7d"

/-- `session->runInto` or `session->run`. -/
def AIBackend.execute (backend : AIBackend Session) (session : Session) (input : TensorBuffer) :
    Option (List Float32Bits) → InferenceResult × Option (List Float32Bits)
  | some destination =>
    let (result, written) := backend.runInto session input destination
    (result, some written)
  | none => (backend.run session input, none)

/-- Run a session; a result other than success empties the cache. -/
def runSession (backend : AIBackend Session) (resolved : ResolvedRoute) (hit : Bool)
    (session : Session) (input : TensorBuffer) (cache : PreparedInferenceCache Session)
    (output : Option (List Float32Bits)) : Outcome Session :=
  let executed := backend.execute session input output
  let result := { executed.1 with
    evidenceJsonFragment := cacheEvidence hit cache.preparations resolved output.isSome }
  { result := attachHardwareEvidence result resolved.route
    cache := if result.status != .success then cache.clear else cache
    output := executed.2
    ran := some session }

/-- The path of a backend that prepares nothing. -/
def inferUncached (around : Surroundings) (resolved : ResolvedRoute) (backend : AIBackend Session)
    (routed : ModelSpec) (input : TensorBuffer) (cache : PreparedInferenceCache Session)
    (output : Option (List Float32Bits)) : Outcome Session :=
  let (result, output) := writeRequestedOutput (backend.infer around routed input) output
  { result := attachHardwareEvidence result resolved.route, cache, output }

/-- The part of `inferImpl` in which the route's backend executes. -/
def inferRouted (around : Surroundings) (resolved : ResolvedRoute) (backend : AIBackend Session)
    (routed : ModelSpec) (input : TensorBuffer) (cache : PreparedInferenceCache Session)
    (output : Option (List Float32Bits)) : Outcome Session :=
  if resolved.route.backend == .onnxRuntimeCPU then
    match readCacheableSnapshot around routed with
    | none => inferUncached around resolved backend routed input cache.clear output
    | some bytes =>
      let (hit, cache) := acquire backend routed { cache with candidateSnapshot := bytes }
      match cache.session with
      | some session => runSession backend resolved hit session input cache output
      -- a model that cannot be loaded from memory is inferred from its path
      | none => inferUncached around resolved backend routed input cache output
  else inferUncached around resolved backend routed input cache.clear output

/-- The end of `inferImpl`, with no backend for the route. -/
def inferFallback (registry : List (AIBackend Session)) (around : Surroundings)
    (route : HardwareRoute) (model : ModelSpec) (input : TensorBuffer) : InferenceResult :=
  let unqualified := route.reason == "backend_device_not_production_qualified"
  let unavailable := attachHardwareEvidence (unavailableResult
    (if unqualified then route.reason else "no_execution_ready_hardware_backend")) route
  if model.allowFallback then
    let fallbackModel := { model with backendPreference := [.fallback], allowFallback := true }
    match select registry around fallbackModel with
    | some backend =>
      attachHardwareEvidence { backend.infer around fallbackModel input with
        status := .notExecuted
        backend := .fallback
        backendName := "fallback"
        providerName := "none"
        reason := if unqualified then route.reason else "backend_not_available"
        outputF32 := [] } route
    | none => unavailable
  else unavailable

/-- `AIRuntime::inferImpl` with a cache, once its route is resolved. -/
def inferImpl (registry : List (AIBackend Session)) (around : Surroundings)
    (resolved : ResolvedRoute) (model : ModelSpec) (input : TensorBuffer)
    (cache : PreparedInferenceCache Session) (output : Option (List Float32Bits)) :
    Outcome Session :=
  if !validateInputMatchesShape input then
    { result := attachHardwareEvidence
        { status := .invalidInput, backend := .fallback, backendName := "none"
          providerName := "none", reason := "input_shape_mismatch" } resolved.route
      cache, output }
  else
    let routed := routedModel model resolved.route
    match if resolved.route.selected then select registry around routed else none with
    | some backend => inferRouted around resolved backend routed input cache output
    | none =>
      { result := inferFallback registry around resolved.route model input
        cache := cache.clear, output }

/-- `inferCached` has no destination; `inferCachedInto` gets a pointer that may
be null, with a length that may be zero. -/
inductive Destination where
  | returned
  | into (output : Option (List Float32Bits))

namespace Destination

def output : Destination → Option (List Float32Bits)
  | .returned => none
  | .into output => output

def usable : Destination → Bool
  | .returned => true
  | .into output => !(output.getD []).isEmpty

end Destination

/-- One call of either function, on some runtime object. -/
structure Call where
  runtime : AIRuntime
  around : Surroundings
  model : ModelSpec
  input : TensorBuffer
  destination : Destination := .returned

namespace Call

variable (host : Host) (registry : List (AIBackend Session))

def resolved (call : Call) : ResolvedRoute :=
  (call.runtime.routeForModel host call.around.world call.model).1

/-- `inferCached` and `inferCachedInto`. -/
def perform (call : Call) (cache : PreparedInferenceCache Session) : Outcome Session :=
  if !call.destination.usable then
    { result := { status := .invalidInput, reason := "invalid_preallocated_output" }
      cache, output := call.destination.output }
  else
    inferImpl registry call.around (call.resolved host) call.model call.input cache
      call.destination.output

/-- The model the call's backend is asked for. -/
def routed (call : Call) : ModelSpec := routedModel call.model (call.resolved host).route

/-- The backend that executes the call, if its route has one. -/
def backend (call : Call) : Option (AIBackend Session) :=
  if (call.resolved host).route.selected then select registry call.around (call.routed host)
  else none

/-- The arguments are usable: both functions return before they look at the
cache when the destination is missing or the input does not match its shape. -/
def wellFormed (call : Call) : Bool :=
  call.destination.usable && validateInputMatchesShape call.input

/-- The route of the call is the one that prepared sessions are for. -/
def preparedRoute (call : Call) : Bool :=
  (call.backend host registry).isSome && (call.resolved host).route.backend == .onnxRuntimeCPU

/-- The bytes of the call's model file, if it can be cached. -/
def snapshot (call : Call) : Option (List UInt8) :=
  readCacheableSnapshot call.around (call.routed host)

end Call

/-- `session` is what a backend of the registry prepared from `spec` and `bytes`. -/
def PreparedFrom (registry : List (AIBackend Session)) (spec : ModelSpec) (bytes : List UInt8)
    (session : Session) : Prop :=
  ∃ backend ∈ registry, backend.kind = .onnxRuntimeCPU ∧
    backend.prepare spec { modelBytes := bytes } = .ok session

/-- The cached session was prepared from the cached model and snapshot. -/
def PreparedInferenceCache.Coherent (registry : List (AIBackend Session))
    (cache : PreparedInferenceCache Session) : Prop :=
  ∀ session, cache.session = some session →
    PreparedFrom registry cache.model cache.snapshot session

/-- `session` may stand for one prepared from this request: its specification is
the request's own or compares equal to it, and its bytes are the request's. -/
def ServesRequest (registry : List (AIBackend Session)) (routed : ModelSpec)
    (bytes : List UInt8) (session : Session) : Prop :=
  ∃ spec, (spec = routed ∨ sameModel spec routed = true) ∧
    PreparedFrom registry spec bytes session

section Spec

variable {registry : List (AIBackend Session)} {cache : PreparedInferenceCache Session}
  {backend : AIBackend Session} {routed : ModelSpec} {resolved : ResolvedRoute}
  {input : TensorBuffer} {output : Option (List Float32Bits)} {around : Surroundings}

theorem PreparedInferenceCache.Coherent.clear :
    PreparedInferenceCache.Coherent registry cache.clear := nofun

/-- Whatever `acquire` leaves in the cache serves the request. -/
theorem acquire_spec (coherent : cache.Coherent registry) (registered : backend ∈ registry)
    (kind : backend.kind = .onnxRuntimeCPU) :
    (acquire backend routed cache).2.Coherent registry ∧
      ∀ session, (acquire backend routed cache).2.session = some session →
        ServesRequest registry routed cache.candidateSnapshot session := by
  unfold acquire
  split
  · rename_i hit
    simp only [Bool.and_eq_true, beq_iff_eq] at hit
    obtain ⟨⟨_, same⟩, bytes⟩ := hit
    refine ⟨coherent, fun session held => ⟨cache.model, .inr same, ?_⟩⟩
    exact bytes ▸ coherent session held
  · simp only
    split
    · exact ⟨.clear, nofun⟩
    rename_i session prepared
    have fresh : PreparedFrom registry routed cache.candidateSnapshot session :=
      ⟨backend, registered, kind, prepared⟩
    refine ⟨?_, ?_⟩
    · rintro held ⟨⟩
      exact fresh
    · rintro held ⟨⟩
      exact ⟨routed, .inl rfl, fresh⟩

theorem runSession_spec {hit : Bool} (coherent : cache.Coherent registry) :
    let outcome := runSession backend resolved hit session input cache output
    outcome.ran = some session ∧ outcome.cache.Coherent registry ∧
      (outcome.result.status ≠ .success → outcome.cache.session = none) := by
  simp only [runSession, attachHardwareEvidence_status, bne_iff_ne]
  refine ⟨trivial, ?_, fun failed => ?_⟩
  · split
    · exact .clear
    · exact coherent
  · rw [if_pos failed]
    rfl

/-- What a call does to the cache and which session it runs. -/
structure Transparent (registry : List (AIBackend Session)) (routed : ModelSpec)
    (bytes : Option (List UInt8)) (prepared : Bool) (outcome : Outcome Session) : Prop where
  coherent : outcome.cache.Coherent registry
  serves : ∀ session, outcome.ran = some session →
    ∃ current, bytes = some current ∧ ServesRequest registry routed current session
  failed : outcome.ran.isSome = true → outcome.result.status ≠ .success →
    outcome.cache.session = none
  uncacheable : bytes = none → outcome.cache.session = none
  elsewhere : prepared = false → outcome.cache.session = none

theorem Transparent.idle (coherent : outcome.cache.Coherent registry) (unused : outcome.ran = none)
    (cleared : outcome.cache.session = none) :
    Transparent registry routed bytes prepared outcome where
  coherent := coherent
  serves _ used := absurd used (by simp [unused])
  failed _ _ := cleared
  uncacheable _ := cleared
  elsewhere _ := cleared

theorem inferRouted_spec (coherent : cache.Coherent registry) (registered : backend ∈ registry)
    (kind : backend.kind = resolved.route.backend) :
    Transparent registry routed (readCacheableSnapshot around routed)
      (resolved.route.backend == .onnxRuntimeCPU)
      (inferRouted around resolved backend routed input cache output) := by
  unfold inferRouted
  split
  · rename_i cpu
    rw [cpu]
    rw [beq_iff_eq] at cpu
    split
    · exact .idle .clear rfl rfl
    rename_i bytes read
    obtain ⟨kept, serves⟩ :=
      @acquire_spec _ _ { cache with candidateSnapshot := bytes } backend routed coherent
        registered (kind.trans cpu)
    simp only
    split
    · rename_i session held
      obtain ⟨ran, after, cleared⟩ := @runSession_spec _ _ _ backend resolved input output session
        (acquire backend routed { cache with candidateSnapshot := bytes }).1 kept
      refine ⟨after, ?_, fun _ => cleared, by simp [read], by simp⟩
      intro used same
      obtain rfl : session = used := Option.some.inj (ran.symm.trans same)
      exact ⟨bytes, read, serves session held⟩
    · rename_i missing
      exact .idle kept rfl missing
  · exact .idle .clear rfl rfl

variable {host : Host} {call : Call}

/-- A call with usable arguments is executed by the backend of its route, or
empties the cache. -/
theorem Call.perform_wellFormed (accepted : call.wellFormed = true) :
    call.perform host registry cache =
      match call.backend host registry with
      | some backend =>
        inferRouted call.around (call.resolved host) backend (call.routed host) call.input cache
          call.destination.output
      | none =>
        { result := inferFallback registry call.around (call.resolved host).route call.model
            call.input
          cache := cache.clear, output := call.destination.output } := by
  obtain ⟨usable, matching⟩ := Bool.and_eq_true_iff.mp accepted
  rw [Call.perform, usable, inferImpl, matching]
  rfl

theorem Call.perform_malformed (refused : call.wellFormed = false) :
    (call.perform host registry cache).cache = cache ∧
      (call.perform host registry cache).ran = none := by
  unfold Call.perform
  split
  · exact ⟨rfl, rfl⟩
  rename_i usable
  have mismatch : validateInputMatchesShape call.input = false := by
    simp only [Call.wellFormed, Bool.and_eq_false_iff] at refused
    simp_all
  rw [inferImpl, mismatch]
  exact ⟨rfl, rfl⟩

theorem Call.backend_registered (found : call.backend host registry = some backend) :
    backend ∈ registry ∧ backend.kind = (call.resolved host).route.backend := by
  unfold Call.backend at found
  split at found
  · exact select_single rfl rfl found
  · cases found

theorem Call.perform_spec (coherent : cache.Coherent registry) (accepted : call.wellFormed = true) :
    Transparent registry (call.routed host) (call.snapshot host)
      (call.preparedRoute host registry) (call.perform host registry cache) := by
  rw [Call.perform_wellFormed accepted, Call.preparedRoute]
  cases found : call.backend host registry with
  | none => exact ⟨.clear, nofun, nofun, fun _ => rfl, fun _ => rfl⟩
  | some backend =>
    obtain ⟨registered, kind⟩ := Call.backend_registered found
    exact inferRouted_spec coherent registered kind

end Spec

/-- The caches that any sequence of calls leads to. -/
def PreparedInferenceCache.Reachable (host : Host) (registry : List (AIBackend Session)) :
    PreparedInferenceCache Session → Prop :=
  Reaches (fun cache (call : Call) => some (call.perform host registry cache).cache)
    (fun _ _ => True) {}

theorem PreparedInferenceCache.Reachable.coherent {cache : PreparedInferenceCache Session}
    (reached : PreparedInferenceCache.Reachable host registry cache) : cache.Coherent registry := by
  refine Reaches.invariant reached nofun ?_
  rintro earlier call later coherent _ ⟨⟩
  cases accepted : call.wellFormed with
  | true => exact (Call.perform_spec coherent accepted).coherent
  | false =>
    rwa [(Call.perform_malformed accepted).1]

/-- After any calls, a session that is run was prepared from a specification and
bytes equal to the request's. A call whose arguments are refused leaves the
cache alone; any other call leaves no session behind when its run did not
succeed, its model cannot be cached or its route is another one. -/
theorem cache_transparent {host : Host} {registry : List (AIBackend Session)}
    {cache : PreparedInferenceCache Session}
    (reached : PreparedInferenceCache.Reachable host registry cache) (call : Call) :
    (∀ session, (call.perform host registry cache).ran = some session →
      ∃ bytes, call.snapshot host = some bytes ∧
        ServesRequest registry (call.routed host) bytes session) ∧
    (call.wellFormed = false → (call.perform host registry cache).cache = cache ∧
      (call.perform host registry cache).ran = none) ∧
    (call.wellFormed = true →
      ((call.perform host registry cache).ran.isSome = true ∧
          (call.perform host registry cache).result.status ≠ .success) ∨
        call.snapshot host = none ∨ call.preparedRoute host registry = false →
      (call.perform host registry cache).cache.session = none) := by
  refine ⟨?_, fun refused => Call.perform_malformed refused, fun accepted => ?_⟩
  · cases accepted : call.wellFormed with
    | true => exact (Call.perform_spec reached.coherent accepted).serves
    | false =>
      intro session ran
      rw [(Call.perform_malformed accepted).2] at ran
      cases ran
  · have spec := @Call.perform_spec _ registry cache host call reached.coherent accepted
    rintro (⟨ran, failed⟩ | uncacheable | elsewhere)
    · exact spec.failed ran failed
    · exact spec.uncacheable uncacheable
    · exact spec.elsewhere elsewhere

/-- A request for one model, on a fresh runtime with the given policy, with the
model file as given and an input of one float for the given shape. -/
def cpuRequest (policy : HardwareRoutingPolicy) (file : Option (List UInt8)) (shape : List Int) :
    Call where
  runtime := { hardwarePolicy := policy }
  around :=
    { world := ⟨fun _ => none, fun _ => false⟩
      file := fun _ => file.map fun contents => ⟨contents.length, contents⟩ }
  model := { name := "m", path := "m.onnx", format := .onnx, precision := "float32" }
  input := { spec := { shape }, f32Data := [0] }

def cpuCached : PreparedInferenceCache (List UInt8) :=
  ((cpuRequest {} (some [1]) [1]).perform cpuHost [cpuBackend] {}).cache

theorem cpuCached_reachable : PreparedInferenceCache.Reachable cpuHost [cpuBackend] cpuCached :=
  @Reaches.next _ _ _ _ _ _ _ (cpuRequest {} (some [1]) [1]) .start trivial rfl

/-- The second request for the same bytes runs the cached session. -/
theorem cpuRequest_served :
    ((cpuRequest {} (some [1]) [1]).perform cpuHost [cpuBackend] cpuCached).ran = some [1] ∧
      ∃ bytes, (cpuRequest {} (some [1]) [1]).snapshot cpuHost = some bytes ∧
        ServesRequest [cpuBackend] ((cpuRequest {} (some [1]) [1]).routed cpuHost) bytes [1] := by
  have ran : ((cpuRequest {} (some [1]) [1]).perform cpuHost [cpuBackend] cpuCached).ran =
      some [1] := by decide +kernel
  exact ⟨ran, (cache_transparent cpuCached_reachable _).1 [1] ran⟩

/-- The model file is gone and the policy routes nowhere, but the input does not
match its shape: the call returns early and the session stays. -/
theorem session_survives_refused_call :
    ∃ cache, PreparedInferenceCache.Reachable cpuHost [cpuBackend] cache ∧
      (cpuRequest { denyList := [.cpu] } none [2]).snapshot cpuHost = none ∧
      (cpuRequest { denyList := [.cpu] } none [2]).preparedRoute cpuHost [cpuBackend] = false ∧
      ((cpuRequest { denyList := [.cpu] } none [2]).perform cpuHost [cpuBackend]
        cache).cache.session = some [1] :=
  ⟨cpuCached, cpuCached_reachable, by decide +kernel, by decide +kernel, by decide +kernel⟩

end ShortHand.Inference
