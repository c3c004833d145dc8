import ShortHand.Routing.Cache

/-! Which observations the cached route depends on, and which of them the invalidation keys
cover. -/

namespace ShortHand.Routing

open ShortHand.Library List

variable {host : Host} {world other : World}

/-- The policy is read from the captured variables only. -/
theorem hardwareRoutingPolicyFromEnvironment_congr
    (same : captureHardwareRoutingPolicyEnvironment world =
      captureHardwareRoutingPolicyEnvironment other) :
    hardwareRoutingPolicyFromEnvironment world = hardwareRoutingPolicyFromEnvironment other := by
  simp only [captureHardwareRoutingPolicyEnvironment, hardwareRoutingPolicyEnvironmentNames,
    map_cons, cons.injEq] at same
  obtain ⟨preference, device, deny, fallback, memory, _⟩ := same
  simp only [hardwareRoutingPolicyFromEnvironment, World.environmentTrue, preference, device, deny,
    fallback, memory]

theorem testBit_signalBits (present : String → Bool) (paths : List String) (first bits index : Nat) :
    (signalBits present paths first bits).testBit index =
      (bits.testBit index || (first ≤ index && (paths[index - first]?.any present))) := by
  induction paths generalizing first bits with
  | nil => simp [signalBits]
  | cons path rest ih =>
    rw [signalBits, ih]
    rcases Nat.lt_trichotomy index first with before | here | after
    · have late : ¬ first ≤ index := by omega
      have later : ¬ first + 1 ≤ index := by omega
      split <;> simp [late, later, Nat.testBit_shiftLeft]
    · subst here
      split <;> simp_all [Nat.testBit_shiftLeft]
    · have position : index - first = (index - (first + 1)) + 1 := by omega
      have early : first ≤ index := by omega
      have earlier : first + 1 ≤ index := by omega
      have missed : Nat.testBit 1 (index - (first + 1) + 1) = false := by
        simp [Nat.testBit_succ]
      split <;> simp [early, earlier, position, Nat.testBit_shiftLeft, missed]

theorem pathExists_congr
    (same : signalBits world.pathExists signalPaths 0 0 =
      signalBits other.pathExists signalPaths 0 0) (signal : path ∈ signalPaths) :
    world.pathExists path = other.pathExists path := by
  obtain ⟨index, bound, rfl⟩ := mem_iff_getElem.mp signal
  have bit := congrArg (fun bits => bits.testBit index) same
  simpa [testBit_signalBits, getElem?_eq_getElem bound] using bit

/-- The probe reads only signals that the generation token compares. -/
theorem probe_congr (bits : signalBits world.pathExists signalPaths 0 0 =
      signalBits other.pathExists signalPaths 0 0)
    (environment : signalNames.map world.environment = signalNames.map other.environment) :
    probe host world = probe host other := by
  have node : ∀ path ∈ signalPaths, world.pathExists path = other.pathExists path :=
    fun path signal => pathExists_congr bits signal
  have value : ∀ name ∈ signalNames, world.environment name = other.environment name :=
    map_inj_left.mp environment
  have truth : ∀ name ∈ signalNames, world.environmentTrue name = other.environmentTrue name := by
    intro name signal
    simp only [World.environmentTrue, value name signal]
  have device : ∀ name ∈ signalNames,
      world.environmentHasDeviceValue name = other.environmentHasDeviceValue name := by
    intro name signal
    simp only [World.environmentHasDeviceValue, value name signal]
  unfold probe
  rw [node "/dev/nvidia0" (by simp [signalPaths]), node "/dev/nvidiactl" (by simp [signalPaths]),
    node "/dev/kfd" (by simp [signalPaths]), node "/dev/dri/renderD128" (by simp [signalPaths]),
    node "/dev/accel0" (by simp [signalPaths]), node "/dev/accel/accel0" (by simp [signalPaths]),
    node "/dev/apex_0" (by simp [signalPaths]),
    device "NVIDIA_VISIBLE_DEVICES" (by simp [signalNames]),
    device "CUDA_VISIBLE_DEVICES" (by simp [signalNames]),
    truth "SHORTHAND_GPU_DETECTED" (by simp [signalNames]),
    truth "SHORTHAND_GPU_ACCESSIBLE" (by simp [signalNames]),
    device "TPU_NAME" (by simp [signalNames]), device "COLAB_TPU_ADDR" (by simp [signalNames]),
    device "XRT_TPU_CONFIG" (by simp [signalNames]),
    truth "SHORTHAND_TPU_DETECTED" (by simp [signalNames]),
    truth "SHORTHAND_TPU_ACCESSIBLE" (by simp [signalNames]),
    truth "SHORTHAND_NPU_DETECTED" (by simp [signalNames]),
    truth "SHORTHAND_NPU_ACCESSIBLE" (by simp [signalNames])]

/-- Models that compare equal are routed alike: selection reads the format, the
precision and the preferred backends. -/
theorem selectHardwareRoute_congr (same : sameModel left right = true)
    (devices : List HardwareDeviceCapability) (capabilities : List BackendCapabilities)
    (policy : HardwareRoutingPolicy) :
    selectHardwareRoute devices capabilities left policy =
      selectHardwareRoute devices capabilities right policy := by
  simp only [sameModel, Bool.and_eq_true, beq_iff_eq] at same
  obtain ⟨⟨⟨⟨⟨⟨⟨⟨⟨⟨⟨⟨_, _⟩, format⟩, _⟩, precision⟩, _⟩, _⟩, preference⟩, _⟩, _⟩, _⟩, _⟩, _⟩ := same
  have fits : ∀ device, backendFits device left = backendFits device right := by
    intro device
    funext capability
    rw [backendFits, backendFits, modelAllowsBackend, modelAllowsBackend, format, precision,
      preference]
  have ready : ∀ device, executionReadyBackend device capabilities left policy =
      executionReadyBackend device capabilities right policy := by
    intro device
    rw [executionReadyBackend, executionReadyBackend, fits]
  have texts : deviceJson capabilities left policy = deviceJson capabilities right policy := by
    funext device
    rw [deviceJson, deviceJson, backendCompatible, backendCompatible, fits, ready]
  have chosen : chooseRoute devices capabilities left policy =
      chooseRoute devices capabilities right policy := by
    simp only [chooseRoute, ready]
  rw [selectHardwareRoute, selectHardwareRoute, inventoryJson, inventoryJson, texts, chosen]

theorem jsonBool_append_ne (head left right : String) :
    head ++ (jsonBool true ++ left) ≠ head ++ (jsonBool false ++ right) := by
  intro same
  have chars := congrArg String.toList same
  simp only [String.toList_append] at chars
  have tails := append_cancel_left chars
  simp [jsonBool] at tails

/-- A route qualified under the override never equals the one qualified without:
either one is rejected, or the selection text shows the override. -/
theorem enforceQualification_override_ne (route : HardwareRoute) :
    enforceQualification host true route ≠ enforceQualification host false route := by
  intro same
  by_cases rejected : (route.selected && !(route.selected &&
      productionBackendDeviceQualified host route.backend route.deviceClass)) = true
  · have chosen := congrArg HardwareRoute.selected same
    simp only [enforceQualification, rejected, Bool.not_true, Bool.not_false, Bool.and_false,
      Bool.and_true, if_true] at chosen
    simp_all
  · have text := congrArg HardwareRoute.selectionJson same
    simp only [enforceQualification, rejected, Bool.not_true, Bool.not_false, Bool.and_false,
      Bool.and_true] at text
    exact jsonBool_append_ne _ _ _ text

theorem enforceQualification_inj :
    enforceQualification host left route = enforceQualification host right route ↔
      left = right := by
  constructor
  · intro same
    cases left <;> cases right
    · rfl
    · exact absurd same.symm (enforceQualification_override_ne route)
    · exact absurd same (enforceQualification_override_ne route)
    · rfl
  · rintro rfl
    rfl

namespace AIRuntime

variable {runtime : AIRuntime} {filledIn : World} {model : ModelSpec}

/-- What the cached parts were computed from. `filledIn` is the world in which
the cached route was selected and qualified; policy and inventory may stem from
older worlds with the same signals. -/
structure Coherent (host : Host) (runtime : AIRuntime) (filledIn : World) : Prop where
  policyValid : runtime.policyEnvironmentStateValid = true
  policy : ∃ world, runtime.policyEnvironmentState = captureHardwareRoutingPolicyEnvironment world ∧
    runtime.hardwarePolicy = hardwareRoutingPolicyFromEnvironment world
  generation : 0 < runtime.hardwareProbe.generation ∧ runtime.hardwareProbe.generation < 2 ^ 64
  inventory : runtime.hardwareInventoryValid = true →
    runtime.hardwareProbe.initialized = true ∧
    runtime.hardwareGenerationToken = runtime.hardwareProbe.generation ∧
    ∃ world, runtime.hardwareProbe.deviceSignalBits = signalBits world.pathExists signalPaths 0 0 ∧
      runtime.hardwareProbe.environment = signalNames.map world.environment ∧
      runtime.hardwareDevices = probe host world
  cached : ∀ route, runtime.routeCache = some route → runtime.hardwareInventoryValid = true ∧
    route = enforceQualification host (allowUnqualifiedBackendHardwareFromEnvironment filledIn)
      (selectHardwareRoute runtime.hardwareDevices host.capabilities runtime.routeModel
        runtime.hardwarePolicy)

/-- The captured policy variables are those of this world. -/
def policyCurrent (runtime : AIRuntime) (world : World) : Bool :=
  runtime.policyEnvironmentState == captureHardwareRoutingPolicyEnvironment world

/-- The signals of the last generation token are those of this world. -/
def signalsCurrent (runtime : AIRuntime) (world : World) : Bool :=
  runtime.hardwareProbe.deviceSignalBits == signalBits world.pathExists signalPaths 0 0 &&
    runtime.hardwareProbe.environment == signalNames.map world.environment

/-- Whether a call in this world is answered from the cache. -/
def serves (runtime : AIRuntime) (world : World) (model : ModelSpec) : Bool :=
  runtime.routeCache.isSome && runtime.policyCurrent world && runtime.signalsCurrent world &&
    sameModel runtime.routeModel model

theorem Coherent.refreshPolicy (coherent : Coherent host runtime filledIn) (world : World) :
    Coherent host (runtime.refreshPolicyFromEnvironment world) filledIn ∧
      (runtime.refreshPolicyFromEnvironment world).hardwarePolicy =
        hardwareRoutingPolicyFromEnvironment world := by
  unfold refreshPolicyFromEnvironment
  by_cases current : runtime.policyEnvironmentState =
      captureHardwareRoutingPolicyEnvironment world
  · obtain ⟨captured, state, policy⟩ := coherent.policy
    rw [if_pos (by simp [coherent.policyValid, current])]
    refine ⟨coherent, policy.trans ?_⟩
    exact hardwareRoutingPolicyFromEnvironment_congr (state.symm.trans current)
  · rw [if_neg (by simp [current])]
    exact ⟨⟨rfl, ⟨world, rfl, rfl⟩, coherent.generation, coherent.inventory,
      fun route stored => absurd stored.symm (Option.some_ne_none route)⟩, rfl⟩

theorem nextGeneration_spec (bound : generation < 2 ^ 64) :
    0 < nextGeneration generation ∧ nextGeneration generation < 2 ^ 64 ∧
      nextGeneration generation ≠ generation := by
  unfold nextGeneration
  dsimp only
  split <;> omega

/-- The signals a generation state has captured are those of this world. -/
structure Captures (state : GenerationState) (world : World) : Prop where
  initialized : state.initialized = true
  bits : state.deviceSignalBits = signalBits world.pathExists signalPaths 0 0
  environment : state.environment = signalNames.map world.environment

/-- The token captures the signals and changes whenever one of them did. -/
theorem generationToken_spec (world : World)
    (bounds : 0 < state.generation ∧ state.generation < 2 ^ 64) :
    Captures (generationToken state world).2 world ∧
      (generationToken state world).1 = (generationToken state world).2.generation ∧
      0 < (generationToken state world).1 ∧ (generationToken state world).1 < 2 ^ 64 ∧
      (Captures state world → (generationToken state world).2 = state) ∧
      (state.initialized = true → ¬ Captures state world →
        (generationToken state world).1 ≠ state.generation) := by
  obtain ⟨positive, less, different⟩ := nextGeneration_spec bounds.2
  by_cases captured : Captures state world
  · have unchanged : generationToken state world = (state.generation, state) := by
      simp [generationToken, captured.initialized, captured.bits, captured.environment]
    rw [unchanged]
    exact ⟨captured, rfl, bounds.1, bounds.2, fun _ => rfl, fun _ stale => absurd captured stale⟩
  · have changed : (!state.initialized ||
        signalBits world.pathExists signalPaths 0 0 != state.deviceSignalBits ||
        signalNames.map world.environment != state.environment) = true := by
      by_contra same
      simp only [Bool.or_eq_true, Bool.not_eq_eq_eq_not, Bool.not_true, bne_iff_ne, not_or,
        Bool.not_eq_false, Decidable.not_not] at same
      exact captured ⟨same.1.1, same.1.2.symm, same.2.symm⟩
    have token : generationToken state world =
        (if state.initialized then nextGeneration state.generation else state.generation,
          ⟨true, signalBits world.pathExists signalPaths 0 0, signalNames.map world.environment,
            if state.initialized then nextGeneration state.generation else state.generation⟩) := by
      simp only [generationToken, changed, if_true]
    rw [token]
    refine ⟨⟨rfl, rfl, rfl⟩, rfl, ?_, ?_, fun current => absurd current captured, ?_⟩
    · dsimp only
      split
      · exact positive
      · exact bounds.1
    · dsimp only
      split
      · exact less
      · exact bounds.2
    · intro initialized _
      simpa only [initialized, if_true] using different

/-- Either the signals are those of the last probe and nothing happens, or the
inventory is probed anew and the cached route dropped. -/
theorem refreshInventory_cases (coherent : Coherent host runtime filledIn) (world : World) :
    (runtime.hardwareInventoryValid = true ∧ Captures runtime.hardwareProbe world ∧
      runtime.refreshInventory host world = runtime) ∨
    (¬ (runtime.hardwareInventoryValid = true ∧ Captures runtime.hardwareProbe world) ∧
      ∃ state probes, Captures state world ∧ 0 < state.generation ∧ state.generation < 2 ^ 64 ∧
        runtime.refreshInventory host world =
          { runtime with
            hardwareProbe := state
            hardwareDevices := probe host world
            hardwareGenerationToken := state.generation
            hardwareInventoryValid := true
            routeCache := none
            hardwareProbeCount := probes }) := by
  obtain ⟨captures, generation, positive, less, unchanged, changed⟩ :=
    generationToken_spec world coherent.generation
  by_cases both : runtime.hardwareInventoryValid = true ∧ Captures runtime.hardwareProbe world
  · left
    obtain ⟨valid, current⟩ := both
    obtain ⟨_, token, _⟩ := coherent.inventory valid
    refine ⟨valid, current, ?_⟩
    have same := unchanged current
    have kept : (generationToken runtime.hardwareProbe world).1 =
        runtime.hardwareGenerationToken := by
      rw [generation, same, token]
    have nonzero : (runtime.hardwareGenerationToken == 0) = false := by
      simp only [beq_eq_false_iff_ne]
      omega
    simp only [refreshInventory]
    rw [if_neg (by simp [kept, valid, nonzero]), same]
  · right
    have fresh : ((generationToken runtime.hardwareProbe world).1 == 0 ||
        !runtime.hardwareInventoryValid ||
        (generationToken runtime.hardwareProbe world).1 != runtime.hardwareGenerationToken) = true := by
      cases valid : runtime.hardwareInventoryValid with
      | false => simp
      | true =>
        obtain ⟨initialized, token, _⟩ := coherent.inventory valid
        have moved := changed initialized fun current => both ⟨valid, current⟩
        rw [← token] at moved
        simp [moved]
    refine ⟨both, _, (runtime.hardwareProbeCount + 1) % 2 ^ 64, captures, generation ▸ positive,
      generation ▸ less, ?_⟩
    simp only [refreshInventory]
    rw [if_pos fresh, generation]

/-- After the inventory is refreshed the devices are those of this world. -/
theorem Coherent.refreshInventory (coherent : Coherent host runtime filledIn) (world : World) :
    Coherent host (runtime.refreshInventory host world) filledIn ∧
      (runtime.refreshInventory host world).hardwareInventoryValid = true ∧
      (runtime.refreshInventory host world).hardwareDevices = probe host world ∧
      (runtime.refreshInventory host world).hardwarePolicy = runtime.hardwarePolicy := by
  rcases refreshInventory_cases coherent world with
    ⟨valid, captures, same⟩ | ⟨_, state, probes, captures, positive, less, same⟩
  · rw [same]
    obtain ⟨_, _, probed, bits, environment, devices⟩ := coherent.inventory valid
    refine ⟨coherent, valid, devices.trans ?_, rfl⟩
    exact probe_congr (bits.symm.trans captures.bits) (environment.symm.trans captures.environment)
  · rw [same]
    refine ⟨⟨coherent.policyValid, coherent.policy, ⟨positive, less⟩, fun _ => ?_,
      fun route stored => absurd stored.symm (Option.some_ne_none route)⟩, rfl, rfl, rfl⟩
    exact ⟨captures.initialized, rfl, world, captures.bits, captures.environment, rfl⟩

/-- A cached route survives both refreshes exactly when policy and signals are
current, and the model it belongs to stays. -/
theorem routeCache_refreshed (coherent : Coherent host runtime filledIn) (world : World) :
    ((runtime.refreshPolicyFromEnvironment world).refreshInventory host world).routeCache =
        (if runtime.policyCurrent world && runtime.signalsCurrent world
          then runtime.routeCache else none) ∧
      ((runtime.refreshPolicyFromEnvironment world).refreshInventory host world).routeModel =
        runtime.routeModel := by
  by_cases current : runtime.policyCurrent world = true
  · have kept : runtime.refreshPolicyFromEnvironment world = runtime := by
      rw [refreshPolicyFromEnvironment, if_pos]
      simpa [coherent.policyValid, policyCurrent] using current
    rw [kept]
    rcases refreshInventory_cases coherent world with
      ⟨_, captures, same⟩ | ⟨stale, state, probes, _, _, _, same⟩
    · have signals : runtime.signalsCurrent world = true := by
        simp [signalsCurrent, captures.bits, captures.environment]
      rw [same, current, signals]
      exact ⟨rfl, rfl⟩
    · rw [same]
      refine ⟨?_, rfl⟩
      split
      · rename_i both
        cases cache : runtime.routeCache with
        | none => rfl
        | some route =>
          have valid := (coherent.cached route cache).1
          simp only [current, Bool.true_and, signalsCurrent, Bool.and_eq_true, beq_iff_eq] at both
          exact absurd ⟨valid, (coherent.inventory valid).1, both.1, both.2⟩ stale
      · rfl
  · have dropped : (runtime.refreshPolicyFromEnvironment world).routeCache = none ∧
        (runtime.refreshPolicyFromEnvironment world).routeModel = runtime.routeModel := by
      rw [refreshPolicyFromEnvironment, if_neg]
      · exact ⟨rfl, rfl⟩
      · simpa [coherent.policyValid, policyCurrent] using current
    have notCurrent : ¬ (runtime.policyCurrent world && runtime.signalsCurrent world) = true := by
      simp [current]
    rw [if_neg notCurrent]
    rcases refreshInventory_cases (coherent.refreshPolicy world).1 world with
      ⟨_, _, same⟩ | ⟨_, state, probes, _, _, _, same⟩
    · rwa [same]
    · rw [same]
      exact ⟨rfl, dropped.2⟩

/-- A call answers from the cache exactly when the keys match; otherwise it
computes the route from scratch. -/
theorem call_cases (coherent : Coherent host runtime filledIn) (world : World)
    (model : ModelSpec) :
    (runtime.serves world model = true ∧
      (runtime.call host world model).1.cacheHit = true ∧
      (runtime.call host world model).1.route =
        enforceQualification host (allowUnqualifiedBackendHardwareFromEnvironment filledIn)
          (selectHardwareRoute (probe host world) host.capabilities model
            (hardwareRoutingPolicyFromEnvironment world)) ∧
      Coherent host (runtime.call host world model).2 filledIn) ∨
    (runtime.serves world model = false ∧
      (runtime.call host world model).1.cacheHit = false ∧
      (runtime.call host world model).1.route = freshRoute host world model ∧
      Coherent host (runtime.call host world model).2 world) := by
  obtain ⟨refreshed, policy⟩ := coherent.refreshPolicy world
  obtain ⟨probed, valid, devices, samePolicy⟩ := refreshed.refreshInventory world
  obtain ⟨cache, routed⟩ := routeCache_refreshed coherent world
  rw [policy] at samePolicy
  have computed : ∀ filled : AIRuntime, Coherent host filled filledIn →
      filled.hardwareInventoryValid = true → filled.hardwareDevices = probe host world →
      filled.hardwarePolicy = hardwareRoutingPolicyFromEnvironment world →
      (filled.computeRoute host world model).1.cacheHit = false ∧
      (filled.computeRoute host world model).1.route = freshRoute host world model ∧
      Coherent host (filled.computeRoute host world model).2 world := by
    intro filled before valid devices policy
    refine ⟨rfl, ?_, before.policyValid, before.policy, before.generation, before.inventory, ?_⟩
    · simp only [computeRoute, devices, policy, freshRoute]
    · intro route stored
      cases stored
      exact ⟨valid, rfl⟩
  cases stored : ((runtime.refreshPolicyFromEnvironment world).refreshInventory host
      world).routeCache with
  | none =>
    have missed : runtime.serves world model = false := by
      rw [stored] at cache
      split at cache
      · simp [serves, ← cache]
      · rename_i stale
        simp only [serves, Bool.and_assoc]
        cases current : runtime.policyCurrent world <;> simp_all
    right
    rw [AIRuntime.call, routeForModel]
    simp only [stored]
    exact ⟨missed, computed _ probed valid devices samePolicy⟩
  | some route =>
    rw [stored] at cache
    split at cache
    · rename_i current
      by_cases same : sameModel runtime.routeModel model = true
      · left
        rw [AIRuntime.call, routeForModel]
        simp only [stored, routed, same, if_true]
        refine ⟨?_, trivial, ?_, probed⟩
        · simp [serves, ← cache, current, same]
        · rw [(probed.cached route stored).2, devices, samePolicy, routed]
          exact congrArg _ (selectHardwareRoute_congr same _ _ _)
      · right
        rw [AIRuntime.call, routeForModel]
        simp only [stored, routed, same]
        refine ⟨?_, computed _ probed valid devices samePolicy⟩
        simp [serves, same]
    · cases cache

end AIRuntime

/-- The bridge between calls: the runtime it retains, and the world in which the
cached route was computed. -/
structure Session where
  runtime : AIRuntime
  filledIn : World

namespace Session

variable {session : Session} {model : ModelSpec}

def opened (world : World) : Session := ⟨.construct world, world⟩

/-- One inference call; a miss fills the cache in the world of the call. -/
def call (host : Host) (session : Session) (world : World) (model : ModelSpec) : Session :=
  let (resolved, runtime) := session.runtime.call host world model
  ⟨runtime, if resolved.cacheHit then session.filledIn else world⟩

/-- The sessions that any sequence of calls in any worlds leads to. -/
def Reachable (host : Host) (session : Session) : Prop :=
  ∃ world, Reaches (fun session (input : World × ModelSpec) =>
    some (session.call host input.1 input.2)) (fun _ _ => True) (opened world) session

/-- The cached route that this call would be answered with was qualified under
the same override as now. -/
def OverrideCurrent (session : Session) (world : World) (model : ModelSpec) : Prop :=
  session.runtime.serves world model = true →
    allowUnqualifiedBackendHardwareFromEnvironment world =
      allowUnqualifiedBackendHardwareFromEnvironment session.filledIn

theorem Reachable.start (host : Host) (world : World) : Reachable host (opened world) :=
  ⟨world, .start⟩

theorem Reachable.call (reached : Reachable host session) (world : World) (model : ModelSpec) :
    Reachable host (session.call host world model) := by
  obtain ⟨opened, run⟩ := reached
  exact ⟨opened, @Reaches.next _ _ _ _ _ _ _ (world, model) run trivial rfl⟩

theorem Reachable.coherent (reached : Reachable host session) :
    AIRuntime.Coherent host session.runtime session.filledIn := by
  obtain ⟨world, run⟩ := reached
  refine run.invariant
    (motive := fun session => AIRuntime.Coherent host session.runtime session.filledIn) ?_ ?_
  · exact ⟨rfl, ⟨world, rfl, rfl⟩, ⟨Nat.one_pos, Nat.one_lt_two_pow (by decide)⟩,
      fun invalid => absurd invalid Bool.false_ne_true, fun route stored => absurd stored.symm (Option.some_ne_none route)⟩
  rintro earlier ⟨world, model⟩ later coherent _ taken
  cases taken
  rcases AIRuntime.call_cases coherent world model with
    ⟨_, hit, _, after⟩ | ⟨_, miss, _, after⟩
  · simpa only [Session.call, hit, if_true] using after
  · simpa [Session.call, miss] using after

/-- After any calls in any worlds: the route of the next call is the one computed
from scratch exactly when the override has not changed behind a cached route. -/
theorem route_eq_freshRoute_iff (host : Host) (session : Session)
    (reached : Reachable host session) (world : World) (model : ModelSpec) :
    (session.runtime.call host world model).1.route = freshRoute host world model ↔
      session.OverrideCurrent world model := by
  rcases AIRuntime.call_cases reached.coherent world model with
    ⟨served, _, route, _⟩ | ⟨missed, _, route, _⟩
  · rw [route, freshRoute, enforceProductionBackendQualification, enforceQualification_inj]
    constructor
    · intro same _
      exact same.symm
    · intro current
      exact (current served).symm
  · rw [route]
    simp [OverrideCurrent, missed]

/-- A host whose only backend is not qualified for production, and a model for it. -/
def openvinoHost : Host where
  capabilities := [{ kind := .openVINO, name := "openvino", available := true, supportsOnnx := true }]
  hostMemoryMb := 4096

def onnxModel : ModelSpec := { name := "m", format := .onnx }

/-- No device file, and only the override may be set. -/
def overrideWorld (value : Option String) : World where
  getenv name := if name = "SHORTHAND_ALLOW_UNQUALIFIED_BACKEND_HARDWARE" then value else none
  pathExists _ := false

theorem route_current_after_call :
    Reachable openvinoHost ((opened (overrideWorld none)).call openvinoHost (overrideWorld none)
        onnxModel) ∧
      (((opened (overrideWorld none)).call openvinoHost (overrideWorld none)
          onnxModel).runtime.call openvinoHost (overrideWorld none) onnxModel).1.route =
        freshRoute openvinoHost (overrideWorld none) onnxModel := by
  have reached := (Reachable.start openvinoHost (overrideWorld none)).call (overrideWorld none)
    onnxModel
  exact ⟨reached, (route_eq_freshRoute_iff openvinoHost _ reached (overrideWorld none)
    onnxModel).mpr fun _ => rfl⟩

/-- The override is set for one call and gone before the next: the second call
still executes on the unqualified backend. -/
theorem route_stale_after_override :
    ∃ session, Reachable openvinoHost session ∧
      (session.runtime.call openvinoHost (overrideWorld none) onnxModel).1.route.selected = true ∧
      (freshRoute openvinoHost (overrideWorld none) onnxModel).selected = false ∧
      (session.runtime.call openvinoHost (overrideWorld none) onnxModel).1.route ≠
        freshRoute openvinoHost (overrideWorld none) onnxModel := by
  have executes : (((opened (overrideWorld (some "1"))).call openvinoHost
      (overrideWorld (some "1")) onnxModel).runtime.call openvinoHost (overrideWorld none)
      onnxModel).1.route.selected = true := by
    decide
  have refused : (freshRoute openvinoHost (overrideWorld none) onnxModel).selected = false := by
    decide
  refine ⟨(opened (overrideWorld (some "1"))).call openvinoHost (overrideWorld (some "1")) onnxModel,
    (Reachable.start openvinoHost _).call _ _, executes, refused, ?_⟩
  intro same
  rw [same] at executes
  cases executes

end Session

end ShortHand.Routing
