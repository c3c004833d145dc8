import Mathlib.Data.Nat.Bitwise
import ShortHand.Library.Transition
import ShortHand.Routing.Hardware

/-! The route cache of `AIRuntime` and the calls of the C bridge, which refresh the policy and
route. -/

namespace ShortHand.Routing

open ShortHand.Library

/-- `==` on two `double` bit patterns: a NaN equals nothing, the zeros are equal. -/
def doubleEq (left right : Nat) : Bool :=
  let magnitude (bits : Nat) := bits % 2 ^ 63
  let isNaN (bits : Nat) := decide (magnitude bits > 0x7ff0000000000000)
  !isNaN left && !isNaN right && (left == right || (magnitude left == 0 && magnitude right == 0))

def sameTensor (left right : TensorSpec) : Bool :=
  left.name == right.name && left.elementType == right.elementType && left.shape == right.shape &&
    left.dynamic == right.dynamic && left.elementCount == right.elementCount

def sameModel (left right : ModelSpec) : Bool :=
  left.name == right.name && left.path == right.path && left.format == right.format &&
    left.task == right.task && left.precision == right.precision &&
    sameTensor left.input right.input && sameTensor left.output right.output &&
    left.backendPreference == right.backendPreference && left.compact == right.compact &&
    left.allowFallback == right.allowFallback && left.qualityMetric == right.qualityMetric &&
    left.qualityOp == right.qualityOp && doubleEq left.qualityThreshold right.qualityThreshold

def signalPaths : List String :=
  ["/dev/nvidia0", "/dev/nvidiactl", "/dev/kfd", "/dev/dri/renderD128", "/dev/accel0",
    "/dev/accel/accel0", "/dev/apex_0"]

def signalNames : List String :=
  ["NVIDIA_VISIBLE_DEVICES", "CUDA_VISIBLE_DEVICES", "SHORTHAND_GPU_DETECTED",
    "SHORTHAND_GPU_ACCESSIBLE", "TPU_NAME", "COLAB_TPU_ADDR", "XRT_TPU_CONFIG",
    "SHORTHAND_TPU_DETECTED", "SHORTHAND_TPU_ACCESSIBLE", "SHORTHAND_NPU_DETECTED",
    "SHORTHAND_NPU_ACCESSIBLE"]

def hardwareRoutingPolicyEnvironmentNames : List String :=
  ["SHORTHAND_DEVICE_PREFERENCE", "SHORTHAND_DEVICE_OVERRIDE", "SHORTHAND_DEVICE_DENY",
    "SHORTHAND_ALLOW_CPU_FALLBACK", "SHORTHAND_MIN_DEVICE_MEMORY_MB"]

structure GenerationState where
  initialized : Bool := false
  deviceSignalBits : Nat := 0
  environment : List String := List.replicate 11 ""
  generation : Nat := 1

/-- One bit for each device file that exists. -/
def signalBits (present : String → Bool) (paths : List String) (first : Nat) (bits : Nat) : Nat :=
  match paths with
  | [] => bits
  | path :: rest =>
    signalBits present rest (first + 1) (if present path then bits ||| 1 <<< first else bits)

/-- `++generation`, in 64 bits and skipping zero. -/
def nextGeneration (generation : Nat) : Nat :=
  let next := (generation + 1) % 2 ^ 64
  if next = 0 then 1 else next

/-- `SystemHardwareProbe::generationToken`. -/
def generationToken (state : GenerationState) (world : World) : Nat × GenerationState :=
  let bits := signalBits world.pathExists signalPaths 0 0
  let environment := signalNames.map world.environment
  if !state.initialized || bits != state.deviceSignalBits || environment != state.environment then
    let generation :=
      if state.initialized then nextGeneration state.generation else state.generation
    (generation, ⟨true, bits, environment, generation⟩)
  else (state.generation, state)

structure AIRuntime where
  hardwareProbe : GenerationState := {}
  hardwarePolicy : HardwareRoutingPolicy
  policyEnvironmentState : List String := List.replicate 5 ""
  policyEnvironmentStateValid : Bool := false
  hardwareGenerationToken : Nat := 0
  hardwareDevices : List HardwareDeviceCapability := []
  hardwareInventoryValid : Bool := false
  routeModel : ModelSpec := {}
  routeCache : Option HardwareRoute := none
  hardwareProbeCount : Nat := 0

structure ResolvedRoute where
  route : HardwareRoute
  cacheHit : Bool
  hardwareProbes : Nat

def captureHardwareRoutingPolicyEnvironment (world : World) : List String :=
  hardwareRoutingPolicyEnvironmentNames.map world.environment

namespace AIRuntime

/-- The default constructor. -/
def construct (world : World) : AIRuntime :=
  { hardwarePolicy := hardwareRoutingPolicyFromEnvironment world
    policyEnvironmentState := captureHardwareRoutingPolicyEnvironment world
    policyEnvironmentStateValid := true }

def refreshPolicyFromEnvironment (runtime : AIRuntime) (world : World) : AIRuntime :=
  if runtime.policyEnvironmentStateValid &&
      runtime.policyEnvironmentState == captureHardwareRoutingPolicyEnvironment world
  then runtime
  else
    { runtime with
      hardwarePolicy := hardwareRoutingPolicyFromEnvironment world
      policyEnvironmentState := captureHardwareRoutingPolicyEnvironment world
      policyEnvironmentStateValid := true
      routeCache := none }

/-- The first half of `routeForModel`: probe again unless the token is the one
of the last probe. -/
def refreshInventory (host : Host) (runtime : AIRuntime) (world : World) : AIRuntime :=
  let (generation, state) := generationToken runtime.hardwareProbe world
  if generation == 0 || !runtime.hardwareInventoryValid ||
      generation != runtime.hardwareGenerationToken then
    { runtime with
      hardwareProbe := state
      hardwareDevices := probe host world
      hardwareGenerationToken := generation
      hardwareInventoryValid := true
      routeCache := none
      hardwareProbeCount := (runtime.hardwareProbeCount + 1) % 2 ^ 64 }
  else { runtime with hardwareProbe := state }

/-- A miss: select and qualify anew, and remember the model. -/
def computeRoute (host : Host) (runtime : AIRuntime) (world : World) (model : ModelSpec) :
    ResolvedRoute × AIRuntime :=
  let route := enforceProductionBackendQualification host world
    (selectHardwareRoute runtime.hardwareDevices host.capabilities model runtime.hardwarePolicy)
  (⟨route, false, runtime.hardwareProbeCount⟩,
    { runtime with routeCache := some route, routeModel := model })

def routeForModel (host : Host) (runtime : AIRuntime) (world : World) (model : ModelSpec) :
    ResolvedRoute × AIRuntime :=
  let runtime := runtime.refreshInventory host world
  match runtime.routeCache with
  | some route =>
    if sameModel runtime.routeModel model then
      (⟨route, true, runtime.hardwareProbeCount⟩, runtime)
    else runtime.computeRoute host world model
  | none => runtime.computeRoute host world model

/-- A call through the C bridge. -/
def call (host : Host) (runtime : AIRuntime) (world : World) (model : ModelSpec) :
    ResolvedRoute × AIRuntime :=
  (runtime.refreshPolicyFromEnvironment world).routeForModel host world model

end AIRuntime

end ShortHand.Routing
