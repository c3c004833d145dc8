import Mathlib.Algebra.Order.Ring.Nat

/-! Hardware discovery, the routing policy and the qualification of a route. A `World` is what a
call observes of its process: the environment and the device files. -/

namespace ShortHand.Routing

inductive DeviceClass where
  | cpu
  | gpu
  | tpu
  | npu
  | unknown
  deriving DecidableEq, Repr

inductive BackendKind where
  | tensorRT
  | onnxRuntimeTensorRT
  | onnxRuntimeCUDA
  | onnxRuntimeCPU
  | openVINO
  | libTorch
  | llamaCpp
  | fallback
  deriving DecidableEq, Repr

inductive ModelFormat where
  | onnx
  | tensorRTEngine
  | torchScript
  | openVINOIR
  | gguf
  | unknown
  deriving DecidableEq, Repr

inductive ElementType where
  | float32
  | float16
  | bfloat16
  | int8
  | int4
  | int32
  | unknown
  deriving DecidableEq, Repr

structure TensorSpec where
  name : String := ""
  elementType : ElementType := .unknown
  shape : List Int := []
  dynamic : Bool := false
  elementCount : Nat := 0
  deriving DecidableEq, Repr

/-- The quality threshold is the bit pattern of a `double`. -/
structure ModelSpec where
  name : String := ""
  path : String := ""
  format : ModelFormat := .unknown
  task : String := ""
  precision : String := ""
  input : TensorSpec := {}
  output : TensorSpec := {}
  backendPreference : List BackendKind := []
  compact : Bool := false
  allowFallback : Bool := true
  qualityMetric : String := ""
  qualityOp : String := ""
  qualityThreshold : Nat := 0
  deriving DecidableEq, Repr

structure BackendCapabilities where
  kind : BackendKind := .fallback
  name : String := ""
  available : Bool := false
  supportsOnnx : Bool := false
  supportsEngine : Bool := false
  supportsTorchscript : Bool := false
  supportsOpenvinoIr : Bool := false
  supportsGguf : Bool := false
  supportedPrecisions : List String := []
  deriving DecidableEq, Repr

structure HardwareDeviceCapability where
  deviceClass : DeviceClass
  deviceId : String
  provider : String
  detected : Bool
  accessible : Bool
  memoryMb : Nat
  reason : String
  deriving DecidableEq, Repr

structure HardwareRoutingPolicy where
  preference : List DeviceClass := [.gpu, .npu, .tpu, .cpu]
  overrideDevice : Option DeviceClass := none
  denyList : List DeviceClass := []
  allowCpuFallback : Bool := true
  minimumMemoryMb : Nat := 0
  deriving DecidableEq, Repr

structure HardwareRoute where
  selected : Bool := false
  deviceClass : DeviceClass := .unknown
  deviceId : String := "none"
  backend : BackendKind := .fallback
  backendName : String := "none"
  reason : String := "no_execution_ready_hardware_backend"
  inventoryJson : String := "\x7b\x7d"
  selectionJson : String := "\x7b\x7d"
  deriving DecidableEq, Repr

/-- What does not change during the process: the registered backends, the memory
of the host and the platform the binary was compiled for. -/
structure Host where
  capabilities : List BackendCapabilities
  hostMemoryMb : Nat
  linuxX64 : Bool := true
  appleSilicon : Bool := false

structure World where
  getenv : String → Option String
  pathExists : String → Bool

def normalize (value : String) : String :=
  String.ofList (value.toList.map fun c => if c == '-' then '_' else c.toLower)

def jsonEscape (value : String) : String :=
  String.ofList (value.toList.flatMap fun c =>
    if c == '"' || c == '\\' then ['\\', c] else if c == '\n' then ['\\', 'n'] else [c])

def jsonBool (value : Bool) : String := if value then "true" else "false"

def deviceClassToString : DeviceClass → String
  | .cpu => "cpu"
  | .gpu => "gpu"
  | .tpu => "tpu"
  | .npu => "npu"
  | .unknown => "unknown"

def parseDeviceClass (value : String) : DeviceClass :=
  let normalized := normalize value
  if normalized == "cpu" then .cpu
  else if normalized == "gpu" then .gpu
  else if normalized == "tpu" then .tpu
  else if normalized == "npu" then .npu
  else .unknown

def backendKindToString : BackendKind → String
  | .tensorRT => "tensorrt"
  | .onnxRuntimeTensorRT => "onnxruntime_tensorrt"
  | .onnxRuntimeCUDA => "onnxruntime_cuda"
  | .onnxRuntimeCPU => "onnxruntime_cpu"
  | .openVINO => "openvino"
  | .libTorch => "libtorch"
  | .llamaCpp => "llamacpp"
  | .fallback => "fallback"

namespace World

def environment (world : World) (name : String) : String := (world.getenv name).getD ""

def environmentTrue (world : World) (name : String) : Bool :=
  let value := normalize (world.environment name)
  !value.isEmpty && value != "0" && value != "false" && value != "no" && value != "off"

def environmentHasDeviceValue (world : World) (name : String) : Bool :=
  let value := normalize (world.environment name)
  !value.isEmpty && value != "-1" && value != "none" && value != "void" && value != "false"

end World

/-- `SystemHardwareProbe::probe`. -/
def probe (host : Host) (world : World) : List HardwareDeviceCapability :=
  let nvidiaNode := world.pathExists "/dev/nvidia0" || world.pathExists "/dev/nvidiactl"
  let amdNode := world.pathExists "/dev/kfd"
  let renderNode := world.pathExists "/dev/dri/renderD128"
  let gpuEnvironment := world.environmentHasDeviceValue "NVIDIA_VISIBLE_DEVICES" ||
    world.environmentHasDeviceValue "CUDA_VISIBLE_DEVICES" ||
    world.environmentTrue "SHORTHAND_GPU_DETECTED"
  let gpuDetected := nvidiaNode || amdNode || renderNode || gpuEnvironment
  let gpuAccessible := nvidiaNode || amdNode || renderNode ||
    world.environmentTrue "SHORTHAND_GPU_ACCESSIBLE"
  let gpuProvider :=
    if nvidiaNode || world.environmentHasDeviceValue "NVIDIA_VISIBLE_DEVICES" then "nvidia"
    else if amdNode then "amd" else if renderNode then "drm" else "unknown"
  let gpuReason :=
    if gpuAccessible then "accelerator_device_accessible_backend_probe_required"
    else if gpuDetected then "accelerator_signal_detected_but_not_accessible"
    else "no_gpu_signal_detected"
  let tpuNode := world.pathExists "/dev/accel0"
  let tpuEnvironment := world.environmentHasDeviceValue "TPU_NAME" ||
    world.environmentHasDeviceValue "COLAB_TPU_ADDR" ||
    world.environmentHasDeviceValue "XRT_TPU_CONFIG" ||
    world.environmentTrue "SHORTHAND_TPU_DETECTED"
  let tpuDetected := tpuNode || tpuEnvironment
  let tpuAccessible := tpuNode || world.environmentTrue "SHORTHAND_TPU_ACCESSIBLE"
  let npuNode := world.pathExists "/dev/accel/accel0" || world.pathExists "/dev/apex_0"
  let npuDetected := npuNode || world.environmentTrue "SHORTHAND_NPU_DETECTED" ||
    host.appleSilicon
  let npuAccessible := npuNode || world.environmentTrue "SHORTHAND_NPU_ACCESSIBLE"
  let npuProvider :=
    if host.appleSilicon && !npuAccessible then "apple"
    else if npuNode then "system_accelerator" else "unknown"
  [⟨.cpu, "cpu:0", "host", true, true, host.hostMemoryMb, "host_cpu_available"⟩,
    ⟨.gpu, "gpu:0", gpuProvider, gpuDetected, gpuAccessible, 0, gpuReason⟩,
    ⟨.tpu, "tpu:0", "google", tpuDetected, tpuAccessible, 0,
      if tpuAccessible then "tpu_accessible_backend_probe_required"
      else if tpuDetected then "tpu_signal_detected_but_not_accessible"
      else "no_tpu_signal_detected"⟩,
    ⟨.npu, "npu:0", npuProvider, npuDetected, npuAccessible, 0,
      if npuAccessible then "npu_accessible_backend_probe_required"
      else if npuDetected then "npu_detected_but_backend_access_not_confirmed"
      else "no_npu_signal_detected"⟩]

/-- The lines that `std::getline` reads with `,` as delimiter, after the reversed
start of a line: no line follows a final delimiter. -/
def commaTokens (token : List Char) : List Char → List (List Char)
  | [] => if token.isEmpty then [] else [token.reverse]
  | c :: rest =>
    if c == ',' then token.reverse :: commaTokens [] rest else commaTokens (c :: token) rest

def parseDeviceList (value : String) : List DeviceClass :=
  ((commaTokens [] value.toList).map fun token => parseDeviceClass (String.ofList token)).filter
    (· != .unknown)

/-- `strtoull` in base ten on a whole string; `none` unless a number was read up
to the end. Out of range reads as the largest value, and a minus sign negates
in 64 bits. -/
def strtoull (value : List Char) : Option Nat :=
  let body := value.dropWhile fun c => c == ' ' || ('\t' ≤ c && c ≤ '\r')
  let (negative, digits) :=
    match body with
    | '-' :: rest => (true, rest)
    | '+' :: rest => (false, rest)
    | _ => (false, body)
  if digits.isEmpty || !digits.all Char.isDigit then none
  else
    let number := digits.foldl (fun total c => total * 10 + (c.toNat - 48)) 0
    if number ≥ 2 ^ 64 then some (2 ^ 64 - 1)
    else if negative then some ((2 ^ 64 - number) % 2 ^ 64) else some number

def hardwareRoutingPolicyFromEnvironment (world : World) : HardwareRoutingPolicy :=
  let defaults : HardwareRoutingPolicy := {}
  let preference := world.environment "SHORTHAND_DEVICE_PREFERENCE"
  let overrideDevice := parseDeviceClass (world.environment "SHORTHAND_DEVICE_OVERRIDE")
  let minimumMemory := world.environment "SHORTHAND_MIN_DEVICE_MEMORY_MB"
  { preference := if preference.isEmpty then defaults.preference else parseDeviceList preference
    overrideDevice := if overrideDevice == .unknown then none else some overrideDevice
    denyList := parseDeviceList (world.environment "SHORTHAND_DEVICE_DENY")
    allowCpuFallback :=
      if (world.environment "SHORTHAND_ALLOW_CPU_FALLBACK").isEmpty
      then defaults.allowCpuFallback else world.environmentTrue "SHORTHAND_ALLOW_CPU_FALLBACK"
    minimumMemoryMb :=
      if minimumMemory.isEmpty then defaults.minimumMemoryMb
      else (strtoull minimumMemory.toList).getD defaults.minimumMemoryMb }

def backendSupportsFormat (capability : BackendCapabilities) : ModelFormat → Bool
  | .onnx => capability.supportsOnnx
  | .tensorRTEngine => capability.supportsEngine
  | .torchScript => capability.supportsTorchscript
  | .openVINOIR => capability.supportsOpenvinoIr
  | .gguf => capability.supportsGguf
  | .unknown => false

def precisionSupported (capability : BackendCapabilities) (precision : String) : Bool :=
  precision.isEmpty || capability.supportedPrecisions.isEmpty ||
    capability.supportedPrecisions.any fun candidate => normalize candidate == normalize precision

def modelAllowsBackend (model : ModelSpec) (backend : BackendKind) : Bool :=
  model.backendPreference.isEmpty || model.backendPreference.contains backend

def backendSupportsDevice (backend : BackendKind) (device : DeviceClass) : Bool :=
  match backend with
  | .tensorRT | .onnxRuntimeTensorRT | .onnxRuntimeCUDA => device == .gpu
  | .onnxRuntimeCPU => device == .cpu
  | .openVINO => device == .cpu || device == .gpu || device == .npu
  | .libTorch | .llamaCpp => device == .cpu || device == .gpu
  | .fallback => false

def policyAllowsDevice (policy : HardwareRoutingPolicy) (device : HardwareDeviceCapability) :
    Bool :=
  !policy.denyList.contains device.deviceClass &&
    !(policy.minimumMemoryMb > 0 && device.memoryMb < policy.minimumMemoryMb)

/-- The tests that `backendCompatible` and `executionReadyBackend` share. -/
def backendFits (device : HardwareDeviceCapability) (model : ModelSpec)
    (capability : BackendCapabilities) : Bool :=
  capability.kind != .fallback && modelAllowsBackend model capability.kind &&
    backendSupportsDevice capability.kind device.deviceClass &&
    backendSupportsFormat capability model.format && precisionSupported capability model.precision

def backendCompatible (device : HardwareDeviceCapability)
    (capabilities : List BackendCapabilities) (model : ModelSpec) : Bool :=
  capabilities.any (backendFits device model)

def executionReadyBackend (device : HardwareDeviceCapability)
    (capabilities : List BackendCapabilities) (model : ModelSpec)
    (policy : HardwareRoutingPolicy) : Option BackendCapabilities :=
  if !device.detected || !device.accessible || !policyAllowsDevice policy device then none
  else capabilities.find? fun capability => capability.available && backendFits device model capability

def routingOrder (policy : HardwareRoutingPolicy) : List DeviceClass :=
  let order : List DeviceClass :=
    match policy.overrideDevice with
    | some device =>
      if policy.allowCpuFallback && device != .cpu then [device, .cpu] else [device]
    | none =>
      if policy.allowCpuFallback && !policy.preference.contains .cpu
      then policy.preference ++ [.cpu] else policy.preference
  let allowed := if policy.allowCpuFallback then order else order.filter (· != .cpu)
  allowed.foldl
    (fun unique device => if unique.contains device then unique else unique ++ [device]) []

def deviceText (device : HardwareDeviceCapability) (compatible executionReady : Bool) : String :=
  "\x7b\"class\":\"" ++ deviceClassToString device.deviceClass ++
    "\",\"id\":\"" ++ jsonEscape device.deviceId ++
    "\",\"provider\":\"" ++ jsonEscape device.provider ++
    "\",\"detected\":" ++ jsonBool device.detected ++
    ",\"accessible\":" ++ jsonBool device.accessible ++
    ",\"backend_compatible\":" ++ jsonBool compatible ++
    ",\"execution_ready\":" ++ jsonBool executionReady ++
    ",\"memory_mb\":" ++ toString device.memoryMb ++
    ",\"reason\":\"" ++ jsonEscape device.reason ++ "\"\x7d"

def deviceJson (capabilities : List BackendCapabilities) (model : ModelSpec)
    (policy : HardwareRoutingPolicy) (device : HardwareDeviceCapability) : String :=
  deviceText device (backendCompatible device capabilities model)
    (executionReadyBackend device capabilities model policy).isSome

def inventoryText (devices : List String) : String :=
  "\x7b\"schema\":\"shorthand.hardware.inventory.v1\",\"devices\":[" ++
    String.intercalate "," devices ++ "]\x7d"

def inventoryJson (devices : List HardwareDeviceCapability)
    (capabilities : List BackendCapabilities) (model : ModelSpec)
    (policy : HardwareRoutingPolicy) : String :=
  inventoryText (devices.map (deviceJson capabilities model policy))

/-- The route before its JSON texts: the first wanted class with a device that
some backend can execute on. -/
def chooseRoute (devices : List HardwareDeviceCapability)
    (capabilities : List BackendCapabilities) (model : ModelSpec)
    (policy : HardwareRoutingPolicy) : HardwareRoute :=
  let ready := (routingOrder policy).findSome? fun wanted =>
    devices.findSome? fun device =>
      if device.deviceClass != wanted then none
      else (executionReadyBackend device capabilities model policy).map fun backend =>
        (device, backend)
  match ready with
  | none => {}
  | some (device, backend) =>
    { selected := true
      deviceClass := device.deviceClass
      deviceId :=
        if device.deviceId.isEmpty then deviceClassToString device.deviceClass ++ ":0"
        else device.deviceId
      backend := backend.kind
      backendName :=
        if backend.name.isEmpty then backendKindToString backend.kind else backend.name
      reason := "selected_execution_ready_backend" }

def selectionText (route : HardwareRoute) (policy : HardwareRoutingPolicy) : String :=
  "\x7b\"schema\":\"shorthand.hardware.selection.v1\",\"selected\":" ++
    jsonBool route.selected ++
    ",\"device_class\":\"" ++
      (if route.selected then deviceClassToString route.deviceClass else "none") ++
    "\",\"device_id\":\"" ++ jsonEscape route.deviceId ++
    "\",\"backend\":\"" ++ jsonEscape route.backendName ++
    "\",\"reason\":\"" ++ jsonEscape route.reason ++
    "\",\"allow_cpu_fallback\":" ++ jsonBool policy.allowCpuFallback ++
    ",\"minimum_memory_mb\":" ++ toString policy.minimumMemoryMb ++ "\x7d"

def selectHardwareRoute (devices : List HardwareDeviceCapability)
    (capabilities : List BackendCapabilities) (model : ModelSpec)
    (policy : HardwareRoutingPolicy) : HardwareRoute :=
  let route := chooseRoute devices capabilities model policy
  { route with
    inventoryJson := inventoryJson devices capabilities model policy
    selectionJson := selectionText route policy }

def productionBackendDeviceQualified (host : Host) (backend : BackendKind)
    (device : DeviceClass) : Bool :=
  host.linuxX64 && backend == .onnxRuntimeCPU && device == .cpu

def allowUnqualifiedBackendHardwareFromEnvironment (world : World) : Bool :=
  match world.getenv "SHORTHAND_ALLOW_UNQUALIFIED_BACKEND_HARDWARE" with
  | none => false
  | some raw =>
    let value := String.ofList (raw.toList.map Char.toLower)
    value == "1" || value == "true" || value == "yes" || value == "on"

/-- The selection text up to the value of `experimental_override`. -/
def qualificationHead (host : Host) (route : HardwareRoute) (qualified : Bool) : String :=
  "\x7b\"schema\":\"shorthand.hardware.selection.v1\"" ++
    ",\"qualification_schema\":\"shorthand.backend_hardware_qualification.v1\"" ++
    ",\"platform_qualified\":" ++ jsonBool host.linuxX64 ++
    ",\"selected\":" ++ jsonBool route.selected ++
    ",\"device_class\":\"" ++
      (if route.selected then deviceClassToString route.deviceClass else "none") ++
    "\",\"device_id\":\"" ++ jsonEscape route.deviceId ++
    "\",\"backend\":\"" ++ jsonEscape route.backendName ++
    "\",\"production_qualified\":" ++ jsonBool qualified ++ ",\"experimental_override\":"

def rejectedText (original : HardwareRoute) (qualified : Bool) : String :=
  if !qualified && original.backendName != "none" then
    ",\"rejected_device_class\":\"" ++
        jsonEscape (if original.selected then deviceClassToString original.deviceClass else "none") ++
      "\",\"rejected_device_id\":\"" ++ jsonEscape original.deviceId ++
      "\",\"rejected_backend\":\"" ++ jsonEscape original.backendName ++ "\""
  else ""

def qualificationTail (route original : HardwareRoute) (qualified : Bool) : String :=
  ",\"reason\":\"" ++ jsonEscape route.reason ++ "\"" ++ rejectedText original qualified ++ "\x7d"

/-- `enforceProductionBackendQualification`, with the override read by the caller. -/
def enforceQualification (host : Host) (experimentalOverride : Bool) (original : HardwareRoute) :
    HardwareRoute :=
  let qualified := original.selected &&
    productionBackendDeviceQualified host original.backend original.deviceClass
  let route :=
    if original.selected && !qualified && !experimentalOverride then
      { original with
        selected := false
        deviceClass := .unknown
        deviceId := "none"
        backend := .fallback
        backendName := "none"
        reason := "backend_device_not_production_qualified" }
    else original
  { route with
    selectionJson := qualificationHead host route qualified ++
      (jsonBool experimentalOverride ++ qualificationTail route original qualified) }

def enforceProductionBackendQualification (host : Host) (world : World) (route : HardwareRoute) :
    HardwareRoute :=
  enforceQualification host (allowUnqualifiedBackendHardwareFromEnvironment world) route

/-- The route from scratch: probe, read the policy, select and qualify. -/
def freshRoute (host : Host) (world : World) (model : ModelSpec) : HardwareRoute :=
  enforceProductionBackendQualification host world
    (selectHardwareRoute (probe host world) host.capabilities model
      (hardwareRoutingPolicyFromEnvironment world))

end ShortHand.Routing
