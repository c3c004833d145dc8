import ShortHand.Routing.Cache

/-! Requests, results and registered backends (`AI_Types.h`, `AI_Backend.h`). A session is a
value of any type; the registry supplies how it is prepared and run. -/

namespace ShortHand.Inference

open ShortHand.Routing

inductive InferenceStatus where
  | success
  | notExecuted
  | backendUnavailable
  | invalidInput
  | runtimeError
  deriving DecidableEq, Repr

/-- Floats are bit patterns. -/
abbrev Float32Bits := UInt32

/-- A borrowed buffer is the floats behind the pointer, or `none` for null. -/
structure TensorBuffer where
  spec : TensorSpec := {}
  f32Data : List Float32Bits := []
  i8Data : List UInt8 := []
  externalF32Data : Option (List Float32Bits) := none
  externalF32Count : Nat := 0
  externalF32Bound : Bool := false

namespace TensorBuffer

def bindExternalF32 (buffer : TensorBuffer) (data : Option (List Float32Bits)) (count : Nat) :
    TensorBuffer :=
  { buffer with
    f32Data := [], externalF32Data := data, externalF32Count := count, externalF32Bound := true }

def hasF32 (buffer : TensorBuffer) : Bool := buffer.externalF32Bound || !buffer.f32Data.isEmpty

/-- Whether the float data is not a null pointer, for a buffer that has some. -/
def hasF32Data (buffer : TensorBuffer) : Bool :=
  if buffer.externalF32Bound then buffer.externalF32Data.isSome else true

def f32Size (buffer : TensorBuffer) : Nat :=
  if buffer.externalF32Bound then buffer.externalF32Count else buffer.f32Data.length

end TensorBuffer

structure InferenceResult where
  status : InferenceStatus := .notExecuted
  backend : BackendKind := .fallback
  backendName : String := "fallback"
  providerName : String := "none"
  reason : String := "backend_not_available"
  outputF32 : List Float32Bits := []
  evidenceJsonFragment : String := ""
  telemetryJsonFragment : String := ""
  hardwareInventoryJson : String := "\x7b\x7d"
  hardwareSelectionJson : String := "\x7b\x7d"
  selectedDeviceClass : String := "none"
  selectedDeviceId : String := "none"
  latencyNs : Int := 0
  inputElements : Nat := 0
  outputElements : Nat := 0
  deriving DecidableEq, Repr

/-- The product loop of `productOfShape`, in `size_t`. -/
def productFrom (product : Nat) : List Int → Nat
  | [] => product
  | dimension :: rest =>
    if dimension ≤ 0 then 0 else productFrom (product * dimension.toNat % 2 ^ 64) rest

def productOfShape (shape : List Int) : Nat :=
  if shape.isEmpty then 0 else productFrom 1 shape

def validateInputMatchesShape (input : TensorBuffer) : Bool :=
  let count := productOfShape input.spec.shape
  if count == 0 then false
  else if input.hasF32 then input.hasF32Data && input.f32Size == count
  else if !input.i8Data.isEmpty then input.i8Data.length == count
  else true

structure InferenceConfiguration where
  threads : Nat := 1
  maximumTensorElements : Nat := 16 * 1024 * 1024
  modelBytes : List UInt8 := []
  deriving DecidableEq, Repr

/-- A file as one reader sees it: the size it was opened with, and what is there
to read afterwards. -/
structure FileView where
  size : Int
  contents : List UInt8

/-- What one call can observe. -/
structure Surroundings where
  world : World
  file : String → Option FileView

/-- A registered backend. `runInto` is given the destination and returns what it
left there. -/
structure AIBackend (Session : Type) where
  kind : BackendKind
  capabilities : Surroundings → BackendCapabilities
  canLoad : Surroundings → ModelSpec → Bool
  infer : Surroundings → ModelSpec → TensorBuffer → InferenceResult
  prepare : ModelSpec → InferenceConfiguration → Except String Session
  run : Session → TensorBuffer → InferenceResult
  runInto : Session → TensorBuffer → List Float32Bits → InferenceResult × List Float32Bits

/-- The tests of `BackendRegistry::select` on one backend for one wanted kind. -/
def AIBackend.fits {Session : Type} (around : Surroundings) (model : ModelSpec)
    (want : BackendKind) (backend : AIBackend Session) : Bool :=
  backend.kind == want &&
    ((backend.capabilities around).available || want == .fallback) &&
    (backend.canLoad around model || want == .fallback) &&
    !(want == .fallback && !model.allowFallback && !model.backendPreference.contains .fallback)

/-- `BackendRegistry::select`. -/
def select {Session : Type} (registry : List (AIBackend Session)) (around : Surroundings)
    (model : ModelSpec) : Option (AIBackend Session) :=
  let preferred :=
    if model.backendPreference.isEmpty then [.onnxRuntimeCPU, .fallback]
    else model.backendPreference
  let wanted :=
    if model.allowFallback && !preferred.contains .fallback then preferred ++ [.fallback]
    else preferred
  wanted.findSome? fun want => registry.find? (AIBackend.fits around model want)

theorem select_single {want : BackendKind} {backend : AIBackend Session}
    (only : model.backendPreference = [want]) (strict : model.allowFallback = false)
    (found : select registry around model = some backend) :
    backend ∈ registry ∧ backend.kind = want := by
  have fits : registry.find? (AIBackend.fits around model want) = some backend := by
    simpa [select, only, strict] using found
  refine ⟨List.mem_of_find?_eq_some fits, ?_⟩
  have checked := List.find?_some fits
  simp only [AIBackend.fits, Bool.and_eq_true, beq_iff_eq] at checked
  exact checked.1.1.1

def attachHardwareEvidence (result : InferenceResult) (route : HardwareRoute) : InferenceResult :=
  let backendTelemetry :=
    if !result.telemetryJsonFragment.isEmpty && result.telemetryJsonFragment != "\x7b\x7d"
    then ",\"backend_telemetry\":" ++ result.telemetryJsonFragment else ""
  let executionEvidence :=
    if !result.evidenceJsonFragment.isEmpty
    then ",\"execution_evidence\":" ++ result.evidenceJsonFragment else ""
  { result with
    hardwareInventoryJson := route.inventoryJson
    hardwareSelectionJson := route.selectionJson
    selectedDeviceClass :=
      if route.selected then deviceClassToString route.deviceClass else "none"
    selectedDeviceId := if route.selected then route.deviceId else "none"
    telemetryJsonFragment :=
      "\x7b\"schema\":\"shorthand.ai_runtime.telemetry.v2\",\"hardware_inventory\":" ++
        route.inventoryJson ++ ",\"hardware_selection\":" ++ route.selectionJson ++
        backendTelemetry ++ executionEvidence ++ "\x7d" }

@[simp]
theorem attachHardwareEvidence_status (result : InferenceResult) (route : HardwareRoute) :
    (attachHardwareEvidence result route).status = result.status := rfl

/-- The result, and the destination as it is afterwards. -/
def writeRequestedOutput (result : InferenceResult) (output : Option (List Float32Bits)) :
    InferenceResult × Option (List Float32Bits) :=
  match output with
  | none => (result, none)
  | some destination =>
    if result.status != .success then (result, some destination)
    else if destination.isEmpty || result.outputF32.length != destination.length then
      ({ result with
          status := .runtimeError, reason := "runtime_output_size_mismatch"
          outputF32 := [], outputElements := 0 }, some destination)
    else
      ({ result with outputF32 := [], outputElements := destination.length },
        some result.outputF32)

def unavailableResult (reason : String) : InferenceResult :=
  { status := .backendUnavailable, backend := .fallback, backendName := "none"
    providerName := "none", reason }

/-- A host with one CPU backend, whose sessions are the bytes they were prepared
from. -/
def cpuHost : Host where
  capabilities :=
    [{ kind := .onnxRuntimeCPU, name := "onnxruntime_cpu", available := true
       supportsOnnx := true, supportedPrecisions := ["float32"] }]
  hostMemoryMb := 4096

def cpuBackend : AIBackend (List UInt8) where
  kind := .onnxRuntimeCPU
  capabilities _ := { kind := .onnxRuntimeCPU, available := true }
  canLoad _ _ := true
  infer _ _ _ := { status := .runtimeError }
  prepare _ configuration := .ok configuration.modelBytes
  run _ _ := { status := .success }
  runInto _ _ destination := ({ status := .success }, destination)

end ShortHand.Inference
