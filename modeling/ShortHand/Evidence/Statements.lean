import ShortHand.Evidence.Artifacts
import ShortHand.Inference.Backend
import ShortHand.Language.Analyzer

/-! The statements that evidence is about, with the analyzer's checks of each. Every number in
them is read from an integer literal. -/

namespace ShortHand.Evidence

open ShortHand.Routing ShortHand.Inference

structure ModelDeclarationData where
  name : Bytes := []
  format : Bytes := []
  path : Bytes := []
  task : Bytes := []
  precision : Bytes := []
  inputShape : Bytes := []
  outputShape : Bytes := []
  backendPreference : List Bytes := []
  compact : Bool := false
  hasQualityGuardrail : Bool := false
  deriving DecidableEq

structure TensorDeclarationData where
  name : Bytes := []
  elementType : Bytes := []
  shapeCsv : Bytes := []
  dynamic : Bool := false
  rank : Int := 0
  totalElements : Int := 0
  deriving DecidableEq

structure GreenAIContractData where
  name : Bytes := []
  functionalUnit : Bytes := []
  successCriteria : Bytes := []
  measurementQuality : Bytes := []
  dataQuality : Bytes := []
  claimsMode : Bytes := []
  carbonFactor : Int := 0
  energyBudgetJ : Int := 0
  carbonBudgetGco2e : Int := 0
  hasFunctionalUnit : Bool := false
  hasSuccessCriteria : Bool := false
  hasBoundary : Bool := false
  hasMq : Bool := false
  hasDq : Bool := false
  hasCarbonFactor : Bool := false
  hasQualityGuardrail : Bool := false
  deriving DecidableEq

structure GreenAIMeasurementData where
  workload : Bytes := []
  backend : Bytes := []
  inferences : Int := 0
  watts : Int := 0
  seconds : Int := 0
  deriving DecidableEq

inductive C3EcoDeclarationKind where
  | certificationProfile
  | certification
  | functionalUnit
  | workload
  | boundary
  | measurementPlan
  | aiLifecycle
  | ragPipeline
  | tokenBudget
  | modelRouting
  | guardrails
  deriving DecidableEq

inductive C3EcoValueKind where
  | string
  | identifier
  | integer
  | decimal
  | boolean
  deriving DecidableEq

structure C3EcoValueData where
  kind : C3EcoValueKind
  text : Bytes
  deriving DecidableEq

structure C3EcoFieldData where
  name : Bytes
  values : List C3EcoValueData
  deriving DecidableEq

structure C3EcoDeclarationData where
  kind : C3EcoDeclarationKind
  name : Bytes
  fields : List C3EcoFieldData
  deriving DecidableEq

/-- An AI statement as the parser builds it. -/
inductive AiStatement where
  | model (data : ModelDeclarationData)
  | tensor (data : TensorDeclarationData)
  | contract (data : GreenAIContractData)
  | measurement (data : GreenAIMeasurementData)
  | c3eco (data : C3EcoDeclarationData)
  | infer (modelName inputName outputName : Bytes)
  /-- The builtin `ai_infer("path", "shape", "input")`. -/
  | aiInfer (modelPath shapeCsv inputCsv : Bytes)
  deriving DecidableEq

def c3EcoDeclarationKindName : C3EcoDeclarationKind → String
  | .certificationProfile => "certification_profile"
  | .certification => "certification"
  | .functionalUnit => "functional_unit"
  | .workload => "workload"
  | .boundary => "boundary"
  | .measurementPlan => "measurement_plan"
  | .aiLifecycle => "ai_lifecycle"
  | .ragPipeline => "rag_pipeline"
  | .tokenBudget => "token_budget"
  | .modelRouting => "model_routing"
  | .guardrails => "guardrails"

def c3EcoValueKindName : C3EcoValueKind → String
  | .string => "string"
  | .identifier => "identifier"
  | .integer => "integer"
  | .decimal => "decimal"
  | .boolean => "boolean"

def norm (text : Bytes) : Bytes :=
  (lowerCase text).map fun byte => if byte = 45 then 95 else byte

def trim (text : Bytes) : Bytes :=
  ((text.dropWhile isSpace).reverse.dropWhile isSpace).reverse

/-- `strtoll` in base ten on a whole C string; `none` unless a number in range was
read up to the end. -/
def strtoll (text : Bytes) : Option Int :=
  let body := (text.takeWhile (· ≠ 0)).dropWhile fun byte => byte = 32 || (9 ≤ byte && byte ≤ 13)
  let (negative, digits) :=
    match body with
    | 45 :: rest => (true, rest)
    | 43 :: rest => (false, rest)
    | _ => (false, body)
  if digits.isEmpty || !digits.all isDigit then none
  else
    let magnitude : Int := digits.foldl (fun value byte => value * 10 + (byte.val - 48)) 0
    let value := if negative then -magnitude else magnitude
    if -2 ^ 63 ≤ value && value < 2 ^ 63 then some value else none

def parseElementType (value : Bytes) : ElementType :=
  let text := norm value
  if text ∈ ["float", "float32", "f32"].map ascii then .float32
  else if text ∈ ["float16", "fp16", "f16"].map ascii then .float16
  else if text ∈ ["bfloat16", "bf16"].map ascii then .bfloat16
  else if text = ascii "int8" then .int8
  else if text = ascii "int4" then .int4
  else if text ∈ ["int32", "int"].map ascii then .int32
  else .unknown

def parseModelFormat (value : Bytes) : ModelFormat :=
  let text := norm value
  if text = ascii "onnx" then .onnx
  else if text ∈ ["engine", "tensorrt", "tensorrt_engine"].map ascii then .tensorRTEngine
  else if text ∈ ["torchscript", "torch"].map ascii then .torchScript
  else if text ∈ ["openvino_ir", "openvino"].map ascii then .openVINOIR
  else if text = ascii "gguf" then .gguf
  else .unknown

def parseBackendKind (value : Bytes) : BackendKind :=
  let text := norm value
  if text = ascii "tensorrt" then .tensorRT
  else if text = ascii "onnxruntime_tensorrt" then .onnxRuntimeTensorRT
  else if text = ascii "onnxruntime_cuda" then .onnxRuntimeCUDA
  else if text ∈ ["onnxruntime", "onnxruntime_cpu"].map ascii then .onnxRuntimeCPU
  else if text = ascii "openvino" then .openVINO
  else if text = ascii "libtorch" then .libTorch
  else if text ∈ ["llamacpp", "llama_cpp", "llama.cpp"].map ascii then .llamaCpp
  else .fallback

/-- The dimensions, or none at all when one of them is not a number. -/
def parseShapeCsv (csv : Bytes) : List Int :=
  if norm (trim csv) = ascii "dynamic" then []
  else ((getlines 44 csv).mapM fun token => strtoll (trim token)).getD []

def validateShape (shape : List Int) : Bool := !shape.isEmpty && productOfShape shape > 0

def validShape (text : Bytes) : Bool :=
  text = ascii "dynamic" || validateShape (parseShapeCsv text)

def shapeCompatible (modelShape tensorShape : Bytes) : Bool :=
  modelShape.isEmpty || tensorShape.isEmpty || modelShape = ascii "dynamic" ||
    tensorShape = ascii "dynamic" || parseShapeCsv modelShape = parseShapeCsv tensorShape

def backendCompatibleWithFormat (format : ModelFormat) (backend : BackendKind) : Bool :=
  backend = .fallback ||
    match format with
    | .onnx => backend = .onnxRuntimeCPU || backend = .onnxRuntimeCUDA ||
        backend = .onnxRuntimeTensorRT || backend = .tensorRT
    | .tensorRTEngine => backend = .tensorRT || backend = .onnxRuntimeTensorRT
    | .torchScript => backend = .libTorch
    | .openVINOIR => backend = .openVINO
    | .gguf => backend = .llamaCpp
    | .unknown => false

/-- An error rejects the program; a warning does not. -/
inductive Severity where
  | error
  | warning
  deriving DecidableEq

structure AiDiagnostic where
  severity : Severity := .error
  code : String
  message : Bytes
  deriving DecidableEq

def reject (condition : Bool) (code : String) (message : Bytes) : List AiDiagnostic :=
  if condition then [{ code, message }] else []

def warn (condition : Bool) (code : String) (message : Bytes) : List AiDiagnostic :=
  if condition then [{ severity := .warning, code, message }] else []

/-- What the analyzer remembers of the statements it has visited; a later entry
of a name replaces an earlier one. -/
structure AiTables where
  models : List ModelDeclarationData := []
  tensors : List TensorDeclarationData := []
  contracts : List Bytes := []
  c3ecoDeclarations : List Bytes := []

namespace AiTables

def model (tables : AiTables) (name : Bytes) : Option ModelDeclarationData :=
  tables.models.find? (·.name = name)

def tensor (tables : AiTables) (name : Bytes) : Option TensorDeclarationData :=
  tables.tensors.find? (·.name = name)

end AiTables

def modelDiagnostics (tables : AiTables) (data : ModelDeclarationData) : List AiDiagnostic :=
  let named := ascii "model " ++ data.name
  let format := parseModelFormat data.format
  let kinds := data.backendPreference.map parseBackendKind
  reject (tables.model data.name).isSome "SHD4001" (ascii "model redeclared: " ++ data.name) ++
    reject (data.format.isEmpty || format = .unknown) "SHD4002"
      (named ++ ascii " missing or invalid format") ++
    reject (parseElementType data.precision = .unknown) "SHD4003"
      (named ++ ascii " has invalid precision") ++
    reject (data.inputShape.isEmpty || !validShape data.inputShape) "SHD4004"
      (named ++ ascii " has invalid input_shape") ++
    reject (!data.outputShape.isEmpty && !validShape data.outputShape) "SHD4005"
      (named ++ ascii " has invalid output_shape") ++
    reject (!data.hasQualityGuardrail) "SHD4006" (named ++ ascii " requires quality_guardrail") ++
    data.backendPreference.flatMap (fun backend =>
      warn (!backendCompatibleWithFormat format (parseBackendKind backend)) "SHD4007"
        (named ++ ascii " backend_preference " ++ backend ++
          ascii " is not compatible with format " ++ data.format)) ++
    warn data.backendPreference.isEmpty "SHD4008"
      (named ++ ascii " has no backend_preference; fallback will be used if allowed") ++
    reject (!kinds.isEmpty && !kinds.any (backendCompatibleWithFormat format)) "SHD4009"
      (named ++ ascii " has no compatible backend_preference for format " ++ data.format)

def tensorDiagnostics (tables : AiTables) (data : TensorDeclarationData) : List AiDiagnostic :=
  reject (tables.tensor data.name).isSome "SHD4010" (ascii "tensor redeclared: " ++ data.name) ++
    reject (!validShape data.shapeCsv) "SHD4011" (ascii "invalid tensor shape for " ++ data.name)

def contractDiagnostics (data : GreenAIContractData) : List AiDiagnostic :=
  let named := ascii "greenai_contract " ++ data.name
  reject (!data.hasFunctionalUnit) "SHD5001" (named ++ ascii " missing functional_unit") ++
    reject (!data.hasSuccessCriteria) "SHD5002" (named ++ ascii " missing success_criteria") ++
    reject (!data.hasBoundary) "SHD5003" (named ++ ascii " missing boundary") ++
    reject (!data.hasMq || !data.hasDq) "SHD5004" (named ++ ascii " requires MQ/DQ") ++
    reject (!data.hasCarbonFactor || data.carbonFactor ≤ 0) "SHD5005"
      (named ++ ascii " requires positive carbon_factor") ++
    reject (!data.hasQualityGuardrail) "SHD5006" (named ++ ascii " requires quality_guardrail") ++
    reject (data.claimsMode ≠ ascii "evidence_only") "SHD5007"
      (ascii "claims_mode must be evidence_only") ++
    reject (data.energyBudgetJ < 0 || data.carbonBudgetGco2e < 0) "SHD5008"
      (ascii "budgets must be non-negative")

def measurementDiagnostics (tables : AiTables) (data : GreenAIMeasurementData) :
    List AiDiagnostic :=
  reject (!tables.contracts.isEmpty && !tables.contracts.contains data.workload) "SHD5009"
      (ascii "greenai_measure references unknown contract: " ++ data.workload) ++
    warn (!tables.models.isEmpty && (tables.model data.backend).isNone) "SHD5010"
      (ascii "greenai_measure backend " ++ data.backend ++
        ascii " is not a declared model; treating as external measurement source")

/-- The fields a declaration must have, in the order of a `std::set`. -/
def c3EcoRequiredFields : C3EcoDeclarationKind → List String
  | .certificationProfile =>
    ["ai_lifecycle", "boundary", "certification", "functional_unit", "guardrails",
      "profile_version", "valid_from", "valid_until", "workload"]
  | .certification =>
    ["deployment_mode", "geography", "owner", "software_class", "validity_period", "version"]
  | .functionalUnit => ["denominator", "quality_threshold", "success_condition"]
  | .workload =>
    ["batch_size", "cache_state", "concurrency", "measured_runs", "traffic_profile",
      "warmup_runs"]
  | .boundary => ["include"]
  | .measurementPlan => ["carbon_factor", "instrument", "retention", "sampling", "uncertainty"]
  | .aiLifecycle =>
    ["evaluation_included", "fine_tuning_included", "lifecycle_scope", "model_provider", "role",
      "training_included"]
  | .ragPipeline => ["cache_policy", "embedding_model", "retrieval_top_k", "vector_db"]
  | .tokenBudget => ["cache_hit_rate_min_percent", "input_tokens_p95", "output_tokens_p95"]
  | .modelRouting => ["fallback", "route"]
  | .guardrails =>
    ["accessibility", "accuracy", "error_rate_percent", "functional_tests", "p95_latency_ms",
      "privacy_telemetry", "security_scan"]

def c3EcoOptionalFields : C3EcoDeclarationKind → List String
  | .certification => ["release_date", "cloud_region"]
  | .functionalUnit => ["unit", "quality_metric", "latency_slo_ms", "error_rate_slo_percent"]
  | .boundary =>
    ["exclude", "evidence", "exclusion_reason", "exclusion_materiality_percent",
      "materiality_threshold_percent", "opaque_provider_treatment"]
  | _ => []

def c3EcoAllowedFields (kind : C3EcoDeclarationKind) : List String :=
  c3EcoRequiredFields kind ++ c3EcoOptionalFields kind

def c3EcoUnsafeFields : List String :=
  ["official_certification_granted", "certified_level", "certificate_id", "certified"]

def c3EcoHasField (data : C3EcoDeclarationData) (name : String) : Bool :=
  data.fields.any (·.name = ascii name)

/-- All values of the fields of a name, separated by blanks. -/
def c3EcoFieldText (data : C3EcoDeclarationData) (name : String) : Bytes :=
  ((data.fields.filter (·.name = ascii name)).flatMap (·.values)).foldl
    (fun text value => if text.isEmpty then value.text else text ++ ascii " " ++ value.text) []

/-- `std::string::find` succeeds. -/
def mentions (text : Bytes) (word : String) : Bool :=
  text.tails.any fun rest => (ascii word).isPrefixOf rest

def c3ecoKey (data : C3EcoDeclarationData) : Bytes :=
  ascii (c3EcoDeclarationKindName data.kind ++ ":") ++ data.name

def fieldDiagnostics (kind : C3EcoDeclarationKind) (field : C3EcoFieldData) : List AiDiagnostic :=
  if field.name ∈ c3EcoUnsafeFields.map ascii then
    [{ code := "SHD5104"
       message := ascii "C3-ECO declaration must not self-assert certification field `" ++
        field.name ++ ascii "`" }]
  else
    reject (field.name ∉ (c3EcoAllowedFields kind).map ascii) "SHD5103"
      (ascii "invalid field `" ++ field.name ++
        ascii ("` for C3-ECO " ++ c3EcoDeclarationKindName kind ++ " declaration"))

def c3ecoDiagnostics (tables : AiTables) (data : C3EcoDeclarationData) : List AiDiagnostic :=
  let evidence := c3EcoFieldText data "evidence"
  let carbon := c3EcoFieldText data "carbon_factor"
  reject (tables.c3ecoDeclarations.contains (c3ecoKey data)) "SHD5101"
      (ascii "duplicate C3-ECO declaration: " ++ c3ecoKey data) ++
    data.fields.flatMap (fieldDiagnostics data.kind) ++
    (c3EcoRequiredFields data.kind).flatMap (fun field =>
      reject (!c3EcoHasField data field) "SHD5102"
        (ascii ("C3-ECO " ++ c3EcoDeclarationKindName data.kind ++ " declaration `") ++ data.name ++
          ascii ("` missing required field `" ++ field ++ "`"))) ++
    reject (data.kind = .measurementPlan && c3EcoHasField data "carbon_factor" &&
        (!mentions carbon "source" || !mentions carbon "unit")) "SHD5103"
      (ascii "measurement_plan carbon_factor must name both source and unit") ++
    reject (data.kind = .boundary && c3EcoHasField data "exclude" &&
        !c3EcoHasField data "exclusion_reason" &&
        (!mentions evidence "component" || !mentions evidence "reason" ||
          !mentions evidence "materiality")) "SHD5103"
      (ascii "boundary exclusions require evidence naming component, reason and materiality")

def inferDiagnostics (tables : AiTables) (modelName inputName outputName : Bytes) :
    List AiDiagnostic :=
  reject (tables.model modelName).isNone "SHD4012"
      (ascii "infer references unknown model: " ++ modelName) ++
    reject (!tables.tensors.isEmpty && (tables.tensor inputName).isNone) "SHD4013"
      (ascii "infer references unknown input tensor: " ++ inputName) ++
    match tables.model modelName, tables.tensor inputName with
    | some model, some input =>
      reject (!shapeCompatible model.inputShape input.shapeCsv) "SHD4014"
          (ascii "infer input tensor shape " ++ input.shapeCsv ++ ascii " does not match model " ++
            model.name ++ ascii " input_shape " ++ model.inputShape) ++
        match tables.tensor outputName with
        | some output =>
          reject (!model.outputShape.isEmpty && !shapeCompatible model.outputShape output.shapeCsv)
            "SHD4015" (ascii "infer output tensor shape " ++ output.shapeCsv ++
              ascii " does not match model " ++ model.name ++ ascii " output_shape " ++
              model.outputShape)
        | none =>
          warn true "SHD4016" (ascii "infer output " ++ outputName ++
            ascii " is implicit; declare a tensor to enable output_shape validation")
    | _, _ => []

/-- The visit of one statement. -/
def visitAi (tables : AiTables) : AiStatement → AiTables × List AiDiagnostic
  | .model data => ({ tables with models := data :: tables.models }, modelDiagnostics tables data)
  | .tensor data =>
    ({ tables with tensors := data :: tables.tensors }, tensorDiagnostics tables data)
  | .contract data =>
    ({ tables with contracts := data.name :: tables.contracts }, contractDiagnostics data)
  | .measurement data => (tables, measurementDiagnostics tables data)
  | .c3eco data =>
    ({ tables with c3ecoDeclarations := c3ecoKey data :: tables.c3ecoDeclarations },
      c3ecoDiagnostics tables data)
  | .infer modelName inputName outputName =>
    (tables, inferDiagnostics tables modelName inputName outputName)
  | .aiInfer .. => (tables, [])

/-- The visits of a list of statements, in order. -/
def visitAiStatements (tables : AiTables) : List AiStatement → List AiDiagnostic
  | [] => []
  | statement :: rest =>
    let visited := visitAi tables statement
    visited.2 ++ visitAiStatements visited.1 rest

/-- No visit reports an error. -/
def AiAccepted (statements : List AiStatement) : Prop :=
  ∀ diagnostic ∈ visitAiStatements {} statements, diagnostic.severity ≠ .error

instance (statements : List AiStatement) : Decidable (AiAccepted statements) :=
  inferInstanceAs (Decidable (∀ _ ∈ _, _))

end ShortHand.Evidence
