import ShortHand.Evidence.Statements

/-! The candidate report (`EvidenceEmitter.cpp`). The visitor descends into blocks only, so
nothing inside a function, a branch or a loop is collected. -/

namespace ShortHand.Evidence

open ShortHand.Library ShortHand.Language List AiStatement

/-- What the report is given: the path of the source, and how a stream prints a
`double` that holds an integer. -/
structure EmitterHost where
  source : Bytes
  doubleText : Int → Bytes

/-- The vectors of the emitter. -/
structure Collection where
  models : List ModelDeclarationData := []
  tensors : List TensorDeclarationData := []
  contracts : List GreenAIContractData := []
  measures : List GreenAIMeasurementData := []
  c3ecoDeclarations : List C3EcoDeclarationData := []
  inferCalls : List (Bytes × Bytes × Bytes) := []
  deriving DecidableEq

def Collection.push (collection : Collection) : AiStatement → Collection
  | .model data => { collection with models := collection.models ++ [data] }
  | .tensor data => { collection with tensors := collection.tensors ++ [data] }
  | .contract data => { collection with contracts := collection.contracts ++ [data] }
  | .measurement data => { collection with measures := collection.measures ++ [data] }
  | .c3eco data => { collection with c3ecoDeclarations := collection.c3ecoDeclarations ++ [data] }
  | .infer modelName inputName outputName =>
    { collection with inferCalls := collection.inferCalls ++ [(modelName, inputName, outputName)] }
  | .aiInfer .. => collection

section Traversal

variable {H : Host} (view : H.AiStatement → AiStatement)

mutual

/-- The visit of a statement. -/
def collectStmt (collection : Collection) : Stmt H → Collection
  | .block statements => collectStmts collection statements
  | .ai statement => collection.push (view statement)
  | _ => collection

def collectStmts (collection : Collection) : List (Stmt H) → Collection
  | [] => collection
  | statement :: rest => collectStmts (collectStmt collection statement) rest

end

/-- `EvidenceEmitter::collect`: the functions of the program are not visited. -/
def collectProgram (program : Program H) : Collection := collectStmts view {} program.code

mutual

/-- The AI statements anywhere in a statement, in source order. -/
def aiStatements : Stmt H → List AiStatement
  | .block statements | .ifThen _ statements | .forLoop _ _ _ _ statements
  | .whileLoop _ statements => aiStatementsOf statements
  | .ifElse _ ifBlock elseBlock => aiStatementsOf ifBlock ++ aiStatementsOf elseBlock
  | .ai statement => [view statement]
  | _ => []

def aiStatementsOf : List (Stmt H) → List AiStatement
  | [] => []
  | statement :: rest => aiStatements statement ++ aiStatementsOf rest

end

/-- The AI statements of a program: its functions come before its code. -/
def programStatements (program : Program H) : List AiStatement :=
  program.functions.flatMap (fun function => aiStatementsOf view function.body) ++
    aiStatementsOf view program.code

mutual

/-- Those that lie inside a branch or a loop. -/
def guardedStatements : Stmt H → List AiStatement
  | .block statements => guardedStatementsOf statements
  | .ifThen _ statements | .forLoop _ _ _ _ statements | .whileLoop _ statements =>
    aiStatementsOf view statements
  | .ifElse _ ifBlock elseBlock => aiStatementsOf view ifBlock ++ aiStatementsOf view elseBlock
  | _ => []

def guardedStatementsOf : List (Stmt H) → List AiStatement
  | [] => []
  | statement :: rest => guardedStatements statement ++ guardedStatementsOf rest

end

/-- Those inside a function, a branch or a loop. -/
def nestedStatements (program : Program H) : List AiStatement :=
  program.functions.flatMap (fun function => aiStatementsOf view function.body) ++
    guardedStatementsOf view program.code

end Traversal

def escapeChar (byte : Byte) : Bytes :=
  if byte = 34 || byte = 92 then [92, byte] else if byte = 10 then [92, 110] else [byte]

def esc (text : Bytes) : Bytes := text.flatMap escapeChar

def quotedEsc (text : Bytes) : Bytes := [34] ++ esc text ++ [34]

def boolText (value : Bool) : Bytes := if value then ascii "true" else ascii "false"

def intText (value : Int) : Bytes := ascii (toString value)

/-- Entries separated by commas. -/
def separated (entries : List Bytes) : Bytes := [44].intercalate entries

def typedC3EcoValue (value : C3EcoValueData) : Bytes :=
  if value.kind = .integer || value.kind = .decimal || value.kind = .boolean then value.text
  else quotedEsc value.text

def c3ecoEntry (data : C3EcoDeclarationData) : Bytes :=
  ascii "\x7b\"kind\":" ++ quotedEsc (ascii (c3EcoDeclarationKindName data.kind)) ++
    ascii ",\"name\":" ++ quotedEsc data.name ++ ascii ",\"fields\":\x7b" ++
    separated (data.fields.map fun field =>
      quotedEsc field.name ++ ascii ":[" ++
        separated (field.values.map fun value => quotedEsc value.text) ++ ascii "]") ++
    ascii "\x7d,\"typed_fields\":\x7b" ++
    separated (data.fields.map fun field =>
      quotedEsc field.name ++ ascii ":[" ++
        separated (field.values.map fun value =>
          ascii ("\x7b\"type\":\"" ++ c3EcoValueKindName value.kind ++ "\",\"value\":") ++
            typedC3EcoValue value ++ ascii "\x7d") ++ ascii "]") ++
    ascii "\x7d\x7d"

def modelEntry (data : ModelDeclarationData) : Bytes :=
  ascii "\x7b\"name\":" ++ quotedEsc data.name ++ ascii ",\"format\":" ++ quotedEsc data.format ++
    ascii ",\"precision\":" ++ quotedEsc data.precision ++
    ascii ",\"input_shape\":" ++ quotedEsc data.inputShape ++
    ascii ",\"output_shape\":" ++ quotedEsc data.outputShape ++
    ascii ",\"backend_preference\":[" ++ separated (data.backendPreference.map quotedEsc) ++
    ascii "]\x7d"

def tensorEntry (data : TensorDeclarationData) : Bytes :=
  ascii "\x7b\"name\":" ++ quotedEsc data.name ++
    ascii ",\"element_type\":" ++ quotedEsc data.elementType ++
    ascii ",\"shape\":" ++ quotedEsc data.shapeCsv ++ ascii ",\"rank\":" ++ intText data.rank ++
    ascii ",\"total_elements\":" ++ intText data.totalElements ++ ascii "\x7d"

def inferEntry (call : Bytes × Bytes × Bytes) : Bytes :=
  ascii "\x7b\"model\":" ++ quotedEsc call.1 ++ ascii ",\"input\":" ++ quotedEsc call.2.1 ++
    ascii ",\"output\":" ++ quotedEsc call.2.2 ++ ascii "\x7d"

variable (host : EmitterHost)

def measurementEntry (data : GreenAIMeasurementData) : Bytes :=
  ascii "\x7b\"workload\":" ++ quotedEsc data.workload ++
    ascii ",\"backend\":" ++ quotedEsc data.backend ++
    ascii ",\"inferences\":" ++ intText data.inferences ++
    ascii ",\"watts\":" ++ host.doubleText data.watts ++
    ascii ",\"seconds\":" ++ host.doubleText data.seconds ++ ascii "\x7d"

namespace Collection

variable (collection : Collection)

def firstContract : GreenAIContractData :=
  collection.contracts.head?.getD {}

def hasMinimumC3EcoEvidence : Bool :=
  let contract := collection.firstContract
  !collection.contracts.isEmpty && !collection.models.isEmpty && !collection.tensors.isEmpty &&
    !collection.inferCalls.isEmpty && contract.hasFunctionalUnit && contract.hasSuccessCriteria &&
    contract.hasBoundary && contract.hasMq && contract.hasDq && contract.hasCarbonFactor &&
    contract.hasQualityGuardrail && contract.claimsMode = ascii "evidence_only"

def hasC3EcoProfileV2 : Bool :=
  collection.c3ecoDeclarations.any (·.kind = .certificationProfile)

def migrationRequired : Bool :=
  !collection.hasC3EcoProfileV2 && !collection.c3ecoDeclarations.isEmpty

def profileStatus : String :=
  if collection.hasC3EcoProfileV2 then "conformant"
  else if collection.migrationRequired then "legacy_migration_review_required"
  else "not_declared"

def blockers : List Bytes :=
  ((if collection.contracts.isEmpty then ["missing_greenai_contract"] else []) ++
    (if collection.models.isEmpty then ["missing_model_declaration"] else []) ++
    (if collection.tensors.isEmpty then ["missing_tensor_declaration"] else []) ++
    (if collection.inferCalls.isEmpty then ["missing_infer_statement"] else []) ++
    (if collection.hasC3EcoProfileV2 then [] else ["typed_c3eco_profile_not_declared"]) ++
    ["real_backend_execution_not_yet_verified", "external_certifier_not_signed"]).map ascii

end Collection

/-- One line `  "name": value,` of the report. -/
def reportLine (name : String) (value : Bytes) : Bytes :=
  ascii ("  \"" ++ name ++ "\": ") ++ value ++ ascii ",\n"

def reportArray (name : String) (entries : List Bytes) : Bytes :=
  reportLine name ([91] ++ separated entries ++ [93])

/-- The texts that `EvidenceEmitter::writeCandidateReport` writes one after the
other. -/
def reportPieces (collection : Collection) : List Bytes :=
  let contract := collection.firstContract
  [ascii "\x7b\n",
    reportLine "schema" (quotedEsc (ascii "shorthand.c3eco.candidate_report.v1")),
    reportLine "report_status" (quotedEsc (ascii "candidate_assessment_only")),
    reportLine "source_file" (quotedEsc host.source),
    reportLine "compiler_version" (quotedEsc (ascii "shorthand-greenai-core")),
    reportLine "minimum_c3eco_evidence_present" (boolText collection.hasMinimumC3EcoEvidence),
    reportLine "official_certification_granted" (ascii "false"),
    reportLine "c3eco_language_contract" (quotedEsc (ascii "shorthand.c3eco.language.v1")),
    reportLine "c3eco_profile_contract" (quotedEsc (ascii "shorthand.c3eco.profile.v2")),
    reportLine "c3eco_profile_status" (quotedEsc (ascii collection.profileStatus)),
    reportLine "c3eco_profile_migration_required" (boolText collection.migrationRequired),
    reportArray "c3eco_declarations" (collection.c3ecoDeclarations.map c3ecoEntry),
    reportLine "workload" (quotedEsc contract.name),
    reportLine "functional_unit" (quotedEsc contract.functionalUnit),
    reportLine "success_criteria" (quotedEsc contract.successCriteria),
    reportLine "measurement_quality" (quotedEsc contract.measurementQuality),
    reportLine "data_quality" (quotedEsc contract.dataQuality),
    reportLine "carbon_factor_gco2e_per_kwh" (host.doubleText contract.carbonFactor),
    reportLine "energy_budget_j" (host.doubleText contract.energyBudgetJ),
    reportLine "carbon_budget_gco2e" (host.doubleText contract.carbonBudgetGco2e),
    reportLine "measurement_status" (quotedEsc (ascii "declared_budget_only")),
    reportLine "runtime_backend" (quotedEsc (ascii "fallback")),
    reportLine "inference_status" (quotedEsc (ascii "not_executed")),
    reportLine "reason" (quotedEsc (ascii "backend_not_available_or_not_configured")),
    reportLine "offsets_gco2e" (ascii "0"),
    reportLine "avoided_impact_gco2e" (ascii "0"),
    reportLine "base_footprint_not_reduced_by_offsets" (ascii "true"),
    reportArray "models" (collection.models.map modelEntry),
    reportArray "tensors" (collection.tensors.map tensorEntry),
    reportArray "infer_calls" (collection.inferCalls.map inferEntry),
    reportArray "measurements" (collection.measures.map (measurementEntry host)),
    reportArray "blocked_certification_items" (collection.blockers.map quotedEsc),
    reportLine "claim_safe_text" (quotedEsc (ascii ("Candidate evidence report only. This output " ++
      "does not grant C3-ECO certification and must not be marketed as certified without " ++
      "external review."))),
    reportLine "assumptions" (ascii ("[\"missing telemetry is reported as unavailable or " ++
      "declared_budget_only, never fabricated\"]")),
    reportLine "warnings" (ascii ("[\"optional SDKs absent use deterministic fallback\"," ++
      "\"offsets and avoided impact do not reduce the base footprint\"]")),
    ascii ("  \"disclaimer\": \"Evidence report only; this tool does not grant " ++
      "certification.\"\n\x7d\n")]

variable {H : Host} (view : H.AiStatement → AiStatement)

/-- `EvidenceEmitter::writeCandidateReport`. -/
def writeCandidateReport (program : Program H) : Bytes :=
  (reportPieces host (collectProgram view program)).flatten

/-- The kinds of statement that evidence is collected from. -/
inductive StatementKind where
  | model
  | tensor
  | contract
  | measurement
  | c3eco
  | infer
  deriving DecidableEq

def AiStatement.kind : AiStatement → Option StatementKind
  | .model _ => some .model
  | .tensor _ => some .tensor
  | .contract _ => some .contract
  | .measurement _ => some .measurement
  | .c3eco _ => some .c3eco
  | .infer .. => some .infer
  | .aiInfer .. => none

/-- The statements listed in the array of a kind. -/
def Collection.listed (collection : Collection) : StatementKind → List AiStatement
  | .model => collection.models.map .model
  | .tensor => collection.tensors.map .tensor
  | .contract => []
  | .measurement => collection.measures.map .measurement
  | .c3eco => collection.c3ecoDeclarations.map .c3eco
  | .infer => collection.inferCalls.map fun call => .infer call.1 call.2.1 call.2.2

/-- Every array holds the statements of its kind, in source order. -/
def EvidenceComplete (program : Program H) : Prop :=
  ∀ kind, (collectProgram view program).listed kind =
    (programStatements view program).filter (·.kind = some kind)

mutual

/-- The statements outside every branch and loop. -/
def openStatements : Stmt H → List AiStatement
  | .block statements => openStatementsOf statements
  | .ai statement => [view statement]
  | _ => []

def openStatementsOf : List (Stmt H) → List AiStatement
  | [] => []
  | statement :: rest => openStatements statement ++ openStatementsOf rest

end

mutual

theorem openStatements_sublist (statement : Stmt H) :
    (openStatements view statement).Sublist (aiStatements view statement) := by
  cases statement with
  | block statements => exact openStatementsOf_sublist statements
  | ai statement => exact .refl _
  | _ => exact nil_sublist _

theorem openStatementsOf_sublist (statements : List (Stmt H)) :
    (openStatementsOf view statements).Sublist (aiStatementsOf view statements) := by
  cases statements with
  | nil => exact .refl _
  | cons statement rest =>
    exact (openStatements_sublist statement).append (openStatementsOf_sublist rest)

end

mutual

/-- A statement is open or guarded. -/
theorem aiStatements_perm (statement : Stmt H) :
    (aiStatements view statement).Perm
      (openStatements view statement ++ guardedStatements view statement) := by
  cases statement with
  | block statements => exact aiStatementsOf_perm statements
  | _ => exact .refl _

theorem aiStatementsOf_perm (statements : List (Stmt H)) :
    (aiStatementsOf view statements).Perm
      (openStatementsOf view statements ++ guardedStatementsOf view statements) := by
  cases statements with
  | nil => exact .refl _
  | cons statement rest =>
    have both := (aiStatements_perm statement).append (aiStatementsOf_perm rest)
    rw [append_assoc] at both
    refine both.trans ?_
    rw [openStatementsOf, guardedStatementsOf, append_assoc]
    refine List.Perm.append_left _ ?_
    rw [← append_assoc, ← append_assoc]
    exact List.Perm.append_right _ perm_append_comm

end

/-- Whether the report has a place for the statement in the array of this kind. -/
def AiStatement.listedIn (kind : StatementKind) (statement : AiStatement) : Bool :=
  kind ≠ .contract ∧ statement.kind = some kind

theorem Collection.listed_push (collection : Collection) (statement : AiStatement)
    (kind : StatementKind) :
    (collection.push statement).listed kind =
      collection.listed kind ++ [statement].filter (listedIn kind) := by
  cases statement <;> cases kind <;>
    simp [Collection.push, Collection.listed, listedIn, kind]

mutual

theorem collectStmt_listed (collection : Collection) (kind : StatementKind)
    (statement : Stmt H) :
    (collectStmt view collection statement).listed kind = collection.listed kind ++
      (openStatements view statement).filter (listedIn kind) := by
  cases statement with
  | block statements => exact collectStmts_listed collection kind statements
  | ai statement => exact collection.listed_push (view statement) kind
  | _ => exact (append_nil _).symm

theorem collectStmts_listed (collection : Collection) (kind : StatementKind)
    (statements : List (Stmt H)) :
    (collectStmts view collection statements).listed kind = collection.listed kind ++
      (openStatementsOf view statements).filter (listedIn kind) := by
  cases statements with
  | nil => exact (append_nil _).symm
  | cons statement rest =>
    rw [collectStmts, collectStmts_listed _ kind rest, collectStmt_listed collection kind statement,
      openStatementsOf, filter_append, append_assoc]

end

theorem collectProgram_listed (program : Program H) (kind : StatementKind) :
    (collectProgram view program).listed kind =
      (openStatementsOf view program.code).filter (listedIn kind) := by
  have collected := collectStmts_listed view {} kind program.code
  have empty : ({} : Collection).listed kind = [] := by cases kind <;> rfl
  rwa [empty] at collected

theorem openStatementsOf_programStatements (program : Program H) :
    (openStatementsOf view program.code).Sublist (programStatements view program) :=
  (openStatementsOf_sublist view program.code).trans (sublist_append_right _ _)

theorem programStatements_perm (program : Program H) :
    (programStatements view program).Perm
      (openStatementsOf view program.code ++ nestedStatements view program) := by
  have code := aiStatementsOf_perm view program.code
  refine (code.append_left _).trans ?_
  rw [nestedStatements, ← append_assoc, ← append_assoc]
  exact Perm.append_right _ perm_append_comm

/-- A host whose AI statements are the parser's. -/
def evidenceHost : Host :=
  { Host.sample with
    AiStatement := AiStatement
    AiState := Unit
    noTables := ()
    perform := fun _ tables => (tables, []) }

def tensorStatement : AiStatement :=
  .tensor { name := ascii "t", elementType := ascii "fp32", shapeCsv := ascii "1", rank := 1
            totalElements := 1 }

/-- `if 1 { tensor t fp32 "1"; }` -/
def branchProgram : Program evidenceHost where
  globals := {}
  functions := []
  code := [.ifThen (.literal 1) [.ai tensorStatement]]
  undeclared := by simp [Stmt.isDeclaration]

end ShortHand.Evidence
