import ShortHand.Evidence.Handwritten
import ShortHand.Evidence.Quotient
import ShortHand.Tooling.Scanner

/-! The candidate report of a parsed program as the tree of what is written. -/

namespace ShortHand.Evidence

open ShortHand.Library ShortHand.Language List

variable {N : Numerals}

theorem ascii_append (first second : String) : ascii (first ++ second) = ascii first ++ ascii second := by
  simp [ascii, String.toByteArray_append]

theorem ascii_digitChar : ∀ digit < 10,
    ascii (String.singleton (Nat.digitChar digit)) = [Fin.ofNat 256 (48 + digit)] := by
  decide +kernel

theorem digitsOf_of_ge (large : 10 ≤ value) :
    Quotient.digitsOf value = Quotient.digitsOf (value / 10) ++ [Fin.ofNat 256 (48 + value % 10)] := by
  have positive : value ≠ 0 := by omega
  have rest : value / 10 ≠ 0 := by omega
  rw [Quotient.digitsOf, if_neg positive, Quotient.digitsOf, if_neg rest,
    Nat.digits_def' (by decide) (Nat.pos_of_ne_zero positive), reverse_cons, map_append]
  rfl

theorem ascii_repr (value : Nat) : ascii value.repr = Quotient.digitsOf value := by
  induction value using Nat.strong_induction_on with
  | _ value ih =>
    rcases Nat.lt_or_ge value 10 with small | large
    · have digit : ∀ digit < 10, Quotient.digitsOf digit = [Fin.ofNat 256 (48 + digit)] := by
        intro digit small
        rcases Nat.eq_zero_or_pos digit with rfl | positive
        · rfl
        · rw [Quotient.digitsOf, if_neg positive.ne', Nat.digits_of_lt 10 digit positive.ne' small]
          rfl
      rw [Nat.repr_of_lt small, ascii_digitChar value small, digit value small]
    · rw [Nat.repr_of_ge large, ascii_append, ih (value / 10) (by omega),
        ascii_digitChar _ (Nat.mod_lt _ (by decide)), ← digitsOf_of_ge large]

/-- An integer is printed as a number token. -/
theorem scanNumber_intText (value : Int) : scanNumber (intText value) = .ok (intText value, []) := by
  rw [scanNumber_iff]
  cases value with
  | ofNat magnitude =>
    have text : intText (Int.ofNat magnitude) = Quotient.digitsOf magnitude := ascii_repr magnitude
    rw [text]
    simpa using NumberText.number (.inl rfl) (@Quotient.integerText_digitsOf magnitude) .none .none
  | negSucc magnitude =>
    have text : intText (Int.negSucc magnitude) = 45 :: Quotient.digitsOf (magnitude + 1) := by
      have parts : intText (Int.negSucc magnitude) = ascii ("-" ++ (magnitude + 1).repr) := rfl
      rw [parts, ascii_append, ascii_repr]
      rfl
    rw [text]
    simpa using NumberText.number (.inr rfl) (@Quotient.integerText_digitsOf (magnitude + 1)) .none .none

/-- The text of an identifier or a keyword. -/
def IsWord (text : Bytes) : Prop := ∀ byte ∈ text, Tooling.isWordByte byte = true

theorem IsWord.clean (word : IsWord text) : Clean text := by
  intro byte member
  have alphabet := word byte member
  simp only [Tooling.isWordByte, Tooling.isWordStart, isLower, isUpper, isDigit, Bool.or_eq_true,
    Bool.and_eq_true, decide_eq_true_eq, Fin.le_def, Fin.ext_iff] at alphabet
  refine .inl (Fin.le_def.mpr ?_)
  rcases alphabet with ((⟨lower, _⟩ | ⟨lower, _⟩) | underscore) | ⟨lower, _⟩
  · exact le_trans (by decide) lower
  · exact le_trans (by decide) lower
  · exact le_of_le_of_eq (by decide) underscore.symm
  · exact le_trans (by decide) lower

/-- The text of a value by its kind. A decimal is printed with `%.15g` from what `atof`
made of its digits, which may be infinite. -/
def C3EcoValueData.Parsed (value : C3EcoValueData) : Prop :=
  match value.kind with
  | .string => True
  | .identifier => IsWord value.text
  | .integer => ∃ number, value.text = intText number
  | .decimal => scanNumber value.text = .ok (value.text, []) ∨ value.text = ascii "inf"
  | .boolean => ∃ flag, value.text = boolText flag

structure C3EcoDeclarationData.Parsed (data : C3EcoDeclarationData) : Prop where
  name : IsWord data.name
  /-- Values of one name are gathered in one field. -/
  distinct : (data.fields.map C3EcoFieldData.name).Nodup
  names : ∀ field ∈ data.fields, IsWord field.name
  values : ∀ field ∈ data.fields, ∀ value ∈ field.values, value.Parsed

/-- Names are identifiers, and the choices of the grammar are keywords. -/
def AiStatement.Parsed : AiStatement → Prop
  | .model data => IsWord data.name ∧ IsWord data.format ∧ IsWord data.precision ∧
      ∀ backend ∈ data.backendPreference, IsWord backend
  | .tensor data => IsWord data.name ∧ IsWord data.elementType
  | .contract data => IsWord data.name ∧ IsWord data.measurementQuality ∧ IsWord data.dataQuality
  | .measurement data => IsWord data.workload ∧ IsWord data.backend
  | .c3eco data => data.Parsed
  | .infer modelName inputName outputName =>
    IsWord modelName ∧ IsWord inputName ∧ IsWord outputName
  | .aiInfer .. => True

/-- All that the emitter has collected was parsed. -/
structure Collection.Parsed (collection : Collection) : Prop where
  models : ∀ data ∈ collection.models, (AiStatement.model data).Parsed
  tensors : ∀ data ∈ collection.tensors, (AiStatement.tensor data).Parsed
  contracts : ∀ data ∈ collection.contracts, (AiStatement.contract data).Parsed
  measures : ∀ data ∈ collection.measures, (AiStatement.measurement data).Parsed
  declarations : ∀ data ∈ collection.c3ecoDeclarations, data.Parsed
  calls : ∀ call ∈ collection.inferCalls, (AiStatement.infer call.1 call.2.1 call.2.2).Parsed

theorem Collection.Parsed.push {collection : Collection} (parsed : collection.Parsed)
    (statementParsed : statement.Parsed) : (collection.push statement).Parsed := by
  cases statement with
  | model => exact { parsed with models := forall_mem_concat.mpr ⟨parsed.models, statementParsed⟩ }
  | tensor => exact { parsed with tensors := forall_mem_concat.mpr ⟨parsed.tensors, statementParsed⟩ }
  | contract =>
    exact { parsed with contracts := forall_mem_concat.mpr ⟨parsed.contracts, statementParsed⟩ }
  | measurement =>
    exact { parsed with measures := forall_mem_concat.mpr ⟨parsed.measures, statementParsed⟩ }
  | c3eco =>
    exact { parsed with declarations := forall_mem_concat.mpr ⟨parsed.declarations, statementParsed⟩ }
  | infer => exact { parsed with calls := forall_mem_concat.mpr ⟨parsed.calls, statementParsed⟩ }
  | aiInfer => exact parsed

section Collected

variable {H : Host} {view : H.AiStatement → AiStatement}

mutual

theorem collectStmt_parsed {collection : Collection} (parsed : collection.Parsed)
    (each : ∀ found ∈ aiStatements view statement, found.Parsed) :
    (collectStmt view collection statement).Parsed := by
  cases statement with
  | block statements => exact collectStmts_parsed parsed each
  | ai statement => exact parsed.push (each _ (mem_singleton.mpr rfl))
  | _ => exact parsed

theorem collectStmts_parsed {collection : Collection} (parsed : collection.Parsed)
    {statements : List (Stmt H)} (each : ∀ found ∈ aiStatementsOf view statements, found.Parsed) :
    (collectStmts view collection statements).Parsed := by
  cases statements with
  | nil => exact parsed
  | cons statement rest =>
    obtain ⟨first, later⟩ := forall_mem_append.mp each
    exact collectStmts_parsed (collectStmt_parsed parsed first) later

end

theorem collectProgram_parsed
    (each : ∀ statement ∈ programStatements view program, statement.Parsed) :
    (collectProgram view program).Parsed := by
  have empty : ({} : Collection).Parsed := by
    constructor <;> nofun
  exact collectStmts_parsed empty fun found member => each found (mem_append_right _ member)

end Collected

section Document

/-- An object without blanks. -/
def Written.compact (members : List (String × Written)) : Written :=
  .object [] [] [] (members.map fun member => (ascii member.1, member.2))

def typedWritten (value : C3EcoValueData) : Written :=
  match value.kind with
  | .integer | .decimal => .number value.text
  | .boolean => .boolean (value.text = boolText true)
  | .string | .identifier => .text value.text

def valueWritten (value : C3EcoValueData) : Written :=
  .compact [("type", .text (ascii (c3EcoValueKindName value.kind))), ("value", typedWritten value)]

/-- The fields of a declaration, with what is written of each value. -/
def fieldsWritten (write : C3EcoValueData → Written) (fields : List C3EcoFieldData) : Written :=
  .object [] [] [] (fields.map fun field => (field.name, .array (field.values.map write)))

def c3ecoWritten (data : C3EcoDeclarationData) : Written :=
  .compact [("kind", .text (ascii (c3EcoDeclarationKindName data.kind))), ("name", .text data.name),
    ("fields", fieldsWritten (fun value => .text value.text) data.fields),
    ("typed_fields", fieldsWritten valueWritten data.fields)]

def modelWritten (data : ModelDeclarationData) : Written :=
  .compact [("name", .text data.name), ("format", .text data.format),
    ("precision", .text data.precision), ("input_shape", .text data.inputShape),
    ("output_shape", .text data.outputShape),
    ("backend_preference", .array (data.backendPreference.map .text))]

def tensorWritten (data : TensorDeclarationData) : Written :=
  .compact [("name", .text data.name), ("element_type", .text data.elementType),
    ("shape", .text data.shapeCsv), ("rank", .number (intText data.rank)),
    ("total_elements", .number (intText data.totalElements))]

def inferWritten (call : Bytes × Bytes × Bytes) : Written :=
  .compact [("model", .text call.1), ("input", .text call.2.1), ("output", .text call.2.2)]

def measurementWritten (host : EmitterHost) (data : GreenAIMeasurementData) : Written :=
  .compact [("workload", .text data.workload), ("backend", .text data.backend),
    ("inferences", .number (intText data.inferences)),
    ("watts", .number (host.doubleText data.watts)),
    ("seconds", .number (host.doubleText data.seconds))]

end Document

section Entries

theorem interleaved_eq_separated (texts : List Bytes) : interleaved [44] texts = separated texts := by
  induction texts with
  | nil => rfl
  | cons text texts ih =>
    cases texts with
    | nil => simp [interleaved, separated]
    | cons next texts =>
      rw [separated, intercalate, intersperse_cons_cons, flatten_cons, flatten_cons]
      rw [separated, intercalate] at ih
      rw [← ih]
      simp [interleaved]

theorem render_array (items : List Written) :
    (Written.array items).render = [91] ++ separated (items.map Written.render) ++ [93] := by
  rw [Written.render, renderItems_eq, interleaved_eq_separated]
  rfl

theorem render_object (members : List (Bytes × Written)) :
    (Written.object [] [] [] members).render = [123] ++ separated (members.map fun member =>
      quotedEsc member.1 ++ [58] ++ member.2.render) ++ [125] := by
  rw [Written.render, renderMembers_eq, ← interleaved_eq_separated]
  simp

theorem render_compact (members : List (String × Written)) :
    (Written.compact members).render = [123] ++ separated (members.map fun member =>
      quotedEsc (ascii member.1) ++ [58] ++ member.2.render) ++ [125] := by
  rw [Written.compact, render_object, map_map]
  rfl

theorem render_typedWritten (parsed : value.Parsed) :
    (typedWritten value).render = typedC3EcoValue value := by
  rcases value with ⟨kind, text⟩
  cases kind with
  | boolean =>
    obtain ⟨flag, same⟩ := parsed
    subst same
    cases flag <;> rfl
  | string | identifier | integer | decimal => rfl

/-- The constant texts of an entry are the keys of its members with what stands around them. -/
structure EntryTexts : Prop where
  openings : ∀ name ∈ ["kind", "name", "model", "workload"],
    ascii ("\x7b\"" ++ name ++ "\":") = [123] ++ quotedEsc (ascii name) ++ [58]
  commas : ∀ name ∈ ["name", "fields", "typed_fields", "format", "precision", "input_shape",
      "output_shape", "backend_preference", "element_type", "shape", "rank", "total_elements", "input",
      "output", "backend", "inferences", "watts", "seconds"],
    ascii (",\"" ++ name ++ "\":") = [44] ++ quotedEsc (ascii name) ++ [58]
  kinds : ∀ kind ∈ ["string", "identifier", "integer", "decimal", "boolean"],
    ascii ("\x7b\"type\":\"" ++ kind ++ "\",\"value\":") =
      [123] ++ quotedEsc (ascii "type") ++ [58] ++ quotedEsc (ascii kind) ++
        [44] ++ quotedEsc (ascii "value") ++ [58]
  fields : ascii ",\"fields\":\x7b" = [44] ++ quotedEsc (ascii "fields") ++ [58] ++ ascii "\x7b"
  typedFields : ascii "\x7d,\"typed_fields\":\x7b" =
    ascii "\x7d" ++ [44] ++ quotedEsc (ascii "typed_fields") ++ [58] ++ ascii "\x7b"
  preference : ascii ",\"backend_preference\":[" =
    [44] ++ quotedEsc (ascii "backend_preference") ++ [58, 91]

theorem entryTexts : EntryTexts := by
  constructor <;> decide +kernel

theorem render_valueWritten (parsed : value.Parsed) :
    (valueWritten value).render =
      ascii ("\x7b\"type\":\"" ++ c3EcoValueKindName value.kind ++ "\",\"value\":") ++
        typedC3EcoValue value ++ ascii "\x7d" := by
  have start : ascii ("\x7b\"type\":\"" ++ c3EcoValueKindName value.kind ++ "\",\"value\":") =
      [123] ++ quotedEsc (ascii "type") ++ [58] ++ quotedEsc (ascii (c3EcoValueKindName value.kind)) ++
        [44] ++ quotedEsc (ascii "value") ++ [58] :=
    entryTexts.kinds _ (by cases value.kind <;> decide)
  have closing : ascii "\x7d" = [125] := rfl
  rw [valueWritten, render_compact, start, ← render_typedWritten parsed, closing]
  simp [separated, Written.render]

theorem render_fieldsWritten {write : C3EcoValueData → Written} {text : C3EcoValueData → Bytes}
    {fields : List C3EcoFieldData}
    (each : ∀ field ∈ fields, ∀ value ∈ field.values, (write value).render = text value) :
    (fieldsWritten write fields).render = ascii "\x7b" ++ separated (fields.map fun field =>
      quotedEsc field.name ++ ascii ":[" ++ separated (field.values.map text) ++ ascii "]") ++
        ascii "\x7d" := by
  rw [fieldsWritten, render_object, map_map]
  have same : fields.map ((fun member : Bytes × Written => quotedEsc member.1 ++ [58] ++ member.2.render) ∘
      fun field => (field.name, Written.array (field.values.map write))) =
      fields.map fun field =>
        quotedEsc field.name ++ ascii ":[" ++ separated (field.values.map text) ++ ascii "]" := by
    refine map_congr_left fun field listed => ?_
    have values : (field.values.map write).map Written.render = field.values.map text := by
      rw [map_map]
      exact map_congr_left (each field listed)
    have opening : ascii ":[" = [58, 91] := rfl
    have closing : ascii "]" = [93] := rfl
    rw [Function.comp, render_array, values, opening, closing]
    simp
  rw [same]
  rfl

theorem render_c3ecoWritten (parsed : data.Parsed) :
    (c3ecoWritten data).render = c3ecoEntry data := by
  have texts := @render_fieldsWritten (fun value => .text value.text) (fun value => quotedEsc value.text)
    data.fields fun _ _ _ _ => rfl
  have typed := @render_fieldsWritten valueWritten _ data.fields fun field listed value member =>
    render_valueWritten (parsed.values field listed value member)
  have kind := entryTexts.openings "kind" (by decide)
  have name := entryTexts.commas "name" (by decide)
  have closing : ascii "\x7d\x7d" = ascii "\x7d" ++ [125] := rfl
  rw [c3ecoWritten, render_compact, c3ecoEntry, entryTexts.fields, entryTexts.typedFields, closing]
  simp only [String.reduceAppend] at kind name
  rw [kind, name]
  simp only [map_cons, map_nil, texts, typed, Written.render]
  simp [separated]

theorem render_modelWritten (data : ModelDeclarationData) :
    (modelWritten data).render = modelEntry data := by
  have openings := entryTexts.openings
  have commas := entryTexts.commas
  simp only [forall_mem_cons, String.reduceAppend] at openings commas
  have closing : ascii "]\x7d" = [93, 125] := rfl
  have backends : (data.backendPreference.map Written.text).map Written.render =
      data.backendPreference.map quotedEsc := by
    rw [map_map]
    rfl
  simp only [modelWritten, render_compact, modelEntry, openings, commas, entryTexts.preference,
    closing, map_cons, map_nil, render_array, backends]
  simp [separated, Written.render]

theorem render_entries (host : EmitterHost) :
    (∀ data, (tensorWritten data).render = tensorEntry data) ∧
      (∀ call, (inferWritten call).render = inferEntry call) ∧
      ∀ data, (measurementWritten host data).render = measurementEntry host data := by
  have openings := entryTexts.openings
  have commas := entryTexts.commas
  simp only [forall_mem_cons, String.reduceAppend] at openings commas
  have closing : ascii "\x7d" = [125] := rfl
  simp only [tensorWritten, inferWritten, measurementWritten, render_compact, tensorEntry, inferEntry,
    measurementEntry, openings, commas, closing]
  simp [separated, Written.render]

end Entries

section Lines

variable (host : EmitterHost)

/-- The members of the report but the last. -/
def reportMembers (collection : Collection) : List (String × Written) :=
  let contract := collection.firstContract
  [("schema", .text (ascii "shorthand.c3eco.candidate_report.v1")),
    ("report_status", .text (ascii "candidate_assessment_only")),
    ("source_file", .text host.source),
    ("compiler_version", .text (ascii "shorthand-greenai-core")),
    ("minimum_c3eco_evidence_present", .boolean collection.hasMinimumC3EcoEvidence),
    ("official_certification_granted", .boolean false),
    ("c3eco_language_contract", .text (ascii "shorthand.c3eco.language.v1")),
    ("c3eco_profile_contract", .text (ascii "shorthand.c3eco.profile.v2")),
    ("c3eco_profile_status", .text (ascii collection.profileStatus)),
    ("c3eco_profile_migration_required", .boolean collection.migrationRequired),
    ("c3eco_declarations", .array (collection.c3ecoDeclarations.map c3ecoWritten)),
    ("workload", .text contract.name),
    ("functional_unit", .text contract.functionalUnit),
    ("success_criteria", .text contract.successCriteria),
    ("measurement_quality", .text contract.measurementQuality),
    ("data_quality", .text contract.dataQuality),
    ("carbon_factor_gco2e_per_kwh", .number (host.doubleText contract.carbonFactor)),
    ("energy_budget_j", .number (host.doubleText contract.energyBudgetJ)),
    ("carbon_budget_gco2e", .number (host.doubleText contract.carbonBudgetGco2e)),
    ("measurement_status", .text (ascii "declared_budget_only")),
    ("runtime_backend", .text (ascii "fallback")),
    ("inference_status", .text (ascii "not_executed")),
    ("reason", .text (ascii "backend_not_available_or_not_configured")),
    ("offsets_gco2e", .number (intText 0)),
    ("avoided_impact_gco2e", .number (intText 0)),
    ("base_footprint_not_reduced_by_offsets", .boolean true),
    ("models", .array (collection.models.map modelWritten)),
    ("tensors", .array (collection.tensors.map tensorWritten)),
    ("infer_calls", .array (collection.inferCalls.map inferWritten)),
    ("measurements", .array (collection.measures.map (measurementWritten host))),
    ("blocked_certification_items", .array (collection.blockers.map .text)),
    ("claim_safe_text", .text (ascii ("Candidate evidence report only. This output does not grant " ++
      "C3-ECO certification and must not be marketed as certified without external review."))),
    ("assumptions", .array [.text (ascii ("missing telemetry is reported as unavailable or " ++
      "declared_budget_only, never fabricated"))]),
    ("warnings", .array [.text (ascii "optional SDKs absent use deterministic fallback"),
      .text (ascii "offsets and avoided impact do not reduce the base footprint")])]

def disclaimer : Written :=
  .text (ascii "Evidence report only; this tool does not grant certification.")

/-- The report. -/
def reportWritten (collection : Collection) : Written :=
  .object (ascii "\n  ") (ascii " ") (ascii "\n")
    ((reportMembers host collection ++ [("disclaimer", disclaimer)]).map
      fun member => (ascii member.1, member.2))

/-- The keys of the report do not depend on what is reported. -/
def reportNames : List String := (reportMembers ⟨[], fun _ => []⟩ {}).map Prod.fst

theorem reportMembers_names (collection : Collection) :
    (reportMembers host collection).map Prod.fst = reportNames := rfl

/-- The constant texts of the report. -/
structure ReportTexts : Prop where
  lines : ∀ name ∈ reportNames ++ ["disclaimer"],
    ascii ("  \"" ++ name ++ "\": ") = ascii "  " ++ quotedEsc (ascii name) ++ [58, 32]
  distinct : (reportNames ++ ["disclaimer"]).Nodup
  clean : ∀ name ∈ reportNames ++ ["disclaimer"], Clean (ascii name)
  assumptions : ascii ("[\"missing telemetry is reported as unavailable or " ++
    "declared_budget_only, never fabricated\"]") = (Written.array [.text (ascii ("missing telemetry " ++
      "is reported as unavailable or declared_budget_only, never fabricated"))]).render
  warnings : ascii ("[\"optional SDKs absent use deterministic fallback\"," ++
    "\"offsets and avoided impact do not reduce the base footprint\"]") = (Written.array
      [.text (ascii "optional SDKs absent use deterministic fallback"),
        .text (ascii "offsets and avoided impact do not reduce the base footprint")]).render
  final : ascii ("  \"disclaimer\": \"Evidence report only; this tool does not grant " ++
    "certification.\"\n\x7d\n") = ascii "  " ++
      (quotedEsc (ascii "disclaimer") ++ 58 :: (ascii " " ++ disclaimer.render)) ++
        (ascii "\n" ++ [125] ++ [10])

theorem reportTexts : ReportTexts := by
  constructor <;> decide +kernel

theorem reportArray_eq {α : Type} {items : List α} {write : α → Written} {entry : α → Bytes}
    (name : String) (each : ∀ item ∈ items, (write item).render = entry item) :
    reportArray name (items.map entry) = reportLine name (Written.array (items.map write)).render := by
  have same : (items.map write).map Written.render = items.map entry := by
    rw [map_map]
    exact map_congr_left each
  rw [render_array, same]
  rfl

set_option maxRecDepth 2000 in
theorem reportPieces_eq (parsed : collection.Parsed) :
    reportPieces host collection = [ascii "\x7b\n"] ++
      ((reportMembers host collection).map fun member => reportLine member.1 member.2.render) ++
      [ascii ("  \"disclaimer\": \"Evidence report only; this tool does not grant " ++
        "certification.\"\n\x7d\n")] := by
  have declarations := reportArray_eq "c3eco_declarations" fun data listed =>
    render_c3ecoWritten (parsed.declarations data listed)
  have models := @reportArray_eq _ collection.models _ _ "models" fun data _ => render_modelWritten data
  have tensors := @reportArray_eq _ collection.tensors _ _ "tensors" fun data _ =>
    (render_entries host).1 data
  have calls := @reportArray_eq _ collection.inferCalls _ _ "infer_calls" fun call _ =>
    (render_entries host).2.1 call
  have measurements := @reportArray_eq _ collection.measures _ _ "measurements" fun data _ =>
    (render_entries host).2.2 data
  have blocked := @reportArray_eq _ collection.blockers Written.text quotedEsc
    "blocked_certification_items" fun _ _ => rfl
  rw [reportPieces, declarations, models, tensors, calls, measurements, blocked,
    reportTexts.assumptions, reportTexts.warnings]
  rfl

theorem ascii_injective : Function.Injective ascii := by
  intro first second same
  have units : Function.Injective fun byte : UInt8 => Fin.ofNat 256 byte.toNat := by
    intro one other equal
    have values := congrArg Fin.val equal
    simp only [Fin.val_ofNat, Nat.mod_eq_of_lt (UInt8.toNat_lt _)] at values
    exact UInt8.toNat_inj.mp values
  have bytes := map_injective_iff.mpr units same
  exact String.toByteArray_inj.mp (ByteArray.ext (Array.toList_inj.mp bytes))

theorem reportLine_eq (listed : name ∈ reportNames) (text : Bytes) :
    reportLine name text =
      ascii "  " ++ (quotedEsc (ascii name) ++ 58 :: (ascii " " ++ text)) ++ ascii ",\n" := by
  rw [reportLine, reportTexts.lines name (mem_append_left _ listed)]
  simp [show ascii " " = [32] from rfl]

/-- Lines that begin with a margin and end in a comma are members with a gap between them. -/
theorem flatten_lines {α : Type} {members : List α} {line text : α → Bytes} {last : Bytes}
    (each : ∀ member ∈ members, line member = ascii "  " ++ text member ++ ascii ",\n") :
    (members.map line).flatten ++ (ascii "  " ++ last) =
      ascii "  " ++ interleaved (44 :: ascii "\n  ") (members.map text ++ [last]) := by
  have comma : ∀ rest, ascii ",\n" ++ (ascii "  " ++ rest) = (44 :: ascii "\n  ") ++ rest := fun _ => rfl
  induction members with
  | nil => simp [interleaved]
  | cons member members ih =>
    obtain ⟨first, later⟩ := forall_mem_cons.mp each
    have rest := ih later
    rw [map_cons, flatten_cons, first, append_assoc, rest, append_assoc,
      append_assoc, comma, map_cons, cons_append]
    cases members with
    | nil => simp [interleaved]
    | cons next members => simp [interleaved]

/-- The text of the report is that of the document and a newline. -/
theorem reportPieces_flatten (parsed : collection.Parsed) :
    (reportPieces host collection).flatten = (reportWritten host collection).render ++ [10] := by
  let text := fun member : String × Written =>
    quotedEsc (ascii member.1) ++ 58 :: (ascii " " ++ member.2.render)
  have each : ∀ member ∈ reportMembers host collection, reportLine member.1 member.2.render =
      ascii "  " ++ text member ++ ascii ",\n" := fun member listed =>
    reportLine_eq (reportMembers_names host collection ▸ mem_map_of_mem listed) member.2.render
  have opening : ascii "\x7b\n" = 123 :: ascii "\n" := rfl
  have gap : ascii "\n  " = ascii "\n" ++ ascii "  " := rfl
  have rendered : (reportWritten host collection).render = 123 :: ascii "\n  " ++
      interleaved (44 :: ascii "\n  ") ((reportMembers host collection).map text ++
        [text ("disclaimer", disclaimer)]) ++ ascii "\n" ++ [125] := by
    rfl
  have lines := @flatten_lines _ _ _ _ (text ("disclaimer", disclaimer)) each
  rw [reportPieces_eq host parsed, flatten_append, flatten_append, flatten_singleton,
    flatten_singleton, reportTexts.final, opening, rendered, gap]
  calc (123 :: ascii "\n") ++ ((reportMembers host collection).map fun member =>
          reportLine member.1 member.2.render).flatten ++
        (ascii "  " ++ text ("disclaimer", disclaimer) ++ (ascii "\n" ++ [125] ++ [10]))
      = (123 :: ascii "\n") ++ (((reportMembers host collection).map fun member =>
          reportLine member.1 member.2.render).flatten ++
        (ascii "  " ++ text ("disclaimer", disclaimer))) ++ (ascii "\n" ++ [125] ++ [10]) := by
        simp only [append_assoc]
    _ = _ := by
        rw [lines]
        simp only [gap, append_assoc, cons_append]

end Lines

end ShortHand.Evidence
