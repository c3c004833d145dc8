import ShortHand.Evidence.Report

/-! When the candidate report can be read: its strings are escaped for quotes, backslashes and
newlines only. -/

namespace ShortHand.Evidence

open ShortHand.Library ShortHand.Language List
open Written (array compact number text)

variable {N : Numerals}

/-- A number token has digits, signs, points and exponent marks only. -/
theorem scanNumber_clean (scanned : scanNumber source = .ok (token, rest)) : Clean token :=
  fun byte inside => .inl ((scanNumber_sound scanned).1.printable byte inside)

/-- How the library prints and reads numbers: a stream prints a finite `double` as a
number token, and `std::stod` reads that and every integer. -/
structure EmitterHost.Prints (host : EmitterHost) (N : Numerals) : Prop where
  doubles : ∀ value, Legible N (host.doubleText value)
  integers : ∀ value, (N.read (intText value)).isSome = true

theorem EmitterHost.Prints.integer {host : EmitterHost} (prints : host.Prints N) (value : Int) :
    Legible N (intText value) := ⟨scanNumber_intText value, prints.integers value⟩

section Consumable

variable {host : EmitterHost}

/-- What has to hold for a report to be read: strings without control characters but the
newline, and decimal numbers that the library reads. -/
structure Printable (N : Numerals) (host : EmitterHost) (collection : Collection) : Prop where
  source : Clean host.source
  functionalUnit : Clean collection.firstContract.functionalUnit
  successCriteria : Clean collection.firstContract.successCriteria
  inputShapes : ∀ data ∈ collection.models, Clean data.inputShape
  outputShapes : ∀ data ∈ collection.models, Clean data.outputShape
  shapes : ∀ data ∈ collection.tensors, Clean data.shapeCsv
  strings : ∀ data ∈ collection.c3ecoDeclarations, ∀ field ∈ data.fields, ∀ value ∈ field.values,
    value.kind = .string → Clean value.text
  decimals : ∀ data ∈ collection.c3ecoDeclarations, ∀ field ∈ data.fields, ∀ value ∈ field.values,
    value.kind = .decimal → Legible N value.text

theorem sound_compact :
    (compact members).Sound N ↔ ∀ member ∈ members, member.2.Sound N := by
  rw [compact, Written.Sound, soundMembers_iff, forall_mem_map]

theorem sound_array : (array items).Sound N ↔ ∀ item ∈ items, item.Sound N := by
  rw [Written.Sound, soundItems_iff]

theorem sound_text : (text value).Sound N ↔ Clean value := Iff.rfl

theorem sound_fieldsWritten {write : C3EcoValueData → Written} :
    (fieldsWritten write fields).Sound N ↔
      ∀ field ∈ fields, ∀ value ∈ field.values, (write value).Sound N := by
  rw [fieldsWritten, Written.Sound, soundMembers_iff, forall_mem_map]
  refine forall₂_congr fun field _ => ?_
  rw [sound_array, forall_mem_map]

theorem sound_valueWritten : (valueWritten value).Sound N ↔ (typedWritten value).Sound N := by
  have kind : ∀ kind, Clean (ascii (c3EcoValueKindName kind)) := by
    intro kind
    cases kind <;> decide
  rw [valueWritten, sound_compact]
  simp [sound_text, kind]

theorem sound_value (prints : host.Prints N) (parsed : value.Parsed) :
    (Clean value.text ∧ (valueWritten value).Sound N) ↔
      (value.kind = .string → Clean value.text) ∧ (value.kind = .decimal → Legible N value.text) := by
  rw [sound_valueWritten]
  rcases value with ⟨kind, text⟩
  cases kind with
  | string => exact ⟨fun sound => ⟨fun _ => sound.1, nofun⟩, fun sound => ⟨sound.1 rfl, sound.1 rfl⟩⟩
  | identifier =>
    have word : IsWord text := parsed
    exact ⟨fun _ => ⟨nofun, nofun⟩, fun _ => ⟨word.clean, word.clean⟩⟩
  | integer =>
    obtain ⟨number, same⟩ := parsed
    have legible := prints.integer number
    rw [← same] at legible
    exact ⟨fun _ => ⟨nofun, nofun⟩, fun _ => ⟨scanNumber_clean legible.1, legible⟩⟩
  | decimal =>
    have clean : Clean text := by
      rcases parsed with scanned | same
      · exact scanNumber_clean scanned
      · dsimp only at same
        rw [same]
        decide
    exact ⟨fun sound => ⟨nofun, fun _ => sound.2⟩, fun sound => ⟨clean, sound.2 rfl⟩⟩
  | boolean =>
    obtain ⟨flag, same⟩ := parsed
    subst same
    exact ⟨fun _ => ⟨nofun, nofun⟩, fun _ => ⟨by cases flag <;> decide, trivial⟩⟩

theorem sound_c3ecoWritten (prints : host.Prints N) (parsed : data.Parsed) :
    (c3ecoWritten data).Sound N ↔ ∀ field ∈ data.fields, ∀ value ∈ field.values,
      (value.kind = .string → Clean value.text) ∧ (value.kind = .decimal → Legible N value.text) := by
  have kind : ∀ kind, Clean (ascii (c3EcoDeclarationKindName kind)) := by
    intro kind
    cases kind <;> decide
  rw [c3ecoWritten, sound_compact]
  simp only [forall_mem_cons, sound_text, sound_fieldsWritten, kind, parsed.name.clean,
    true_and, not_mem_nil, false_imp_iff, implies_true, and_true]
  constructor
  · rintro ⟨texts, typed⟩ field listed value member
    exact (sound_value prints (parsed.values field listed value member)).mp
      ⟨texts field listed value member, typed field listed value member⟩
  · intro sound
    have both := fun field listed value member =>
      (sound_value prints (parsed.values field listed value member)).mpr (sound field listed value member)
    exact ⟨fun field listed value member => (both field listed value member).1,
      fun field listed value member => (both field listed value member).2⟩

theorem sound_modelWritten (parsed : (AiStatement.model data).Parsed) :
    (modelWritten data).Sound N ↔ Clean data.inputShape ∧ Clean data.outputShape := by
  obtain ⟨name, format, precision, backends⟩ := parsed
  have preference : (array (data.backendPreference.map .text)).Sound N :=
    sound_array.mpr (forall_mem_map.mpr fun backend listed => (backends backend listed).clean)
  rw [modelWritten, sound_compact]
  simp [sound_text, name.clean, format.clean, precision.clean, preference]

theorem sound_tensorWritten (prints : host.Prints N) (parsed : (AiStatement.tensor data).Parsed) :
    (tensorWritten data).Sound N ↔ Clean data.shapeCsv := by
  obtain ⟨name, elementType⟩ := parsed
  have numbers : ∀ value, (number (intText value)).Sound N := prints.integer
  rw [tensorWritten, sound_compact]
  simp [sound_text, name.clean, elementType.clean, numbers]

theorem sound_inferWritten (parsed : (AiStatement.infer call.1 call.2.1 call.2.2).Parsed) :
    (inferWritten call).Sound N := by
  obtain ⟨model, input, output⟩ := parsed
  rw [inferWritten, sound_compact]
  simp [sound_text, model.clean, input.clean, output.clean]

theorem sound_measurementWritten (prints : host.Prints N)
    (parsed : (AiStatement.measurement data).Parsed) : (measurementWritten host data).Sound N := by
  obtain ⟨workload, backend⟩ := parsed
  have integers : ∀ value, (number (intText value)).Sound N := prints.integer
  have doubles : ∀ value, (number (host.doubleText value)).Sound N := prints.doubles
  rw [measurementWritten, sound_compact]
  simp [sound_text, workload.clean, backend.clean, integers, doubles]

/-- The constant strings of the report. -/
structure ConstantsClean : Prop where
  blockers : ∀ item ∈ ["missing_greenai_contract", "missing_model_declaration",
    "missing_tensor_declaration", "missing_infer_statement", "typed_c3eco_profile_not_declared",
    "real_backend_execution_not_yet_verified", "external_certifier_not_signed"], Clean (ascii item)
  statuses : ∀ status ∈ ["conformant", "legacy_migration_review_required", "not_declared"],
    Clean (ascii status)
  values : ∀ text ∈ ["shorthand.c3eco.candidate_report.v1", "candidate_assessment_only",
    "shorthand-greenai-core", "shorthand.c3eco.language.v1", "shorthand.c3eco.profile.v2",
    "declared_budget_only", "fallback", "not_executed", "backend_not_available_or_not_configured",
    "Candidate evidence report only. This output does not grant " ++
      "C3-ECO certification and must not be marketed as certified without external review.",
    "missing telemetry is reported as unavailable or declared_budget_only, never fabricated",
    "optional SDKs absent use deterministic fallback",
    "offsets and avoided impact do not reduce the base footprint"], Clean (ascii text)
  disclaimer : Clean (ascii "Evidence report only; this tool does not grant certification.")
  margins : Blank (ascii "\n  ") ∧ Blank (ascii " ") ∧ Blank (ascii "\n")

theorem constantsClean : ConstantsClean := by
  constructor
  case margins =>
    unfold Blank
    decide +kernel
  all_goals decide +kernel

theorem Collection.blockers_clean (collection : Collection) :
    ∀ item ∈ collection.blockers, Clean item := by
  intro item listed
  obtain ⟨name, member, rfl⟩ := mem_map.mp listed
  refine constantsClean.blockers name ?_
  simp only [mem_append, mem_ite_nil_right, mem_ite_nil_left] at member
  simp only [mem_cons, not_mem_nil, or_false] at member ⊢
  tauto

theorem Collection.Parsed.firstContract {collection : Collection} (parsed : collection.Parsed) :
    (AiStatement.contract collection.firstContract).Parsed := by
  unfold Collection.firstContract
  cases listed : collection.contracts with
  | nil =>
    have empty : IsWord [] := nofun
    exact ⟨empty, empty, empty⟩
  | cons contract contracts => exact parsed.contracts contract (by rw [listed]; exact mem_cons_self)

theorem Collection.profileStatus_clean (collection : Collection) :
    Clean (ascii collection.profileStatus) := by
  unfold Collection.profileStatus
  split_ifs <;> exact constantsClean.statuses _ (by decide)

theorem sound_reportMembers (prints : host.Prints N)
    (parsed : collection.Parsed) (printable : Printable N host collection) :
    ∀ member ∈ reportMembers host collection, member.2.Sound N := by
  obtain ⟨workload, measurementQuality, dataQuality⟩ := parsed.firstContract
  have declarations : ∀ data ∈ collection.c3ecoDeclarations, (c3ecoWritten data).Sound N :=
    fun data listed => (sound_c3ecoWritten prints (parsed.declarations data listed)).mpr
      fun field isField value isValue => ⟨printable.strings data listed field isField value isValue,
        printable.decimals data listed field isField value isValue⟩
  have models : ∀ data ∈ collection.models, (modelWritten data).Sound N := fun data listed =>
    (sound_modelWritten (parsed.models data listed)).mpr
      ⟨printable.inputShapes data listed, printable.outputShapes data listed⟩
  have tensors : ∀ data ∈ collection.tensors, (tensorWritten data).Sound N := fun data listed =>
    (sound_tensorWritten prints (parsed.tensors data listed)).mpr (printable.shapes data listed)
  have calls : ∀ call ∈ collection.inferCalls, (inferWritten call).Sound N := fun call listed =>
    sound_inferWritten (parsed.calls call listed)
  have measurements : ∀ data ∈ collection.measures, (measurementWritten host data).Sound N :=
    fun data listed => sound_measurementWritten prints (parsed.measures data listed)
  have zero : (number (intText 0)).Sound N := prints.integer 0
  have constants := constantsClean.values
  simp only [forall_mem_cons] at constants
  obtain ⟨schema, status, version, language, profile, declared, fallback, executed, reason, claim,
    assumption, sdks, offsets, _⟩ := constants
  simp only [reportMembers, forall_mem_cons]
  exact ⟨schema, status, printable.source, version, trivial, trivial, language, profile,
    collection.profileStatus_clean, trivial, sound_array.mpr (forall_mem_map.mpr declarations),
    workload.clean, printable.functionalUnit, printable.successCriteria, measurementQuality.clean,
    dataQuality.clean, prints.doubles _, prints.doubles _, prints.doubles _, declared, fallback,
    executed, reason, zero, zero, trivial, sound_array.mpr (forall_mem_map.mpr models),
    sound_array.mpr (forall_mem_map.mpr tensors),
    sound_array.mpr (forall_mem_map.mpr calls),
    sound_array.mpr (forall_mem_map.mpr measurements),
    sound_array.mpr (forall_mem_map.mpr collection.blockers_clean), claim,
    sound_array.mpr (forall_mem_singleton.mpr assumption),
    sound_array.mpr (forall_mem_cons.mpr ⟨sdks, forall_mem_singleton.mpr offsets⟩),
    nofun⟩

theorem printable_of_sound (prints : host.Prints N) (parsed : collection.Parsed)
    (sound : ∀ member ∈ reportMembers host collection, member.2.Sound N) :
    Printable N host collection := by
  have at_ : ∀ {position : Nat} {member : String × Written},
      (reportMembers host collection)[position]? = some member → member.2.Sound N :=
    fun found => sound _ (mem_of_getElem? found)
  have declarations : ∀ data ∈ collection.c3ecoDeclarations, ∀ field ∈ data.fields,
      ∀ value ∈ field.values, (value.kind = .string → Clean value.text) ∧
        (value.kind = .decimal → Legible N value.text) := fun data listed =>
    (sound_c3ecoWritten prints (parsed.declarations data listed)).mp
      (forall_mem_map.mp (sound_array.mp (@at_ 10 _ rfl)) data listed)
  have models : ∀ data ∈ collection.models, Clean data.inputShape ∧ Clean data.outputShape :=
    fun data listed => (sound_modelWritten (parsed.models data listed)).mp
      (forall_mem_map.mp (sound_array.mp (@at_ 26 _ rfl)) data listed)
  have tensors : ∀ data ∈ collection.tensors, Clean data.shapeCsv := fun data listed =>
    (sound_tensorWritten prints (parsed.tensors data listed)).mp
      (forall_mem_map.mp (sound_array.mp (@at_ 27 _ rfl)) data listed)
  exact {
    source := @at_ 2 _ rfl
    functionalUnit := @at_ 12 _ rfl
    successCriteria := @at_ 13 _ rfl
    inputShapes := fun data listed => (models data listed).1
    outputShapes := fun data listed => (models data listed).2
    shapes := tensors
    strings := fun data listed field isField value isValue =>
      (declarations data listed field isField value isValue).1
    decimals := fun data listed field isField value isValue =>
      (declarations data listed field isField value isValue).2 }

theorem sound_reportWritten (prints : host.Prints N) (parsed : collection.Parsed) :
    (reportWritten host collection).Sound N ↔ Printable N host collection := by
  have last : disclaimer.Sound N := constantsClean.disclaimer
  rw [reportWritten, Written.Sound, soundMembers_iff, forall_mem_map, forall_mem_append]
  constructor
  · exact fun sound => printable_of_sound prints parsed sound.1
  · exact fun printable => ⟨sound_reportMembers prints parsed printable,
      forall_mem_singleton.mpr last⟩

theorem formed_object (clean : ∀ member ∈ members, Clean member.1)
    (distinct : (members.map Prod.fst).Nodup) (each : ∀ member ∈ members, member.2.Formed levels) :
    (Written.object [] [] [] members).Formed (levels + 1) := by
  have blank : Blank [] := nofun
  exact ⟨blank, blank, blank, clean, distinct, each⟩

theorem formed_compact (names : List String) (named : members.map Prod.fst = names)
    (distinct : names.Nodup) (clean : ∀ name ∈ names, Clean (ascii name))
    (each : ∀ member ∈ members, member.2.Formed levels) :
    (compact members).Formed (levels + 1) := by
  subst named
  refine formed_object (forall_mem_map.mpr fun member listed =>
    clean member.1 (mem_map_of_mem listed)) ?_ (forall_mem_map.mpr each)
  have renamed := distinct.map ascii_injective
  rw [map_map] at renamed ⊢
  exact renamed

theorem formed_typedWritten (parsed : value.Parsed) : (typedWritten value).Formed (levels + 1) := by
  rcases value with ⟨kind, text⟩
  cases kind with
  | integer =>
    obtain ⟨number, same⟩ := parsed
    subst same
    exact .inl (scanNumber_intText number)
  | decimal => exact parsed
  | string | identifier | boolean => trivial

theorem formed_valueWritten (parsed : value.Parsed) : (valueWritten value).Formed (levels + 2) := by
  refine formed_compact ["type", "value"] rfl (by decide)
    (by decide) ?_
  exact forall_mem_cons.mpr ⟨trivial, forall_mem_singleton.mpr (formed_typedWritten parsed)⟩

theorem formed_fieldsWritten {write : C3EcoValueData → Written}
    {data : C3EcoDeclarationData} (parsed : data.Parsed)
    (each : ∀ value : C3EcoValueData, value.Parsed → (write value).Formed levels) :
    (fieldsWritten write data.fields).Formed (levels + 2) := by
  refine formed_object (forall_mem_map.mpr fun field listed => (parsed.names field listed).clean)
    ?_ (forall_mem_map.mpr fun field listed => ?_)
  · rw [map_map]
    exact parsed.distinct
  · exact forall_mem_map.mpr fun value member =>
      each value (parsed.values field listed value member)

theorem formed_c3ecoWritten {data : C3EcoDeclarationData} (parsed : data.Parsed) :
    (c3ecoWritten data).Formed (levels + 5) := by
  refine formed_compact ["kind", "name", "fields", "typed_fields"] rfl (by decide)
    (by decide) ?_
  simp only [forall_mem_cons]
  exact ⟨trivial, trivial, formed_fieldsWritten parsed fun _ _ => trivial,
    formed_fieldsWritten parsed fun _ => formed_valueWritten, fun _ absent =>
      absurd absent not_mem_nil⟩

theorem formed_modelWritten {data : ModelDeclarationData} :
    (modelWritten data).Formed (levels + 3) := by
  refine formed_compact ["name", "format", "precision", "input_shape", "output_shape",
    "backend_preference"] rfl (by decide)
    (by decide) ?_
  simp only [forall_mem_cons]
  exact ⟨trivial, trivial, trivial, trivial, trivial, forall_mem_map.mpr fun _ _ => trivial,
    nofun⟩

theorem formed_tensorWritten {data : TensorDeclarationData} :
    (tensorWritten data).Formed (levels + 2) := by
  refine formed_compact ["name", "element_type", "shape", "rank", "total_elements"] rfl (by decide)
    (by decide) ?_
  simp only [forall_mem_cons]
  exact ⟨trivial, trivial, trivial, .inl (scanNumber_intText _), .inl (scanNumber_intText _),
    nofun⟩

theorem formed_inferWritten {call : Bytes × Bytes × Bytes} :
    (inferWritten call).Formed (levels + 2) := by
  refine formed_compact ["model", "input", "output"] rfl (by decide)
    (by decide) ?_
  simp only [forall_mem_cons]
  exact ⟨trivial, trivial, trivial, nofun⟩

theorem formed_measurementWritten {data : GreenAIMeasurementData}
    (prints : host.Prints N) : (measurementWritten host data).Formed (levels + 2) := by
  refine formed_compact ["workload", "backend", "inferences", "watts", "seconds"] rfl (by decide)
    (by decide) ?_
  simp only [forall_mem_cons]
  exact ⟨trivial, trivial, .inl (scanNumber_intText _), .inl (prints.doubles _).1,
    .inl (prints.doubles _).1, nofun⟩

theorem formed_reportWritten (prints : host.Prints N) (parsed : collection.Parsed) :
    (reportWritten host collection).Formed (kMaxJsonDepth + 1) := by
  have blank := constantsClean.margins
  refine ⟨blank.1, blank.2.1, blank.2.2, ?_, ?_, ?_⟩
  · refine forall_mem_map.mpr fun member listed => reportTexts.clean member.1 ?_
    exact mem_map_of_mem listed
  · have renamed := reportTexts.distinct.map ascii_injective
    exact renamed
  refine forall_mem_map.mpr (forall_mem_append.mpr ⟨?_, ?_⟩)
  · have doubles : ∀ value, (number (host.doubleText value)).Formed 64 := fun value =>
      .inl (prints.doubles value).1
    have zero : (number (intText 0)).Formed 64 := .inl (scanNumber_intText 0)
    simp only [reportMembers, forall_mem_cons]
    refine ⟨trivial, trivial, trivial, trivial, trivial, trivial, trivial, trivial, trivial, trivial,
      forall_mem_map.mpr fun data listed => @formed_c3ecoWritten 58 _
        (parsed.declarations data listed), trivial, trivial, trivial, trivial, trivial, doubles _,
      doubles _, doubles _, trivial, trivial, trivial, trivial, zero, zero, trivial,
      forall_mem_map.mpr fun _ _ => @formed_modelWritten 60 _,
      forall_mem_map.mpr fun _ _ => @formed_tensorWritten 61 _,
      forall_mem_map.mpr fun _ _ => @formed_inferWritten 61 _,
      forall_mem_map.mpr fun _ _ => @formed_measurementWritten _ _ 61 _ prints,
      forall_mem_map.mpr fun _ _ => trivial, trivial, forall_mem_singleton.mpr trivial,
      forall_mem_cons.mpr ⟨trivial, forall_mem_singleton.mpr trivial⟩,
      nofun⟩
  · exact forall_mem_singleton.mpr trivial

end Consumable

/-- A source file, and a stream that prints integral numbers in full. -/
def plainHost : EmitterHost := ⟨ascii "demo.sh", intText⟩

theorem intText_eq_text (value : Int) : intText value = Quotient.text value := by
  cases value with
  | ofNat magnitude =>
    have text : intText (Int.ofNat magnitude) = Quotient.digitsOf magnitude := ascii_repr magnitude
    rw [text]
    simp [Quotient.text, Quotient.pointed]
  | negSucc magnitude =>
    have parts : intText (Int.negSucc magnitude) = ascii ("-" ++ (magnitude + 1).repr) := rfl
    have negative : ((Int.negSucc magnitude : Int) : ℚ) < 0 := by
      exact_mod_cast Int.negSucc_lt_zero magnitude
    rw [parts, ascii_append, ascii_repr, Quotient.text, if_pos negative, Quotient.pointed,
      Rat.den_intCast, if_pos rfl, Rat.num_intCast, append_nil]
    rfl

theorem plainHost_prints : plainHost.Prints Quotient.numerals.numerals := by
  have read : ∀ value, (Quotient.numerals.numerals.read (intText value)).isSome = true := by
    intro value
    rw [intText_eq_text]
    exact Option.isSome_iff_exists.mpr ⟨_, Quotient.read_text value⟩
  exact ⟨fun value => ⟨scanNumber_intText value, read value⟩, read⟩

/-- `tensor t fp32 "1,<tab>2";` -/
def tabbedProgram : Program evidenceHost where
  globals := {}
  functions := []
  code := [.ai (.tensor { name := ascii "t", elementType := ascii "fp32", shapeCsv := ascii "1,\t2"
                          rank := 2, totalElements := 2 })]
  undeclared := by simp [Stmt.isDeclaration]

/-- A contract and a declaration with backslashes and a newline in their strings. -/
def quotedStatements : List AiStatement :=
  [.contract { name := ascii "c", functionalUnit := ascii "one \\ \n request", carbonFactor := 1
               successCriteria := ascii "ok", measurementQuality := ascii "MQ1"
               dataQuality := ascii "DQ1", claimsMode := ascii "evidence_only"
               hasFunctionalUnit := true, hasSuccessCriteria := true, hasBoundary := true
               hasMq := true, hasDq := true, hasCarbonFactor := true, hasQualityGuardrail := true },
    .c3eco { kind := .boundary, name := ascii "b"
             fields := [⟨ascii "include", [⟨.string, ascii "a\\b"⟩, ⟨.integer, intText 3⟩,
               ⟨.boolean, boolText true⟩, ⟨.identifier, ascii "compute"⟩]⟩] }]

def quotedProgram : Program evidenceHost where
  globals := {}
  functions := []
  code := quotedStatements.map .ai
  undeclared := forall_mem_map.mpr fun _ _ => rfl

end ShortHand.Evidence
