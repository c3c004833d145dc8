import Mathlib.Data.Rat.Floor
import Mathlib.Tactic.FieldSimp
import Mathlib.Tactic.Positivity
import ShortHand.Evidence.Quotient

/-! The check of a measurement document by the assessment, and which printed workbooks
pass it. -/

namespace ShortHand.Evidence

open ShortHand.Library
open List (forall_mem_cons map_append map_cons map_map map_nil mem_map mem_map_of_mem)
open Workbook

variable {exact_ : ExactNumerals}

abbrev Measured (exact_ : ExactNumerals) := Json exact_.numerals

def requireNonemptyJsonString (object : Measured exact_) (key : String) : Except String Unit := do
  require (!(← jsonString object key).isEmpty) ("JSON string member must be non-empty: " ++ key)

def hasNonWhitespace (value : Bytes) : Bool :=
  value.any fun byte => !([32, 9, 13, 10, 12, 11] : List Byte).contains byte

def hasEvidence (value : Bytes) : Bool :=
  hasNonWhitespace value && value ≠ ascii "-" && value ≠ ascii "none"

def reconciles (left right : ℚ) : Bool :=
  |left - right| ≤ max 1 (max |left| |right|) * kEpsilon

structure MeasurementEvidence where
  measurementQuality : Nat
  dataQuality : Nat
  uncertaintyPercent : ℚ

def workbookQualityRank (value : Bytes) : Except String Nat :=
  if value = ascii "high" then .ok 3
  else if value = ascii "medium" then .ok 2
  else if value = ascii "low" then .ok 1
  else .error "measurement.json MQ/DQ must be high, medium or low"

def recordKeys : List String := [
  "allocated_it_energy_j", "allocation_fraction", "calibration_date", "calibration_id",
  "carbon_factor_gco2e_per_kwh", "carbon_kgco2e", "component", "cost", "data_quality",
  "evidence_ref", "facility_energy_kwh", "factor_date", "factor_source", "instrument_id",
  "measured_at", "measurement_quality", "pue", "raw_energy_j", "record_id", "source_kind",
  "tariff_currency", "tariff_per_kwh", "tariff_source", "uncertainty_carbon_kgco2e",
  "uncertainty_kwh", "uncertainty_percent"]

def topLevelKeys : List String := [
  "allocation_policy", "base_footprint_not_reduced_by_offsets", "claim_safe_text",
  "measurement_status", "next_qualification", "official_certification_granted", "record_count",
  "records", "schema", "totals"]

def totalKeys : List String := [
  "allocated_it_energy_j", "carbon_kgco2e", "cost_by_currency", "facility_energy_kwh",
  "uncertainty_carbon_kgco2e", "uncertainty_kwh"]

/-- The state of the loop over the records. -/
structure Validation where
  ids : List Bytes
  allocation : AllocationKey → ℚ
  totals : Totals
  evidence : MeasurementEvidence

/-- The identifier of a record that is new, of a component and instrumented. -/
def recordIdentity (ids : List Bytes) (record : Measured exact_) : Except String Bytes := do
  requireExactKeys record recordKeys "measurement.json record"
  let id ← jsonString record "record_id"
  require (!id.isEmpty && !ids.contains id)
    "measurement.json record_id values must be non-empty and unique"
  requireNonemptyJsonString record "component"
  require ((["physical_meter", "rapl", "accelerator_counter", "cloud_meter"].map ascii).contains
      (← jsonString record "source_kind"))
    "measurement.json records must use instrumented source kinds"
  return id

structure Provenance where
  instrument : Bytes
  calibration : Bytes
  calibrationDate : Bytes
  measuredAt : Bytes
  factorSource : Bytes
  factorDate : Bytes
  tariffCurrency : Bytes
  tariffSource : Bytes
  evidence : Bytes

variable (record : Measured exact_)

def readProvenance : Except String Provenance := do
  let instrument ← jsonString record "instrument_id"
  let calibration ← jsonString record "calibration_id"
  let calibrationDate ← jsonString record "calibration_date"
  let measuredAt ← jsonString record "measured_at"
  let factorSource ← jsonString record "factor_source"
  let factorDate ← jsonString record "factor_date"
  let tariffCurrency ← jsonString record "tariff_currency"
  let tariffSource ← jsonString record "tariff_source"
  let evidence ← jsonString record "evidence_ref"
  return { instrument, calibration, calibrationDate, measuredAt, factorSource, factorDate,
           tariffCurrency, tariffSource, evidence }

def checkProvenance (provenance : Provenance) : Except String Unit := do
  require (!provenance.instrument.isEmpty && !provenance.calibration.isEmpty &&
      !provenance.factorSource.isEmpty && !provenance.tariffSource.isEmpty &&
      hasEvidence provenance.evidence)
    "measurement.json record provenance fields are required"
  require (validIsoDate provenance.calibrationDate && validIsoDate provenance.factorDate &&
      10 ≤ provenance.measuredAt.length && validIsoDate (provenance.measuredAt.take 10))
    "measurement.json record dates are invalid"
  require (provenance.calibrationDate ≤ provenance.measuredAt.take 10)
    "measurement.json calibration cannot post-date measurement"
  require (provenance.factorDate ≤ provenance.measuredAt.take 10)
    "measurement.json carbon factor cannot post-date measurement"

structure Accounting where
  rawEnergy : ℚ
  allocationFraction : ℚ
  itEnergy : ℚ
  pue : ℚ
  facilityEnergy : ℚ
  carbonFactor : ℚ
  carbon : ℚ
  tariff : ℚ
  cost : ℚ
  uncertaintyPercent : ℚ
  uncertainty : ℚ
  carbonUncertainty : ℚ

def readAccounting : Except String Accounting := do
  let rawEnergy ← jsonNumber record "raw_energy_j"
  let allocationFraction ← jsonNumber record "allocation_fraction"
  let itEnergy ← jsonNumber record "allocated_it_energy_j"
  let pue ← jsonNumber record "pue"
  let facilityEnergy ← jsonNumber record "facility_energy_kwh"
  let carbonFactor ← jsonNumber record "carbon_factor_gco2e_per_kwh"
  let carbon ← jsonNumber record "carbon_kgco2e"
  let tariff ← jsonNumber record "tariff_per_kwh"
  let cost ← jsonNumber record "cost"
  let uncertaintyPercent ← jsonNumber record "uncertainty_percent"
  let uncertainty ← jsonNumber record "uncertainty_kwh"
  let carbonUncertainty ← jsonNumber record "uncertainty_carbon_kgco2e"
  return { rawEnergy, allocationFraction, itEnergy, pue, facilityEnergy, carbonFactor, carbon,
           tariff, cost, uncertaintyPercent, uncertainty, carbonUncertainty }

def checkAccounting (values : Accounting) (currency : Bytes) : Except String Unit := do
  require (0 < values.rawEnergy && 0 < values.allocationFraction && values.allocationFraction ≤ 1)
    "measurement.json raw energy/allocation values are invalid"
  require (0 < values.itEnergy && 0 < values.facilityEnergy && 0 < values.carbon)
    "measurement.json record accounting values must be positive"
  require (1 ≤ values.pue && values.pue ≤ 3) "measurement.json pue must be in [1,3]"
  require (0 < values.carbonFactor && values.carbonFactor ≤ 2500)
    "measurement.json carbon factor is outside the bounded range"
  require (0 ≤ values.tariff && values.tariff ≤ 10000 && currency.length = 3 && 0 ≤ values.cost)
    "measurement.json tariff values are invalid"
  require (currency.all isUpper)
    "measurement.json tariff currency must be three uppercase ASCII letters"
  require (0 ≤ values.uncertaintyPercent && values.uncertaintyPercent ≤ 100 &&
      0 ≤ values.uncertainty && 0 ≤ values.carbonUncertainty)
    "measurement.json uncertainty values are invalid"

/-- The ranks of the two qualities of a record. -/
def recordQualities : Except String (Nat × Nat) := do
  let measurement ← jsonString record "measurement_quality"
  require ((["high", "medium", "low"].map ascii).contains measurement)
    "measurement.json MQ/DQ must be high, medium or low"
  let data ← jsonString record "data_quality"
  require ((["high", "medium", "low"].map ascii).contains data)
    "measurement.json MQ/DQ must be high, medium or low"
  return (← workbookQualityRank measurement, ← workbookQualityRank data)

def reconcileRecord (values : Accounting) (id : Bytes) : Except String Unit := do
  let check (left right : ℚ) (subject : String) : Except String Unit :=
    require (reconciles left right)
      ("measurement.json " ++ subject ++ " does not reconcile within record " ++ shown id)
  check values.itEnergy (values.rawEnergy * values.allocationFraction) "allocated IT energy"
  check values.facilityEnergy (values.itEnergy * values.pue / 3600000) "facility energy"
  check values.carbon (values.facilityEnergy * values.carbonFactor / 1000) "carbon"
  check values.cost (values.facilityEnergy * values.tariff) "cost"
  check values.uncertainty (values.facilityEnergy * values.uncertaintyPercent / 100) "uncertainty"
  check values.carbonUncertainty (values.carbon * values.uncertaintyPercent / 100)
    "carbon uncertainty"

/-- The share of a reading, added to the shares of the same one. -/
def allocateRecord (allocation : AllocationKey → ℚ) (key : AllocationKey) (fraction : ℚ) :
    Except String (AllocationKey → ℚ) := do
  let grown := credit allocation key fraction
  require (grown key ≤ 1 + kEpsilon)
    "measurement.json double counting detected for shared instrument evidence"
  return grown

def sumRecord (totals : Totals) (values : Accounting) (currency : Bytes) : Totals where
  itJ := totals.itJ + values.itEnergy
  facilityKwh := totals.facilityKwh + values.facilityEnergy
  carbonKg := totals.carbonKg + values.carbon
  uncertaintyKwh := totals.uncertaintyKwh + values.uncertainty
  uncertaintyCarbon := totals.uncertaintyCarbon + values.carbonUncertainty
  cost := accrue totals.cost currency values.cost

def validateRecord (state : Validation) (record : Measured exact_) : Except String Validation := do
  let id ← recordIdentity state.ids record
  let provenance ← readProvenance record
  checkProvenance provenance
  let values ← readAccounting record
  checkAccounting values provenance.tariffCurrency
  let ranks ← recordQualities record
  reconcileRecord values id
  let allocation ← allocateRecord state.allocation
    (provenance.instrument, provenance.measuredAt, values.rawEnergy, provenance.evidence)
    values.allocationFraction
  return {
    ids := state.ids ++ [id]
    allocation
    totals := sumRecord state.totals values provenance.tariffCurrency
    evidence := {
      measurementQuality := min state.evidence.measurementQuality ranks.1
      dataQuality := min state.evidence.dataQuality ranks.2
      uncertaintyPercent := max state.evidence.uncertaintyPercent values.uncertaintyPercent } }

variable (measurement : Measured exact_)

/-- The members in front of the records. -/
def checkHeader : Except String Unit := do
  requireExactKeys measurement topLevelKeys "measurement.json"
  require ((← jsonString measurement "schema") = ascii "shorthand.c3eco.measurement_workbook.v1")
    "measurement.json must use shorthand.c3eco.measurement_workbook.v1"
  require ((← jsonString measurement "measurement_status") = ascii "measured_instrumented")
    "measurement.json must contain instrumented measured evidence"
  require (!(← jsonBoolean measurement "official_certification_granted"))
    "measurement.json must not claim official certification"
  require (← jsonBoolean measurement "base_footprint_not_reduced_by_offsets")
    "measurement.json must keep offsets outside the base footprint"
  requireNonemptyJsonString measurement "allocation_policy"
  requireNonemptyJsonString measurement "claim_safe_text"
  requireNonemptyJsonString measurement "next_qualification"

/-- The stated totals; the costs are left to the end. -/
structure Stated (exact_ : ExactNumerals) where
  itEnergy : ℚ
  facilityEnergy : ℚ
  carbon : ℚ
  uncertainty : ℚ
  carbonUncertainty : ℚ
  costs : Measured exact_

def readTotals : Except String (Stated exact_) := do
  let totals ← jsonMember measurement "totals"
  requireExactKeys totals totalKeys "measurement.json totals"
  let itEnergy ← jsonNumber totals "allocated_it_energy_j"
  let facilityEnergy ← jsonNumber totals "facility_energy_kwh"
  let carbon ← jsonNumber totals "carbon_kgco2e"
  let uncertainty ← jsonNumber totals "uncertainty_kwh"
  let carbonUncertainty ← jsonNumber totals "uncertainty_carbon_kgco2e"
  require (0 < itEnergy) "measurement.json allocated IT energy must be positive"
  require (0 < facilityEnergy) "measurement.json facility energy must be positive"
  require (0 < carbon) "measurement.json carbon must be positive"
  require (0 ≤ uncertainty && 0 ≤ carbonUncertainty)
    "measurement.json uncertainty totals cannot be negative"
  let costs ← jsonMember totals "cost_by_currency"
  require (match costs with | .object _ => true | _ => false)
    "measurement.json cost_by_currency must be an object"
  return { itEnergy, facilityEnergy, carbon, uncertainty, carbonUncertainty, costs }

/-- The cost of one currency. -/
def reconcileCost (members : List (Bytes × Measured exact_)) (entry : Bytes × ℚ) :
    Except String Unit :=
  require (match members.lookup entry.1 with
      | some (.number stated) => 0 ≤ stated && reconciles stated entry.2
      | _ => false)
    ("measurement.json cost does not reconcile for currency " ++ shown entry.1)

def reconcileTotals (stated : Stated exact_) (summed : Totals) : Except String Unit := do
  let check (left right : ℚ) (subject : String) : Except String Unit :=
    require (reconciles left right)
      ("measurement.json " ++ subject ++ " does not reconcile with records")
  check summed.itJ stated.itEnergy "allocated IT energy"
  check summed.facilityKwh stated.facilityEnergy "facility energy"
  check summed.carbonKg stated.carbon "carbon"
  check summed.uncertaintyKwh stated.uncertainty "uncertainty"
  check summed.uncertaintyCarbon stated.carbonUncertainty "carbon uncertainty"
  let members := match stated.costs with | .object members => members | _ => []
  require (members.length = summed.cost.entries.length)
    "measurement.json cost currencies do not reconcile with records"
  summed.cost.entries.forM (reconcileCost members)

def validateMeasurement : Except String MeasurementEvidence := do
  checkHeader measurement
  let recordCount ← jsonNumber measurement "record_count"
  require (1 ≤ recordCount && (⌊recordCount⌋ : ℚ) = recordCount)
    "measurement.json record_count must be a positive integer"
  let stated ← readTotals measurement
  let records ← jsonMember measurement "records"
  require (isArray records) "measurement.json records must be an array"
  require (recordCount = (itemsOf records).length)
    "measurement.json record_count must equal records length"
  let state ← (itemsOf records).foldlM validateRecord ⟨[], fun _ => 0, .zero, ⟨4, 4, 0⟩⟩
  reconcileTotals stated state.totals
  return state.evidence

section Records

variable {record : Derived}

theorem jsonNumber_object (distinct : Distinct fields) (member : (key, .number value) ∈ fields) :
    jsonNumber (object fields) key = .ok value := by
  rw [jsonNumber, jsonMember_object distinct member]
  rfl

/-- The field is read back under its name. -/
def ReadBack (source : Measured exact_) (field : String × Cell) : Prop :=
  match field.2 with
  | .text value => jsonString source field.1 = .ok value
  | .number value => jsonNumber source field.1 = .ok value
  | .flag value => jsonBoolean source field.1 = .ok value

theorem readBack_object (distinct : Distinct fields) (member : (name, cell.json) ∈ fields) :
    ReadBack (object fields : Measured exact_) (name, cell) := by
  cases cell with
  | text value => exact jsonString_object distinct member
  | number value => exact jsonNumber_object distinct member
  | flag value => exact jsonBoolean_object distinct member

theorem record_cells : ∀ field ∈ recordCells record, ReadBack (recordJson exact_ record) field :=
  fun _ isCell => readBack_object recordFields_distinct
    (mem_map.mpr ⟨_, mem_map_of_mem isCell, rfl⟩)

theorem record_keys : requireExactKeys (recordJson exact_ record) recordKeys
    "measurement.json record" = .ok () :=
  requireExactKeys_object recordFields_distinct rfl
    (show ∀ key ∈ recordKeys, key ∈ recordNames by decide)

def provenanceOf (row : Row) : Provenance where
  instrument := row.instrumentId
  calibration := row.calibrationId
  calibrationDate := row.calibrationDate
  measuredAt := row.measuredAt
  factorSource := row.factorSource
  factorDate := row.factorDate
  tariffCurrency := row.tariffCurrency
  tariffSource := row.tariffSource
  evidence := row.evidenceRef

def accountingOf (record : Derived) : Accounting where
  rawEnergy := record.row.rawEnergyJ
  allocationFraction := record.row.allocationFraction
  itEnergy := record.allocatedItJ
  pue := record.row.pue
  facilityEnergy := record.facilityKwh
  carbonFactor := record.row.carbonFactor
  carbon := record.carbonKg
  tariff := record.row.tariffPerKwh
  cost := record.cost
  uncertaintyPercent := record.row.uncertaintyPercent
  uncertainty := record.uncertaintyKwh
  carbonUncertainty := record.uncertaintyCarbonKg

theorem readProvenance_record :
    readProvenance (recordJson exact_ record) = .ok (provenanceOf record.row) := by
  have cells := @record_cells exact_ record
  simp only [recordCells, forall_mem_cons, ReadBack] at cells
  obtain ⟨_, _, _, instrument, calibration, calibrationDate, measuredAt, _, _, _, _, _, _,
    factorSource, factorDate, _, _, tariffCurrency, tariffSource, _, _, _, _, _, _, evidence, _⟩ :=
    cells
  simp only [readProvenance, instrument, calibration, calibrationDate, measuredAt, factorSource,
    factorDate, tariffCurrency, tariffSource, evidence]
  rfl

theorem readAccounting_record :
    readAccounting (recordJson exact_ record) = .ok (accountingOf record) := by
  have cells := @record_cells exact_ record
  simp only [recordCells, forall_mem_cons, ReadBack] at cells
  obtain ⟨_, _, _, _, _, _, _, rawEnergy, fraction, itEnergy, pue, facilityEnergy, carbonFactor,
    _, _, carbon, tariff, _, _, cost, percent, uncertainty, carbonUncertainty, _⟩ := cells
  simp only [readAccounting, rawEnergy, fraction, itEnergy, pue, facilityEnergy, carbonFactor,
    carbon, tariff, cost, percent, uncertainty, carbonUncertainty]
  rfl

theorem recordIdentity_record (valid : record.row.Valid) (fresh : record.row.recordId ∉ ids) :
    recordIdentity ids (recordJson exact_ record) = .ok record.row.recordId := by
  have cells := @record_cells exact_ record
  simp only [recordCells, forall_mem_cons, ReadBack] at cells
  obtain ⟨id, component, sourceKind, _⟩ := cells
  have source := valid.sourceKind
  simp only [recordIdentity, requireNonemptyJsonString, record_keys, id, component, sourceKind,
    bind_eq_ok, require_eq_ok]
  refine ⟨(), trivial, _, rfl, (), ?_, (), ⟨_, rfl, ?_⟩, _, rfl, (), ?_, rfl⟩
  · simp [valid.recordId, fresh]
  · simp [valid.component]
  · exact List.contains_iff_mem.mpr source

theorem recordQualities_record (valid : record.row.Valid) :
    ∃ ranks, recordQualities (recordJson exact_ record) = .ok ranks := by
  have cells := @record_cells exact_ record
  simp only [recordCells, forall_mem_cons, ReadBack] at cells
  obtain ⟨_, _, _, _, _, _, _, _, _, _, _, _, _, _, _, _, _, _, _, _, _, _, _, measurement, data, _⟩ :=
    cells
  have ranked : ∀ value ∈ qualities, ∃ rank, workbookQualityRank value = .ok rank := by
    have known : ∀ value ∈ qualities, (workbookQualityRank value).isOk = true := by
      decide +kernel
    intro value isQuality
    exact ⟨_, eq_ok_valueOr 0 (known value isQuality)⟩
  obtain ⟨first, isFirst⟩ := ranked _ valid.measurementQuality
  obtain ⟨second, isSecond⟩ := ranked _ valid.dataQuality
  refine ⟨(first, second), ?_⟩
  simp only [recordQualities, measurement, data, bind_eq_ok, require_eq_ok]
  exact ⟨_, rfl, (), List.contains_iff_mem.mpr valid.measurementQuality, _, rfl, (),
    List.contains_iff_mem.mpr valid.dataQuality, first, isFirst, second, isSecond, rfl⟩

end Records

section Checks

variable {row : Row}

theorem checkProvenance_iff (valid : row.Valid) :
    checkProvenance (provenanceOf row) = .ok () ↔ hasEvidence row.evidenceRef = true := by
  have long : ¬row.measuredAt.length < 10 := by
    intro short
    have date := valid.measuredDate
    rw [datePart, if_pos short] at date
    cases date
  have date : datePart row.measuredAt = row.measuredAt.take 10 := if_neg long
  have calibrated := valid.calibrated
  have factored := valid.factored
  have measured := valid.measuredDate
  have calibration := valid.calibrationDate
  have factor := valid.factorDate
  rw [date] at calibrated factored measured
  rw [validDate_eq] at measured calibration factor
  simp only [checkProvenance, provenanceOf, bind_eq_ok, require_eq_ok]
  simp [valid.instrumentId, valid.calibrationId, valid.factorSource, valid.tariffSource, calibrated,
    factored, measured, calibration, factor, not_lt.mp long]

theorem reconciles_self (value : ℚ) : reconciles value value = true := by
  have scale : (0 : ℚ) ≤ max 1 (max |value| |value|) * kEpsilon :=
    mul_nonneg (le_max_of_le_left zero_le_one) (by decide +kernel)
  simpa [reconciles] using scale

/-- What is derived from a valid row is in its range. -/
structure InRange (record : Derived) : Prop where
  itEnergy : 0 < record.allocatedItJ
  facility : 0 < record.facilityKwh
  carbon : 0 < record.carbonKg
  cost : 0 ≤ record.cost
  uncertainty : 0 ≤ record.uncertaintyKwh
  carbonUncertainty : 0 ≤ record.uncertaintyCarbonKg

theorem deriveRow_inRange (valid : row.Valid) : InRange (deriveRow row) := by
  have raw := valid.rawEnergyJ
  have fraction := valid.allocationFraction.1
  have pue := lt_of_lt_of_le zero_lt_one valid.pue.1
  have factor := valid.carbonFactor.1
  have tariff := valid.tariffPerKwh.1
  have percent := valid.uncertaintyPercent.1
  unfold deriveRow
  constructor <;> positivity

theorem checkAccounting_iff (valid : row.Valid) :
    checkAccounting (accountingOf (deriveRow row)) row.tariffCurrency = .ok () ↔
      row.tariffCurrency.all isUpper = true := by
  have range := deriveRow_inRange valid
  simp only [checkAccounting, bind_eq_ok, require_eq_ok]
  simp only [accountingOf, range.itEnergy, range.facility, range.carbon, range.cost,
    range.uncertainty, range.carbonUncertainty, Bool.and_eq_true, decide_eq_true_eq, true_and,
    and_true, exists_and_left, exists_const]
  have ofRow : (deriveRow row).row = row := rfl
  simp only [ofRow, valid.rawEnergyJ, valid.allocationFraction, valid.pue, valid.carbonFactor,
    valid.tariffPerKwh, valid.tariffCurrency, valid.uncertaintyPercent, and_self, decide_true,
    true_and, and_true]

theorem reconcileRecord_derived {id : Bytes} :
    reconcileRecord (accountingOf (deriveRow row)) id = .ok () := by
  simp only [reconcileRecord, bind_eq_ok, require_eq_ok]
  refine ⟨(), reconciles_self _, (), reconciles_self _, (), reconciles_self _, (),
    reconciles_self _, (), ?_, ?_⟩
  · rw [mul_div_assoc]
    exact reconciles_self _
  · rw [mul_div_assoc]
    exact reconciles_self _

end Checks

section Document

variable {rows : List Row} {contents : Bytes}

/-- The state after some records. -/
def Summed (records : List Derived) (state : Validation) : Prop :=
  state.ids = records.map (·.row.recordId) ∧
    state.allocation = totalOf (·.row.allocationKey) (·.row.allocationFraction) records ∧
    state.totals = totalsOf records

/-- What the assessment requires of a row beyond the requirements of `load`. -/
def Admissible (row : Row) : Prop :=
  hasEvidence row.evidenceRef = true ∧ row.tariffCurrency.all isUpper = true

theorem validateRecord_admissible (valid : row.Valid)
    (passed : validateRecord state (recordJson exact_ (deriveRow row)) = .ok after) :
    Admissible row := by
  simp only [validateRecord, readProvenance_record, readAccounting_record, bind_eq_ok] at passed
  obtain ⟨_, _, provenance, isProvenance, _, checked, values, isValues, _, accounted, _⟩ := passed
  cases isProvenance
  cases isValues
  exact ⟨(checkProvenance_iff valid).mp checked, (checkAccounting_iff valid).mp accounted⟩

theorem validateRecord_derived
    (valid : row.Valid) (admissible : Admissible row) (summed : Summed earlier state)
    (fresh : row.recordId ∉ earlier.map (·.row.recordId))
    (share : totalOf (·.row.allocationKey) (·.row.allocationFraction)
      (earlier ++ [deriveRow row]) row.allocationKey ≤ 1 + kEpsilon) :
    ∃ after, validateRecord state (recordJson exact_ (deriveRow row)) = .ok after ∧
      Summed (earlier ++ [deriveRow row]) after := by
  obtain ⟨ids, allocation, totals⟩ := summed
  obtain ⟨ranks, isRanks⟩ := @recordQualities_record exact_ (deriveRow row) valid
  have identity := @recordIdentity_record exact_ (deriveRow row) state.ids valid
    (by rw [ids]; exact fresh)
  have provenance := (checkProvenance_iff valid).mpr admissible.1
  have accounting := (checkAccounting_iff valid).mpr admissible.2
  have grown : credit state.allocation row.allocationKey row.allocationFraction =
      totalOf (·.row.allocationKey) (·.row.allocationFraction)
        (earlier ++ [deriveRow row]) := by
    rw [allocation, totalOf_concat]
    rfl
  have allocated : allocateRecord state.allocation row.allocationKey row.allocationFraction =
      .ok (credit state.allocation row.allocationKey row.allocationFraction) := by
    simp only [allocateRecord, bind_eq_ok, require_eq_ok, decide_eq_true_eq]
    exact ⟨(), grown ▸ share, rfl⟩
  let after : Validation := {
    ids := state.ids ++ [row.recordId]
    allocation := credit state.allocation row.allocationKey row.allocationFraction
    totals := state.totals.add (deriveRow row)
    evidence := {
      measurementQuality := min state.evidence.measurementQuality ranks.1
      dataQuality := min state.evidence.dataQuality ranks.2
      uncertaintyPercent := max state.evidence.uncertaintyPercent row.uncertaintyPercent } }
  refine ⟨after, ?_, ?_, grown, ?_⟩
  · simp only [validateRecord, identity, readProvenance_record, readAccounting_record, isRanks,
      bind_eq_ok]
    exact ⟨_, rfl, _, rfl, (), provenance, _, rfl, (), accounting, _, rfl, (),
      reconcileRecord_derived, _, allocated, rfl⟩
  · simp [after, ids, deriveRow]
  · simp only [after, totals, totalsOf, List.foldl_append, List.foldl_cons, List.foldl_nil]

/-- The records of an accepted table pass when its rows are admissible. -/
theorem validateRecords_derived (loaded : Loaded contents rows)
    (admissible : ∀ row ∈ rows, Admissible row) :
    ∃ final, ((derive rows).map (recordJson exact_)).foldlM validateRecord
      ⟨[], fun _ => 0, .zero, ⟨4, 4, 0⟩⟩ = .ok final ∧ Summed (derive rows) final := by
  rw [derive, map_map, List.foldlM_map]
  refine @exists_foldlM_of_invariant _ _ _ _ _ _
    (fun earlier => Summed (earlier.map deriveRow)) ?_ ?_
  · exact ⟨rfl, rfl, rfl⟩
  intro earlier row later whole before summed
  have inside : row ∈ rows := whole ▸ List.mem_append_right _ List.mem_cons_self
  have fresh : row.recordId ∉ earlier.map Row.recordId := by
    have distinct := loaded.distinct
    rw [whole, map_append, List.nodup_append] at distinct
    exact fun earlierId => distinct.2.2 _ earlierId _ List.mem_cons_self rfl
  have share : totalOf Row.allocationKey Row.allocationFraction (earlier ++ [row])
      row.allocationKey ≤ 1 + kEpsilon := by
    have parts : rows = (earlier ++ [row]) ++ later := by simp [whole]
    refine le_trans (totalOf_le_append fun other isLater => ?_) (parts ▸ loaded.shares _)
    exact (loaded.valid other (parts ▸ List.mem_append_right _ isLater)).allocationFraction.1.le
  have step := @validateRecord_derived exact_ row (earlier.map deriveRow) before
    (loaded.valid row inside) (admissible row inside) summed
    (by rw [map_map]; exact fresh)
    (by rw [← List.map_singleton, ← map_append, totalOf_map]; exact share)
  rwa [map_append]

/-- Totals of valid rows are in their range. -/
structure Sums (totals : Totals) : Prop where
  itEnergy : 0 < totals.itJ
  facility : 0 < totals.facilityKwh
  carbon : 0 < totals.carbonKg
  uncertainty : 0 ≤ totals.uncertaintyKwh
  carbonUncertainty : 0 ≤ totals.uncertaintyCarbon
  cost : ∀ entry ∈ totals.cost.entries, 0 ≤ entry.2

theorem accrue_nonnegative (known : ∀ entry ∈ amounts.entries, 0 ≤ entry.2)
    (nonnegative : 0 ≤ amount) : ∀ entry ∈ (accrue amounts key amount).entries, 0 ≤ entry.2 := by
  have before : 0 ≤ (amounts.find? key).getD 0 := by
    cases found : amounts.find? key with
    | none => exact le_refl _
    | some value => exact known _ (OrderedMap.find?_eq_some_iff.mp found)
  intro entry inside
  rcases List.mem_cons.mp (OrderedMap.insert_perm_filter.mem_iff.mp inside) with rfl | earlier
  · exact add_nonneg before nonnegative
  · exact known entry (List.mem_of_mem_filter earlier)

theorem totalsOf_sums (loaded : Loaded contents rows) :
    Sums (totalsOf (derive rows)) := by
  obtain ⟨row, later, rfl⟩ := List.exists_cons_of_ne_nil loaded.nonempty
  have range : ∀ other ∈ row :: later, InRange (deriveRow other) :=
    fun other inside => deriveRow_inRange (loaded.valid other inside)
  obtain ⟨first, rest⟩ := forall_mem_cons.mp range
  rw [totalsOf, derive, map_cons, List.foldl_cons]
  apply List.foldlRecOn (motive := Sums)
  · exact ⟨add_pos_of_nonneg_of_pos le_rfl first.itEnergy,
      add_pos_of_nonneg_of_pos le_rfl first.facility, add_pos_of_nonneg_of_pos le_rfl first.carbon,
      add_nonneg le_rfl first.uncertainty, add_nonneg le_rfl first.carbonUncertainty,
      accrue_nonnegative nofun first.cost⟩
  · intro totals sums record isRecord
    obtain ⟨other, isOther, rfl⟩ := mem_map.mp isRecord
    have this := rest other isOther
    exact ⟨add_pos sums.itEnergy this.itEnergy, add_pos sums.facility this.facility,
      add_pos sums.carbon this.carbon, add_nonneg sums.uncertainty this.uncertainty,
      add_nonneg sums.carbonUncertainty this.carbonUncertainty,
      accrue_nonnegative sums.cost this.cost⟩

section Members

variable {records : List Derived} {totals : Totals}

def statedOf (exact_ : ExactNumerals) (totals : Totals) : Stated exact_ where
  itEnergy := totals.itJ
  facilityEnergy := totals.facilityKwh
  carbon := totals.carbonKg
  uncertainty := totals.uncertaintyKwh
  carbonUncertainty := totals.uncertaintyCarbon
  costs := costsJson exact_ totals.cost

theorem document_member (member : (name, value) ∈ documentFields exact_ records) :
    jsonMember (documentJson exact_ records) name = .ok value :=
  jsonMember_object documentFields_distinct member

theorem document_array : jsonMember (documentJson exact_ records) "records" =
    .ok (.array (records.map (recordJson exact_))) :=
  document_member (by simp [documentFields, documentMembers,
    Workbook.Member.field])

/-- The members of fixed kind. -/
theorem document_cells :
    ∀ field ∈ headCells records.length ++ tailCells,
      ReadBack (documentJson exact_ records) field := by
  intro field isCell
  refine readBack_object documentFields_distinct (mem_map.mpr ⟨cellMember field, ?_, rfl⟩)
  rcases List.mem_append.mp isCell with head | tail
  · exact List.mem_append_left _ (List.mem_append_left _ (mem_map_of_mem head))
  · exact List.mem_append_right _ (mem_map_of_mem tail)

theorem checkHeader_document : checkHeader (documentJson exact_ records) = .ok () := by
  have keys : requireExactKeys (documentJson exact_ records) topLevelKeys
      "measurement.json" = .ok () :=
    requireExactKeys_object documentFields_distinct rfl
      (show ∀ key ∈ topLevelKeys, key ∈ documentNames by decide)
  have cells := @document_cells exact_ records
  simp only [headCells, tailCells, List.cons_append, List.nil_append, forall_mem_cons,
    ReadBack] at cells
  obtain ⟨schema, status, granted, offsets, policy, _, claim, next, _⟩ := cells
  simp only [checkHeader, requireNonemptyJsonString, keys, schema, status, granted, offsets, policy,
    claim, next, bind_eq_ok, require_eq_ok]
  refine ⟨(), trivial, _, rfl, (), ?_, _, rfl, (), ?_, _, rfl, (), rfl, _, rfl, (), rfl, (),
    ⟨_, rfl, ?_⟩, (), ⟨_, rfl, ?_⟩, _, rfl, ?_⟩
  · decide +kernel
  · decide +kernel
  · decide +kernel
  · decide +kernel
  · decide +kernel

theorem readTotals_document (sums : Sums (totalsOf records)) :
    readTotals (documentJson exact_ records) =
      .ok (statedOf exact_ (totalsOf records)) := by
  have member : jsonMember (documentJson exact_ records) "totals" =
      .ok (totalsJson exact_ (totalsOf records)) :=
    document_member (by simp [documentFields, documentMembers,
      Workbook.Member.field])
  have keys : requireExactKeys (totalsJson exact_ (totalsOf records)) totalKeys
      "measurement.json totals" = .ok () :=
    requireExactKeys_object totalsFields_distinct rfl
      (show ∀ key ∈ totalKeys, key ∈ totalNames by decide)
  have numbers : ∀ field ∈ totalCells (totalsOf records),
      ReadBack (totalsJson exact_ (totalsOf records)) field := fun field isCell =>
    readBack_object totalsFields_distinct (mem_map.mpr
      ⟨cellMember field, List.mem_append_left _ (mem_map_of_mem isCell), rfl⟩)
  have costs : jsonMember (totalsJson exact_ (totalsOf records))
      "cost_by_currency" = .ok (costsJson exact_ (totalsOf records).cost) :=
    jsonMember_object totalsFields_distinct (by simp [totalsFields,
      totalMembers, Workbook.Member.field])
  simp only [totalCells, forall_mem_cons, ReadBack] at numbers
  obtain ⟨itEnergy, facility, carbon, uncertainty, carbonUncertainty, _⟩ := numbers
  simp only [readTotals, member, bind_eq_ok, require_eq_ok]
  refine ⟨_, rfl, (), keys, _, itEnergy, _, facility, _, carbon, _, uncertainty, _,
    carbonUncertainty, (), ?_, (), ?_, (), ?_, (), ?_, _, costs, (), rfl, rfl⟩
  · simp [sums.itEnergy]
  · simp [sums.facility]
  · simp [sums.carbon]
  · simp [sums.uncertainty, sums.carbonUncertainty]

theorem reconcileTotals_self (sums : Sums totals) :
    reconcileTotals (statedOf exact_ totals) totals = .ok () := by
  let members : List (Bytes × Measured exact_) :=
    totals.cost.entries.map fun entry => (entry.1, .number entry.2)
  have keys : members.map Prod.fst = totals.cost.entries.map Prod.fst := by
    rw [map_map]
    rfl
  have costs : totals.cost.entries.forM (reconcileCost members) = .ok () := by
    refine forM_eq_ok.mpr fun entry inside => ?_
    have found : members.lookup entry.1 = some (.number entry.2) := by
      refine (lookup_eq_some_iff_mem ?_).mpr (mem_map.mpr ⟨entry, inside, rfl⟩)
      rw [keys]
      exact totals.cost.ordered.nodup
    simp [reconcileCost, found, sums.cost entry inside, reconciles_self, require]
  simp only [reconcileTotals, bind_eq_ok, require_eq_ok]
  refine ⟨(), reconciles_self _, (), reconciles_self _, (), reconciles_self _, (), reconciles_self _,
    (), reconciles_self _, (), ?_, costs⟩
  simp [statedOf, costsJson]

end Members

/-- A document of valid rows is accepted just when they are admissible. -/
theorem validateMeasurement_document (loaded : Loaded contents rows) :
    (∃ evidence, validateMeasurement (documentJson exact_ (derive rows)) =
      .ok evidence) ↔ ∀ row ∈ rows, Admissible row := by
  have cells := @document_cells exact_ (derive rows)
  simp only [headCells, List.cons_append, forall_mem_cons, ReadBack] at cells
  obtain ⟨_, _, _, _, _, count, _⟩ := cells
  have array := @document_array exact_ (derive rows)
  have sums := totalsOf_sums loaded
  constructor
  · rintro ⟨evidence, passed⟩ row isRow
    simp only [validateMeasurement, checkHeader_document, readTotals_document sums, count, array,
      bind_eq_ok] at passed
    obtain ⟨_, _, _, _, _, _, _, _, items, isItems, _, _, _, _, final, looped, _⟩ := passed
    cases isItems
    obtain ⟨before, after, step⟩ := foldlM_eq_ok_forall looped _
      (mem_map_of_mem (mem_map_of_mem isRow))
    exact validateRecord_admissible (loaded.valid row isRow) step
  · intro admissible
    obtain ⟨final, looped, _, _, totals⟩ := @validateRecords_derived exact_ rows contents loaded
      admissible
    have reconciled : reconcileTotals (statedOf exact_ (totalsOf (derive rows)))
        final.totals = .ok () := by
      rw [totals]
      exact reconcileTotals_self sums
    refine ⟨final.evidence, ?_⟩
    have positive : (1 : ℚ) ≤ (derive rows).length := by
      rw [derive, List.length_map]
      exact_mod_cast List.length_pos_iff.mpr loaded.nonempty
    simp only [validateMeasurement, checkHeader_document, readTotals_document sums, count, array,
      bind_eq_ok, require_eq_ok]
    refine ⟨(), trivial, _, rfl, (), ?_, _, rfl, _, rfl, (), rfl, (), ?_, final, looped, (), reconciled,
      rfl⟩
    · simp [positive]
    · simp [itemsOf]

end Document

/-- A line whose texts survive the document and meet the assessment's own requirements. -/
structure Portable (fields : List Bytes) : Prop where
  evidence : hasEvidence (column fields "evidence_ref") = true
  currency : (column fields "tariff_currency").all isUpper = true
  plain : ∀ name ∈ textNames, ∀ byte ∈ column fields name,
    32 ≤ byte ∨ isSpace byte = true

instance {fields : List Bytes} : Decidable (Portable fields) :=
  decidable_of_iff (hasEvidence (column fields "evidence_ref") = true ∧
      (column fields "tariff_currency").all isUpper = true ∧
      ∀ name ∈ textNames, ∀ byte ∈ column fields name,
        32 ≤ byte ∨ isSpace byte = true)
    ⟨fun ⟨evidence, currency, plain⟩ => ⟨evidence, currency, plain⟩,
      fun ⟨evidence, currency, plain⟩ => ⟨evidence, currency, plain⟩⟩

/-- The records of a document have the texts of the lines, in some order. -/
def KeepsTexts (document : Measured exact_) (contents : Bytes) : Prop :=
  ∃ records, jsonMember document "records" = .ok (.array records) ∧
    (records.map fun record => textNames.map (jsonString record)).Perm
      ((dataLines contents).map fun fields =>
        textNames.map fun name => .ok (column fields name))

theorem portable_iff (texts : textNames.map (column fields) = row.texts) :
    Portable fields ↔ Admissible row ∧ ∀ text ∈ row.texts, Plain text := by
  have plain : (∀ name ∈ textNames, ∀ byte ∈ column fields name,
      32 ≤ byte ∨ isSpace byte = true) ↔ ∀ text ∈ row.texts, Plain text := by
    rw [← texts, List.forall_mem_map]
    rfl
  simp only [textNames, Row.texts, map_cons, map_nil, List.cons.injEq] at texts
  obtain ⟨_, _, _, _, _, _, _, _, _, currency, _, _, _, evidence, _⟩ := texts
  rw [← plain, Admissible, ← currency, ← evidence]
  exact ⟨fun portable => ⟨⟨portable.evidence, portable.currency⟩, portable.plain⟩,
    fun held => ⟨held.1.1, held.1.2, held.2⟩⟩

theorem document_keepsTexts (loaded : Loaded contents rows) :
    KeepsTexts (documentJson exact_ (derive rows)) contents := by
  have record : ∀ record : Derived, textNames.map
      (jsonString (recordJson exact_ record)) = record.row.texts.map .ok := by
    intro record
    have cells := @record_cells exact_ record
    simp only [recordCells, forall_mem_cons, ReadBack] at cells
    simp only [textNames, map_cons, map_nil, cells]
    rfl
  refine ⟨_, document_array, ?_⟩
  have texts := loaded.texts.symm.map (List.map (@Except.ok String Bytes))
  simp only [map_map, Function.comp_def] at texts
  simp only [derive, map_map, Function.comp_def, record]
  exact texts

/-- The document printed for an accepted table is accepted, with its texts, just when
every line of the table is portable. -/
theorem workbook_accepted_iff {contents : Bytes} {rows : List Row}
    (loaded : load exact_ contents = .ok rows) :
    (∃ document evidence,
      parseJson exact_.numerals (writeJson exact_ (derive rows)) = .ok document ∧
        validateMeasurement document = .ok evidence ∧ KeepsTexts document contents) ↔
      ∀ fields ∈ dataLines contents, Portable fields := by
  have facts := load_eq_ok exact_ loaded
  have lines : (∀ fields ∈ dataLines contents, Portable fields) ↔
      ∀ row ∈ rows, Admissible row ∧ ∀ text ∈ row.texts, Plain text := by
    constructor
    · intro portable row isRow
      obtain ⟨fields, isLine, texts⟩ :=
        mem_map.mp (facts.texts.mem_iff.mpr (mem_map_of_mem isRow))
      exact (portable_iff texts).mp (portable fields isLine)
    · intro held fields isLine
      obtain ⟨row, isRow, texts⟩ :=
        mem_map.mp (facts.texts.mem_iff.mp (mem_map_of_mem isLine))
      exact (portable_iff texts.symm).mpr (held row isRow)
  rw [lines]
  constructor
  · rintro ⟨document, evidence, parsed, passed, _⟩
    have plain := plain_of_parseJson parsed
    rw [parseJson_writeJson plain] at parsed
    cases parsed
    have admissible := (validateMeasurement_document facts).mp ⟨evidence, passed⟩
    intro row isRow
    exact ⟨admissible row isRow, plain _ (mem_map_of_mem isRow)⟩
  · intro held
    have plain : ∀ record ∈ derive rows, ∀ text ∈ record.row.texts, Plain text := by
      intro record isRecord
      obtain ⟨row, isRow, rfl⟩ := mem_map.mp isRecord
      exact (held row isRow).2
    obtain ⟨evidence, passed⟩ :=
      (@validateMeasurement_document exact_ _ _ facts).mpr fun row isRow => (held row isRow).1
    exact ⟨_, evidence, parseJson_writeJson plain, passed, document_keepsTexts facts⟩

/-- A table of one reading, its tariff in the given currency. -/
def readingTable (currency : String) : Bytes :=
  ascii ("record_id\tcomponent\tsource_kind\tinstrument_id\tcalibration_id\tcalibration_date\t" ++
    "measured_at\traw_energy_j\tallocation_fraction\tpue\tcarbon_factor_gco2e_per_kwh\t" ++
    "factor_source\tfactor_date\ttariff_per_kwh\ttariff_currency\ttariff_source\t" ++
    "uncertainty_percent\tmeasurement_quality\tdata_quality\tevidence_ref\n" ++
    "r1\tserver\trapl\tmeter\tcal\t2024-01-01\t2024-02-01T00:00\t7200000\t1\t1\t500\t" ++
    "grid\t2024-01-01\t2\t") ++ ascii currency ++
  ascii "\ttariff\t5\thigh\tlow\tevidence/meter.txt\n"

def readingRows (currency : String) : List Row :=
  valueOr [] (load Quotient.numerals (readingTable currency))

theorem readingTable_accepted :
    load Quotient.numerals (readingTable "EUR") = .ok (readingRows "EUR") ∧
      ∃ document evidence, parseJson Quotient.numerals.numerals
          (writeJson Quotient.numerals (derive (readingRows "EUR"))) =
            .ok document ∧
        validateMeasurement document = .ok evidence ∧ KeepsTexts document (readingTable "EUR") := by
  have loaded : load Quotient.numerals (readingTable "EUR") = .ok (readingRows "EUR") :=
    eq_ok_valueOr [] (by decide +kernel)
  exact ⟨loaded, (workbook_accepted_iff loaded).mpr (by decide +kernel)⟩

/-- A currency in lower case is printed and then rejected. -/
theorem lowerCase_currency_rejected :
    load Quotient.numerals (readingTable "eur") = .ok (readingRows "eur") ∧
      ¬∃ document evidence, parseJson Quotient.numerals.numerals
          (writeJson Quotient.numerals (derive (readingRows "eur"))) =
            .ok document ∧
        validateMeasurement document = .ok evidence ∧ KeepsTexts document (readingTable "eur") := by
  have loaded : (load Quotient.numerals (readingTable "eur")).isOk = true := by decide +kernel
  have rejected : (parseJson Quotient.numerals.numerals (writeJson Quotient.numerals
      (derive (readingRows "eur"))) >>= validateMeasurement).isOk = false := by
    decide +kernel
  refine ⟨eq_ok_valueOr [] loaded, ?_⟩
  rintro ⟨document, evidence, parsed, passed, _⟩
  rw [parsed] at rejected
  simp only [bind, Except.bind, passed] at rejected
  cases rejected

end ShortHand.Evidence
