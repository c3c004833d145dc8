import Mathlib.Data.Rat.Defs
import Mathlib.Algebra.Order.Field.Rat
import ShortHand.Library.Tally
import ShortHand.Evidence.Manifest

/-! The measurement workbook, the figures derived from its rows and the JSON document.
Arithmetic is exact. -/

namespace ShortHand.Evidence

open ShortHand.Library List

/-- Rationals with a text that is a number token and reads back exactly. -/
structure ExactNumerals where
  text : ℚ → Bytes
  read : Bytes → Option ℚ
  scan_text : ∀ value, scanNumber (text value) = .ok (text value, [])
  read_text : ∀ value, read (text value) = some value
  text_length : ∀ value : Nat, value < 10 ^ 18 → (text value).length ≤ 24

abbrev ExactNumerals.numerals (exact_ : ExactNumerals) : Numerals where
  Double := ℚ
  decEq := inferInstance
  ofNat value := value
  text := exact_.text
  read := exact_.read
  scan_text := exact_.scan_text
  read_text := exact_.read_text
  text_length := exact_.text_length

namespace Workbook

variable (exact_ : ExactNumerals)

def kSchema : Bytes := ascii "shorthand.c3eco.measurement_workbook.v1"

def kEpsilon : ℚ := 1 / 10 ^ 9

structure Row where
  recordId : Bytes
  component : Bytes
  sourceKind : Bytes
  instrumentId : Bytes
  calibrationId : Bytes
  calibrationDate : Bytes
  measuredAt : Bytes
  rawEnergyJ : ℚ
  allocationFraction : ℚ
  pue : ℚ
  carbonFactor : ℚ
  factorSource : Bytes
  factorDate : Bytes
  tariffPerKwh : ℚ
  tariffCurrency : Bytes
  tariffSource : Bytes
  uncertaintyPercent : ℚ
  measurementQuality : Bytes
  dataQuality : Bytes
  evidenceRef : Bytes
  deriving DecidableEq

def splitTsv (line : Bytes) : List Bytes := segments 9 line

def isTrimmed (byte : Byte) : Bool := byte = 32 || byte = 13 || byte = 10

def trim (text : Bytes) : Bytes := (text.dropWhile isTrimmed).rdropWhile isTrimmed

/-- The start of a message about a line. -/
def lineLabel (line : Nat) : String := "line " ++ toString line ++ ": "

def parseDouble (text : Bytes) (field : String) (line : Nat) : Except String ℚ :=
  match exact_.read text with
  | none => .error (lineLabel line ++ "invalid numeric " ++ field)
  | some value => .ok value

def leap (year : Nat) : Bool := year % 400 = 0 || (year % 4 = 0 && year % 100 ≠ 0)

def daysInMonth (year month : Nat) : Nat :=
  let days := [0, 31, 28, 31, 30, 31, 30, 31, 31, 30, 31, 30, 31]
  if month = 2 then days.getD month 0 + (if leap year then 1 else 0)
  else if 1 ≤ month ∧ month ≤ 12 then days.getD month 0
  else 0

def validDate (date : Bytes) : Bool :=
  date.length = 10 && date[4]? = some 45 && date[7]? = some 45 &&
    (date.take 4 ++ (date.drop 5).take 2 ++ date.drop 8).all isDigit &&
    2000 ≤ yearOf date && 1 ≤ monthOf date && monthOf date ≤ 12 &&
    1 ≤ dayOf date && dayOf date ≤ daysInMonth (yearOf date) (monthOf date)

def datePart (measured : Bytes) : Bytes := if measured.length < 10 then [] else measured.take 10

/-- The columns of the table. -/
def expectedHeader : List Bytes := [
  "record_id", "component", "source_kind", "instrument_id", "calibration_id", "calibration_date",
  "measured_at", "raw_energy_j", "allocation_fraction", "pue", "carbon_factor_gco2e_per_kwh",
  "factor_source", "factor_date", "tariff_per_kwh", "tariff_currency", "tariff_source",
  "uncertainty_percent", "measurement_quality", "data_quality", "evidence_ref"].map ascii

def readRow (fields : List Bytes) (line : Nat) : Except String Row :=
  match fields with
  | [recordId, component, sourceKind, instrumentId, calibrationId, calibrationDate, measuredAt,
      rawEnergyJ, allocationFraction, pue, carbonFactor, factorSource, factorDate, tariffPerKwh,
      tariffCurrency, tariffSource, uncertaintyPercent, measurementQuality, dataQuality,
      evidenceRef] => do
    let rawEnergyJ ← parseDouble exact_ rawEnergyJ "raw_energy_j" line
    let allocationFraction ← parseDouble exact_ allocationFraction "allocation_fraction" line
    let pue ← parseDouble exact_ pue "pue" line
    let carbonFactor ← parseDouble exact_ carbonFactor "carbon_factor_gco2e_per_kwh" line
    let tariffPerKwh ← parseDouble exact_ tariffPerKwh "tariff_per_kwh" line
    let uncertaintyPercent ← parseDouble exact_ uncertaintyPercent "uncertainty_percent" line
    return { recordId, component, sourceKind, instrumentId, calibrationId, calibrationDate,
             measuredAt, rawEnergyJ, allocationFraction, pue, carbonFactor, factorSource, factorDate,
             tariffPerKwh, tariffCurrency, tariffSource, uncertaintyPercent, measurementQuality,
             dataQuality, evidenceRef }
  | _ => .error (lineLabel line ++ "expected 20 columns")

def allowedSources : List Bytes :=
  ["physical_meter", "rapl", "accelerator_counter", "cloud_meter"].map ascii

def qualities : List Bytes := ["high", "medium", "low"].map ascii

/-- The requirements on one row, given the identifiers of the rows before it. -/
def checkRow (ids : List Bytes) (row : Row) (line : Nat) : Except String Unit := do
  require (!row.recordId.isEmpty && !ids.contains row.recordId)
    (lineLabel line ++ "duplicate/empty record_id")
  require (!row.component.isEmpty) (lineLabel line ++ "component is required")
  require (allowedSources.contains row.sourceKind)
    (lineLabel line ++ "source_kind must be real instrumentation, not modelled/declared")
  require (!row.instrumentId.isEmpty && !row.calibrationId.isEmpty && !row.factorSource.isEmpty &&
    !row.tariffSource.isEmpty && !row.evidenceRef.isEmpty)
    (lineLabel line ++ "provenance fields are required")
  require (validDate row.calibrationDate) (lineLabel line ++ "invalid calibration_date")
  require (validDate row.factorDate) (lineLabel line ++ "invalid factor_date")
  require (validDate (datePart row.measuredAt))
    (lineLabel line ++ "measured_at must begin with YYYY-MM-DD")
  require (row.calibrationDate ≤ datePart row.measuredAt)
    (lineLabel line ++ "calibration is after measurement")
  require (row.factorDate ≤ datePart row.measuredAt)
    (lineLabel line ++ "carbon factor is after measurement")
  require (0 < row.rawEnergyJ) (lineLabel line ++ "raw_energy_j must be positive")
  require (0 < row.allocationFraction && row.allocationFraction ≤ 1)
    (lineLabel line ++ "allocation_fraction must be in (0,1]")
  require (1 ≤ row.pue && row.pue ≤ 3) (lineLabel line ++ "pue must be in [1,3]")
  require (0 < row.carbonFactor && row.carbonFactor ≤ 2500)
    (lineLabel line ++ "carbon factor outside bounded range")
  require (0 ≤ row.tariffPerKwh && row.tariffPerKwh ≤ 10000)
    (lineLabel line ++ "tariff outside bounded range")
  require (row.tariffCurrency.length = 3)
    (lineLabel line ++ "tariff_currency must be a three-letter code")
  require (0 ≤ row.uncertaintyPercent && row.uncertaintyPercent ≤ 100)
    (lineLabel line ++ "uncertainty_percent must be in [0,100]")
  require (qualities.contains row.measurementQuality && qualities.contains row.dataQuality)
    (lineLabel line ++ "MQ/DQ must be high, medium or low")

structure Loading where
  lineNo : Nat
  rows : List Row

def Loading.next (state : Loading) (line : Bytes) : Except String Loading :=
  if (trim line).isEmpty then .ok { state with lineNo := state.lineNo + 1 }
  else do
    let row ← readRow exact_ (splitTsv (trim line)) (state.lineNo + 1)
    checkRow (state.rows.map Row.recordId) row (state.lineNo + 1)
    return ⟨state.lineNo + 1, state.rows ++ [row]⟩

/-- What readings must share to be parts of one. -/
abbrev AllocationKey := Bytes × Bytes × ℚ × Bytes

def Row.allocationKey (row : Row) : AllocationKey :=
  (row.instrumentId, row.measuredAt, row.rawEnergyJ, row.evidenceRef)

def allocate (allocation : AllocationKey → ℚ) (row : Row) : Except String (AllocationKey → ℚ) := do
  let grown := credit allocation row.allocationKey row.allocationFraction
  require (grown row.allocationKey ≤ 1 + kEpsilon)
    "double counting detected: allocation sum exceeds 1.0 for shared instrument evidence"
  return grown

def load (contents : Bytes) : Except String (List Row) :=
  match getlines 10 contents with
  | [] => .error "measurement input is empty"
  | header :: lines => do
    require (splitTsv (trim header) = expectedHeader) "invalid measurement TSV header"
    let state ← lines.foldlM (Loading.next exact_) ⟨1, []⟩
    require (!state.rows.isEmpty) "measurement input has no records"
    let _ ← state.rows.foldlM allocate (fun _ => 0)
    return state.rows.insertionSort fun first second => first.recordId ≤ second.recordId

structure Derived where
  row : Row
  allocatedItJ : ℚ
  facilityJ : ℚ
  facilityKwh : ℚ
  carbonKg : ℚ
  cost : ℚ
  uncertaintyKwh : ℚ
  uncertaintyCarbonKg : ℚ

def deriveRow (row : Row) : Derived :=
  let allocatedItJ := row.rawEnergyJ * row.allocationFraction
  let facilityJ := allocatedItJ * row.pue
  let facilityKwh := facilityJ / 3600000
  let carbonKg := facilityKwh * row.carbonFactor / 1000
  { row, allocatedItJ, facilityJ, facilityKwh, carbonKg
    cost := facilityKwh * row.tariffPerKwh
    uncertaintyKwh := facilityKwh * (row.uncertaintyPercent / 100)
    uncertaintyCarbonKg := carbonKg * (row.uncertaintyPercent / 100) }

def derive (rows : List Row) : List Derived := rows.map deriveRow

/-- Add to the amount of a key. -/
def accrue (amounts : OrderedMap Bytes ℚ) (key : Bytes) (amount : ℚ) : OrderedMap Bytes ℚ :=
  amounts.insert key ((amounts.find? key).getD 0 + amount)

structure Totals where
  itJ : ℚ
  facilityKwh : ℚ
  carbonKg : ℚ
  uncertaintyKwh : ℚ
  uncertaintyCarbon : ℚ
  cost : OrderedMap Bytes ℚ

def Totals.zero : Totals := ⟨0, 0, 0, 0, 0, .empty⟩

def Totals.add (totals : Totals) (record : Derived) : Totals where
  itJ := totals.itJ + record.allocatedItJ
  facilityKwh := totals.facilityKwh + record.facilityKwh
  carbonKg := totals.carbonKg + record.carbonKg
  uncertaintyKwh := totals.uncertaintyKwh + record.uncertaintyKwh
  uncertaintyCarbon := totals.uncertaintyCarbon + record.uncertaintyCarbonKg
  cost := accrue totals.cost record.row.tariffCurrency record.cost

def totalsOf (records : List Derived) : Totals := records.foldl Totals.add .zero

def escByte (byte : Byte) : Bytes :=
  if byte = 34 then [92, 34]
  else if byte = 92 then [92, 92]
  else if byte = 10 then [92, 110]
  else if byte = 13 then [92, 114]
  else if byte = 9 then [92, 116]
  else [byte]

def jsonEsc (value : Bytes) : Bytes := value.flatMap escByte

/-- What the printer writes after a name. -/
inductive Cell where
  | text (value : Bytes)
  | number (value : ℚ)
  | flag (value : Bool)

def Cell.written : Cell → Bytes
  | .text value => 34 :: jsonEsc value ++ [34]
  | .number value => exact_.text value
  | .flag value => ascii (if value then "true" else "false")

def written (name text : Bytes) : Bytes := 34 :: name ++ 34 :: 58 :: text

def writtenCell (field : String × Cell) : Bytes := written (ascii field.1) (field.2.written exact_)

def recordCells (record : Derived) : List (String × Cell) := [
  ("record_id", .text record.row.recordId),
  ("component", .text record.row.component),
  ("source_kind", .text record.row.sourceKind),
  ("instrument_id", .text record.row.instrumentId),
  ("calibration_id", .text record.row.calibrationId),
  ("calibration_date", .text record.row.calibrationDate),
  ("measured_at", .text record.row.measuredAt),
  ("raw_energy_j", .number record.row.rawEnergyJ),
  ("allocation_fraction", .number record.row.allocationFraction),
  ("allocated_it_energy_j", .number record.allocatedItJ),
  ("pue", .number record.row.pue),
  ("facility_energy_kwh", .number record.facilityKwh),
  ("carbon_factor_gco2e_per_kwh", .number record.row.carbonFactor),
  ("factor_source", .text record.row.factorSource),
  ("factor_date", .text record.row.factorDate),
  ("carbon_kgco2e", .number record.carbonKg),
  ("tariff_per_kwh", .number record.row.tariffPerKwh),
  ("tariff_currency", .text record.row.tariffCurrency),
  ("tariff_source", .text record.row.tariffSource),
  ("cost", .number record.cost),
  ("uncertainty_percent", .number record.row.uncertaintyPercent),
  ("uncertainty_kwh", .number record.uncertaintyKwh),
  ("uncertainty_carbon_kgco2e", .number record.uncertaintyCarbonKg),
  ("measurement_quality", .text record.row.measurementQuality),
  ("data_quality", .text record.row.dataQuality),
  ("evidence_ref", .text record.row.evidenceRef)]

def writtenRecord (record : Derived) : Bytes :=
  ascii "\n    \x7b" ++ interleaved [44] ((recordCells record).map (writtenCell exact_)) ++ [125]

def writtenCosts (costs : OrderedMap Bytes ℚ) : Bytes :=
  123 :: interleaved [44] (costs.entries.map fun entry =>
    written (jsonEsc entry.1) (exact_.text entry.2)) ++ [125]

def totalCells (totals : Totals) : List (String × Cell) := [
  ("allocated_it_energy_j", .number totals.itJ),
  ("facility_energy_kwh", .number totals.facilityKwh),
  ("carbon_kgco2e", .number totals.carbonKg),
  ("uncertainty_kwh", .number totals.uncertaintyKwh),
  ("uncertainty_carbon_kgco2e", .number totals.uncertaintyCarbon)]

def writtenTotals (totals : Totals) : Bytes :=
  123 :: interleaved [44] ((totalCells totals).map (writtenCell exact_) ++
    [written (ascii "cost_by_currency") (writtenCosts exact_ totals.cost)]) ++ [125]

def headCells (count : Nat) : List (String × Cell) := [
  ("schema", .text kSchema),
  ("measurement_status", .text (ascii "measured_instrumented")),
  ("official_certification_granted", .flag false),
  ("base_footprint_not_reduced_by_offsets", .flag true),
  ("allocation_policy", .text (ascii "shared instrument readings must sum to <=1.0")),
  ("record_count", .number count)]

def tailCells : List (String × Cell) := [
  ("claim_safe_text", .text (ascii ("Measured accounting evidence only. This workbook does not " ++
    "grant C3-ECO certification and does not establish comparative energy superiority."))),
  ("next_qualification", .text (ascii ("Candidate scoring is available through " ++
    "shorthand.c3eco.assessment.v1; comparative ShortHand/Python energy qualification remains " ++
    "PR95.")))]

def writeJson (records : List Derived) : Bytes :=
  ascii "\x7b\n  " ++ interleaved (ascii ",\n  ")
    ((headCells records.length).map (writtenCell exact_) ++
      [written (ascii "totals") (writtenTotals exact_ (totalsOf records)),
        written (ascii "records")
          (91 :: interleaved [44] (records.map (writtenRecord exact_)) ++ ascii "\n  ]")] ++
      tailCells.map (writtenCell exact_)) ++ ascii "\n\x7d\n"

/-- What `load` requires of every row. -/
structure Row.Valid (row : Row) : Prop where
  recordId : row.recordId ≠ []
  component : row.component ≠ []
  sourceKind : row.sourceKind ∈ allowedSources
  instrumentId : row.instrumentId ≠ []
  calibrationId : row.calibrationId ≠ []
  factorSource : row.factorSource ≠ []
  tariffSource : row.tariffSource ≠ []
  calibrationDate : validDate row.calibrationDate = true
  factorDate : validDate row.factorDate = true
  measuredDate : validDate (datePart row.measuredAt) = true
  calibrated : row.calibrationDate ≤ datePart row.measuredAt
  factored : row.factorDate ≤ datePart row.measuredAt
  rawEnergyJ : 0 < row.rawEnergyJ
  allocationFraction : 0 < row.allocationFraction ∧ row.allocationFraction ≤ 1
  pue : 1 ≤ row.pue ∧ row.pue ≤ 3
  carbonFactor : 0 < row.carbonFactor ∧ row.carbonFactor ≤ 2500
  tariffPerKwh : 0 ≤ row.tariffPerKwh ∧ row.tariffPerKwh ≤ 10000
  tariffCurrency : row.tariffCurrency.length = 3
  uncertaintyPercent : 0 ≤ row.uncertaintyPercent ∧ row.uncertaintyPercent ≤ 100
  measurementQuality : row.measurementQuality ∈ qualities
  dataQuality : row.dataQuality ∈ qualities

theorem checkRow_eq_ok (checked : checkRow ids row line = .ok ()) :
    row.Valid ∧ row.recordId ∉ ids := by
  simp only [checkRow, bind_eq_ok, require_eq_ok, Bool.and_eq_true, Bool.not_eq_true',
    decide_eq_true_eq, List.isEmpty_iff, contains_iff_mem, ← Bool.not_eq_true,
    exists_and_left, exists_const] at checked
  obtain ⟨⟨recordId, fresh⟩, component, sourceKind, ⟨⟨⟨⟨instrumentId, calibrationId⟩, factorSource⟩,
    tariffSource⟩, _⟩, calibrationDate, factorDate, measuredDate, calibrated, factored, rawEnergyJ,
    allocationFraction, pue, carbonFactor, tariffPerKwh, tariffCurrency, uncertaintyPercent,
    measurementQuality, dataQuality⟩ := checked
  exact ⟨⟨recordId, component, sourceKind, instrumentId, calibrationId, factorSource, tariffSource,
    calibrationDate, factorDate, measuredDate, calibrated, factored, rawEnergyJ, allocationFraction,
    pue, carbonFactor, tariffPerKwh, tariffCurrency, uncertaintyPercent, measurementQuality,
    dataQuality⟩, fresh⟩

/-- The columns that are not numbers, which the document has under the same names. -/
def textNames : List String := [
  "record_id", "component", "source_kind", "instrument_id", "calibration_id", "calibration_date",
  "measured_at", "factor_source", "factor_date", "tariff_currency", "tariff_source",
  "measurement_quality", "data_quality", "evidence_ref"]

/-- The field of a line in a column. -/
def column (fields : List Bytes) (name : String) : Bytes :=
  fields.getD (expectedHeader.idxOf (ascii name)) []

/-- The fields of the lines that have any, without the header. -/
def dataLines (contents : Bytes) : List (List Bytes) :=
  (((getlines 10 contents).tail.map trim).filter (!·.isEmpty)).map splitTsv

/-- The texts of a row by column. -/
def Row.texts (row : Row) : List Bytes := [
  row.recordId, row.component, row.sourceKind, row.instrumentId, row.calibrationId,
  row.calibrationDate, row.measuredAt, row.factorSource, row.factorDate, row.tariffCurrency,
  row.tariffSource, row.measurementQuality, row.dataQuality, row.evidenceRef]

theorem textNames_columns : textNames.map (fun name => expectedHeader.idxOf (ascii name)) =
    [0, 1, 2, 3, 4, 5, 6, 11, 12, 14, 15, 17, 18, 19] := by
  decide +kernel

/-- The texts of a row are the fields of its line. -/
theorem readRow_texts (read : readRow exact_ fields line = .ok row) :
    textNames.map (column fields) = row.texts := by
  unfold readRow at read
  split at read
  · simp only [bind_eq_ok] at read
    obtain ⟨_, _, _, _, _, _, _, _, _, _, _, _, result⟩ := read
    cases result
    rfl
  · cases read

/-- What holds of the rows read from some lines. -/
structure Collected (lines : List Bytes) (rows : List Row) : Prop where
  valid : ∀ row ∈ rows, row.Valid
  distinct : (rows.map Row.recordId).Nodup
  texts : (((lines.map trim).filter (!·.isEmpty)).map splitTsv).map
    (fun fields => textNames.map (column fields)) = rows.map Row.texts

theorem Collected.next {state after : Loading}
    (collected : Collected lines state.rows) (next : state.next exact_ line = .ok after) :
    Collected (lines ++ [line]) after.rows := by
  unfold Loading.next at next
  split_ifs at next with empty
  · cases next
    exact ⟨collected.valid, collected.distinct, by simpa [empty] using collected.texts⟩
  simp only [bind_eq_ok] at next
  obtain ⟨row, read, _, checked, result⟩ := next
  cases result
  obtain ⟨valid, fresh⟩ := checkRow_eq_ok checked
  have texts := readRow_texts exact_ read
  refine ⟨?_, ?_, ?_⟩
  · exact forall_mem_concat.mpr ⟨collected.valid, valid⟩
  · rw [map_append]
    exact collected.distinct.append (nodup_singleton _) (by simpa using fresh)
  · have before := collected.texts
    simp [empty, texts, before]

/-- The shares of every reading are within the limit after each row. -/
theorem allocate_eq_ok
    (allocated : rows.foldlM allocate (fun _ => 0) = .ok allocation) (key : AllocationKey) :
    totalOf Row.allocationKey Row.allocationFraction rows key ≤ 1 + kEpsilon := by
  have positive : (0 : ℚ) ≤ 1 + kEpsilon :=
    add_nonneg zero_le_one (div_nonneg zero_le_one (pow_nonneg (by decide) 9))
  have limit : allocation = totalOf Row.allocationKey Row.allocationFraction rows ∧
      allocation key ≤ 1 + kEpsilon := by
    refine @foldlM_invariant _ _ _ allocate _ _ rows (fun earlier allocation =>
      allocation = totalOf Row.allocationKey Row.allocationFraction earlier ∧
        allocation key ≤ 1 + kEpsilon) ⟨rfl, positive⟩ ?_ allocated
    rintro earlier row later - before after ⟨rfl, bounded⟩ step
    simp only [allocate, bind_eq_ok, require_eq_ok, decide_eq_true_eq] at step
    obtain ⟨_, within, result⟩ := step
    cases result
    refine ⟨totalOf_concat.symm, ?_⟩
    by_cases same : key = row.allocationKey
    · exact same ▸ within
    · rwa [credit, Function.update_of_ne same]
  exact limit.1 ▸ limit.2

/-- What holds of the rows of an accepted table. -/
structure Loaded (contents : Bytes) (rows : List Row) : Prop where
  valid : ∀ row ∈ rows, row.Valid
  distinct : (rows.map Row.recordId).Nodup
  nonempty : rows ≠ []
  shares : ∀ key, totalOf Row.allocationKey Row.allocationFraction rows key ≤ 1 + kEpsilon
  texts : ((dataLines contents).map fun fields => textNames.map (column fields)).Perm
    (rows.map Row.texts)

theorem load_eq_ok (loaded : load exact_ contents = .ok rows) : Loaded contents rows := by
  unfold load at loaded
  split at loaded
  · cases loaded
  rename_i header lines split
  simp only [bind_eq_ok, require_eq_ok] at loaded
  obtain ⟨_, _, state, read, _, some_, allocation, allocated, result⟩ := loaded
  have collected : Collected lines state.rows := by
    refine @foldlM_invariant _ _ _ (Loading.next exact_) _ _ lines
      (fun earlier state => Collected earlier state.rows) ?_ ?_ read
    · exact ⟨by simp, nodup_nil, rfl⟩
    · intro earlier line later _ before after held next
      exact held.next exact_ next
  have sorted : rows.Perm state.rows := by
    cases result
    exact perm_insertionSort _ _
  refine ⟨fun row inside => collected.valid row (sorted.mem_iff.mp inside),
    (sorted.map _).nodup_iff.mpr collected.distinct, ?_, ?_, ?_⟩
  · intro none
    rw [none] at sorted
    rw [← sorted.nil_eq] at some_
    cases some_
  · intro key
    rw [totalOf_perm sorted]
    exact allocate_eq_ok allocated key
  · have lineTexts := collected.texts
    rw [dataLines, split, tail_cons, lineTexts]
    exact (sorted.map _).symm

theorem validDate_eq : validDate = validIsoDate := by
  funext date
  have days : ∀ year month, 1 ≤ month → month ≤ 12 →
      daysInMonth year month = Evidence.daysInMonth year month := by
    intro year month lower upper
    have bounded : ¬(month < 1 ∨ month > 12) := by omega
    simp only [daysInMonth, Evidence.daysInMonth, if_neg bounded]
    by_cases february : month = 2
    · subst february
      simp [leap, isLeapYear]
    · simp [february, lower, upper]
  unfold validDate validIsoDate
  by_cases lower : 1 ≤ monthOf date
  · by_cases upper : monthOf date ≤ 12
    · rw [days _ _ lower upper]
    · simp [upper]
  · simp [lower]

section Printed

variable {exact_}

/-- A text that the printer escapes completely: its control characters are among those
that have an escape of their own. -/
def Plain (text : Bytes) : Prop := ∀ byte ∈ text, Visible byte

instance {text : Bytes} : Decidable (Plain text) :=
  inferInstanceAs (Decidable (∀ byte ∈ text, 32 ≤ byte ∨ isSpace byte = true))

theorem escByte_eq : ∀ byte : Byte, escByte byte =
    if 32 ≤ byte ∨ isSpace byte = true then escapeByte byte else [byte] := by
  decide +kernel

theorem jsonEsc_eq (plain : Plain text) : jsonEsc text = jsonEscape text := by
  refine flatMap_congr ?_
  intro byte inside
  exact (escByte_eq byte).trans (if_pos (plain byte inside))

/-- A byte without an escape is printed as it is. -/
theorem mem_jsonEsc (inside : byte ∈ text) (hidden : ¬Visible byte) : byte ∈ jsonEsc text := by
  refine mem_flatMap.mpr ⟨byte, inside, ?_⟩
  rw [(escByte_eq byte).trans (if_neg hidden)]
  exact mem_singleton_self byte

def Cell.json : Cell → Json exact_.numerals
  | .text value => .string value
  | .number value => .number value
  | .flag value => .boolean value

def Cell.Plain : Cell → Prop
  | .text value => Workbook.Plain value
  | _ => True

instance : (cell : Cell) → Decidable cell.Plain
  | .text value => inferInstanceAs (Decidable (Workbook.Plain value))
  | .number _ => isTrue trivial
  | .flag _ => isTrue trivial

theorem Cell.spells {cell : Cell} (plain : cell.Plain) :
    Spells (levels + 1) (cell.written exact_) (cell.json : Json exact_.numerals) := by
  cases cell with
  | text value =>
    have written : (Cell.text value).written exact_ = quoted value := by
      rw [Cell.written, jsonEsc_eq plain, quoted]
    rw [written]
    exact @spells_canonical exact_.numerals _ (.string value) trivial
  | number value => exact @spells_canonical exact_.numerals _ (.number value) trivial
  | flag value => exact @spells_canonical exact_.numerals _ (.boolean value) trivial

/-- A member of a printed object: its name, the text of its value and the value. -/
abbrev Member (exact_ : ExactNumerals) := String × Bytes × Json exact_.numerals

def cellMember (field : String × Cell) : Member exact_ :=
  (field.1, field.2.written exact_, field.2.json)

def Member.written (member : Member exact_) : Bytes := Workbook.written (ascii member.1) member.2.1

def Member.field (member : Member exact_) : String × Json exact_.numerals := (member.1, member.2.2)

/-- Members under names without special characters are read as an object. -/
theorem spells_members {members : List (Member exact_)} {blanks closing : Bytes}
    (each : ∀ member ∈ members, Spells levels member.2.1 member.2.2)
    (blank : Blank blanks) (blankEnd : Blank closing)
    (printed : (∀ name ∈ members.map Prod.fst, jsonEscape (ascii name) = ascii name) ∧
      ((members.map Prod.fst).map ascii).Nodup) : Spells (levels + 1)
      (123 :: blanks ++ interleaved (44 :: blanks) (members.map Member.written) ++ closing ++ [125])
      (object (members.map Member.field)) := by
  let entries := members.map fun member => (ascii member.1, member.2.1, member.2.2)
  have texts : members.map Member.written = entries.map memberText := by
    rw [map_map]
    refine map_congr_left fun member inside => ?_
    simp only [Member.written, Workbook.written, memberText, quoted, Function.comp_apply,
      printed.1 member.1 (mem_map_of_mem inside), cons_append, append_assoc, nil_append]
  have values : object (members.map Member.field) =
      .object (OrderedMap.ofEntries (entries.map memberEntry)).entries := by
    simp only [object, entries, map_map]
    rfl
  rw [texts, values]
  refine spells_object ?_ blank blankEnd ?_
  · intro entry inside
    obtain ⟨member, isMember, rfl⟩ := mem_map.mp inside
    exact each member isMember
  · have distinct := printed.2
    rw [map_map] at distinct ⊢
    exact distinct

def recordNames : List String := [
  "record_id", "component", "source_kind", "instrument_id", "calibration_id", "calibration_date",
  "measured_at", "raw_energy_j", "allocation_fraction", "allocated_it_energy_j", "pue",
  "facility_energy_kwh", "carbon_factor_gco2e_per_kwh", "factor_source", "factor_date",
  "carbon_kgco2e", "tariff_per_kwh", "tariff_currency", "tariff_source", "cost",
  "uncertainty_percent", "uncertainty_kwh", "uncertainty_carbon_kgco2e", "measurement_quality",
  "data_quality", "evidence_ref"]

def totalNames : List String := ["allocated_it_energy_j", "facility_energy_kwh", "carbon_kgco2e",
  "uncertainty_kwh", "uncertainty_carbon_kgco2e", "cost_by_currency"]

def documentNames : List String := ["schema", "measurement_status",
  "official_certification_granted", "base_footprint_not_reduced_by_offsets", "allocation_policy",
  "record_count", "totals", "records", "claim_safe_text", "next_qualification"]

/-- The keys of each object of the document are printed as they are and differ. -/
theorem names_printed : ∀ names ∈ [recordNames, totalNames, documentNames],
    (∀ name ∈ names, jsonEscape (ascii name) = ascii name) ∧ (names.map ascii).Nodup := by
  decide +kernel

def recordFields (exact_ : ExactNumerals) (record : Derived) : List (String × Json exact_.numerals) :=
  ((recordCells record).map cellMember).map Member.field

def recordJson (exact_ : ExactNumerals) (record : Derived) : Json exact_.numerals := object (recordFields exact_ record)

theorem recordFields_distinct : Distinct (recordFields exact_ record) :=
  (names_printed recordNames (by simp)).2

def Cell.text? : Cell → Option Bytes
  | .text value => some value
  | _ => none

/-- The texts of a record stand under the names of their columns. -/
theorem recordCells_texts : (recordCells record).filterMap
    (fun field => field.2.text?.map (Prod.mk field.1)) = textNames.zip record.row.texts := rfl

theorem mem_recordCells_iff :
    (name, Cell.text text) ∈ recordCells record ↔ (name, text) ∈ textNames.zip record.row.texts := by
  rw [← recordCells_texts, mem_filterMap]
  constructor
  · intro isCell
    exact ⟨_, isCell, rfl⟩
  · rintro ⟨⟨other, cell⟩, isCell, same⟩
    cases cell <;> cases same
    exact isCell

theorem recordCells_plain (plain : ∀ text ∈ record.row.texts, Plain text) :
    ∀ field ∈ recordCells record, field.2.Plain := by
  rintro ⟨name, cell⟩ isCell
  cases cell with
  | text value => exact plain value (of_mem_zip (mem_recordCells_iff.mp isCell)).2
  | number value => trivial
  | flag value => trivial

theorem blank_margins : Blank (ascii "\n    ") ∧ Blank (ascii "\n  ") ∧ Blank (ascii "\n") := by
  unfold Blank
  decide +kernel

theorem spells_record (plain : ∀ text ∈ record.row.texts, Plain text) :
    Spells (levels + 2) (writtenRecord exact_ record) (recordJson exact_ record) := by
  have opening : ascii "\n    \x7b" = ascii "\n    " ++ [123] := rfl
  have text : writtenRecord exact_ record = ascii "\n    " ++ (123 :: [] ++
      interleaved [44] (((recordCells record).map cellMember).map (@Member.written exact_)) ++
      [] ++ [125]) := by
    simp only [writtenRecord, opening, map_map, append_assoc, nil_append,
      cons_append]
    rfl
  rw [text]
  refine Spells.blank (spells_members ?_ blank_nil blank_nil (names_printed recordNames (by simp)))
    blank_margins.1
  intro member inside
  obtain ⟨field, isField, rfl⟩ := mem_map.mp inside
  exact Cell.spells (recordCells_plain plain field isField)

/-- Every amount is of a currency of some record. -/
theorem totalsOf_cost : ∀ entry ∈ (totalsOf records).cost.entries,
    ∃ record ∈ records, record.row.tariffCurrency = entry.1 := by
  refine foldlRecOn (motive := fun totals : Totals => ∀ entry ∈ totals.cost.entries,
    ∃ record ∈ records, record.row.tariffCurrency = entry.1) records Totals.add nofun ?_
  intro totals known record isRecord entry inside
  rcases mem_cons.mp (OrderedMap.insert_perm_filter.mem_iff.mp inside) with rfl | earlier
  · exact ⟨record, isRecord, rfl⟩
  · exact known entry (mem_of_mem_filter earlier)

def costsJson (exact_ : ExactNumerals) (costs : OrderedMap Bytes ℚ) : Json exact_.numerals :=
  .object (costs.entries.map fun entry => (entry.1, .number entry.2))

theorem spells_costs (plain : ∀ entry ∈ costs.entries, Plain entry.1) :
    Spells (levels + 2) (writtenCosts exact_ costs) (costsJson exact_ costs) := by
  let members : List (Bytes × Bytes × Json exact_.numerals) :=
    costs.entries.map fun entry => (entry.1, exact_.text entry.2, .number entry.2)
  have texts : (costs.entries.map fun entry => written (jsonEsc entry.1) (exact_.text entry.2)) =
      members.map memberText := by
    rw [map_map]
    refine map_congr_left fun entry inside => ?_
    simp only [written, memberText, quoted, Function.comp_apply, jsonEsc_eq (plain entry inside),
      cons_append, append_assoc, nil_append]
  have entries : members.map memberEntry = costs.entries.map fun entry => (entry.1, .number entry.2) := by
    rw [map_map]
    rfl
  have ordered : InOrder (members.map memberEntry) := by
    rw [entries, InOrder, pairwise_map]
    exact costs.ordered
  have keys : members.map Prod.fst = costs.entries.map Prod.fst := by
    rw [map_map]
    rfl
  have spelled := @spells_object exact_.numerals (levels + 1) [] [] members ?_ blank_nil
    blank_nil (by rw [keys]; exact costs.ordered.nodup)
  · rwa [OrderedMap.ofEntries_inOrder ordered, entries, ← texts, append_nil] at spelled
  · intro member inside
    obtain ⟨entry, _, rfl⟩ := mem_map.mp inside
    exact @Cell.spells exact_ levels (.number entry.2) trivial

def totalMembers (exact_ : ExactNumerals) (totals : Totals) : List (Member exact_) :=
  (totalCells totals).map cellMember ++
    [("cost_by_currency", writtenCosts exact_ totals.cost, costsJson exact_ totals.cost)]

def totalsFields (exact_ : ExactNumerals) (totals : Totals) : List (String × Json exact_.numerals) :=
  (totalMembers exact_ totals).map Member.field

def totalsJson (exact_ : ExactNumerals) (totals : Totals) : Json exact_.numerals := object (totalsFields exact_ totals)

theorem totalsFields_distinct : Distinct (totalsFields exact_ totals) :=
  (names_printed totalNames (by simp)).2

theorem spells_totals (plain : ∀ entry ∈ totals.cost.entries, Plain entry.1) :
    Spells (levels + 3) (writtenTotals exact_ totals) (totalsJson exact_ totals) := by
  have text : writtenTotals exact_ totals = 123 :: [] ++
      interleaved [44] ((totalMembers exact_ totals).map (@Member.written exact_)) ++ [] ++ [125] := by
    simp only [writtenTotals, totalMembers, map_append, map_map, append_nil]
    rfl
  rw [text]
  refine spells_members ?_ blank_nil blank_nil (names_printed totalNames (by simp))
  intro member inside
  rcases mem_append.mp inside with cell | costs
  · obtain ⟨field, isField, rfl⟩ := mem_map.mp cell
    refine Cell.spells ?_
    simp only [totalCells, mem_cons, not_mem_nil, or_false] at isField
    rcases isField with rfl | rfl | rfl | rfl | rfl <;> trivial
  · rw [mem_singleton.mp costs]
    exact spells_costs plain

def documentMembers (exact_ : ExactNumerals) (records : List Derived) : List (Member exact_) :=
  (headCells records.length).map cellMember ++
    [("totals", writtenTotals exact_ (totalsOf records), totalsJson exact_ (totalsOf records)),
      ("records", 91 :: interleaved [44] (records.map (writtenRecord exact_)) ++ ascii "\n  ]",
        .array (records.map (recordJson exact_)))] ++
    tailCells.map cellMember

def documentFields (exact_ : ExactNumerals) (records : List Derived) : List (String × Json exact_.numerals) :=
  (documentMembers exact_ records).map Member.field

def documentJson (exact_ : ExactNumerals) (records : List Derived) : Json exact_.numerals := object (documentFields exact_ records)

theorem documentFields_distinct : Distinct (documentFields exact_ records) :=
  (names_printed documentNames (by simp)).2

theorem constantCells_plain {count : Nat} :
    ∀ field ∈ headCells count ++ tailCells, field.2.Plain := by
  have fixed : ∀ field ∈ headCells 0 ++ tailCells, field.2.Plain := by decide +kernel
  simpa only [headCells, cons_append, nil_append, forall_mem_cons, Cell.Plain] using
    fixed

theorem writeJson_eq :
    writeJson exact_ records = 123 :: ascii "\n  " ++ interleaved (44 :: ascii "\n  ")
      ((documentMembers exact_ records).map (@Member.written exact_)) ++ ascii "\n" ++ [125] ++
      [10] := by
  have opening : ascii "\x7b\n  " = 123 :: ascii "\n  " := rfl
  have comma : ascii ",\n  " = 44 :: ascii "\n  " := rfl
  have closing : ascii "\n\x7d\n" = ascii "\n" ++ [125] ++ [10] := rfl
  simp only [writeJson, opening, comma, closing, documentMembers, map_append, map_map,
    append_assoc]
  rfl

/-- A workbook of plain texts is read as the document of its records. -/
theorem parseJson_writeJson (plain : ∀ record ∈ records, ∀ text ∈ record.row.texts, Plain text) :
    parseJson exact_.numerals (writeJson exact_ records) = .ok (documentJson exact_ records) := by
  rw [writeJson_eq]
  refine parseJson_spelled (spells_members ?_ blank_margins.2.1 blank_margins.2.2
    (names_printed documentNames (by simp)))
  intro member inside
  have costs : ∀ entry ∈ (totalsOf records).cost.entries, Plain entry.1 := by
    intro entry isEntry
    obtain ⟨record, isRecord, same⟩ := totalsOf_cost entry isEntry
    exact plain record isRecord entry.1 (by simp [Row.texts, same])
  have array : Spells kMaxJsonDepth
      (91 :: interleaved [44] (records.map (writtenRecord exact_)) ++ ascii "\n  ]")
      (.array (records.map (recordJson exact_))) := by
    let items := records.map fun record => (writtenRecord exact_ record, recordJson exact_ record)
    have closing : ascii "\n  ]" = ascii "\n  " ++ [93] := rfl
    have spelled := @Spells.array exact_.numerals 63 _ items ?_ blank_margins.2.1
    · rw [map_map, map_map] at spelled
      rwa [closing, ← append_assoc]
    · intro item inside
      obtain ⟨record, isRecord, rfl⟩ := mem_map.mp inside
      exact spells_record (plain record isRecord)
  simp only [documentMembers, mem_append, mem_map, mem_cons, not_mem_nil, or_false] at inside
  rcases inside with (⟨field, isField, rfl⟩ | rfl | rfl) | ⟨field, isField, rfl⟩
  · exact Cell.spells (constantCells_plain field (mem_append_left _ isField))
  · exact spells_totals costs
  · exact array
  · exact Cell.spells (@constantCells_plain 0 field (mem_append_right _ isField))

theorem mem_interleaved (isPiece : piece ∈ pieces) (inside : byte ∈ piece) :
    byte ∈ interleaved separator pieces := by
  cases pieces with
  | nil => cases isPiece
  | cons first rest =>
    rcases mem_cons.mp isPiece with rfl | later
    · exact mem_append_left _ inside
    · exact mem_append_right _
        (mem_flatMap.mpr ⟨piece, later, mem_append_right _ inside⟩)

theorem mem_writtenRecord {text : Bytes} {byte : Byte}
    (isText : text ∈ record.row.texts) (inside : byte ∈ jsonEsc text) :
    byte ∈ writtenRecord exact_ record := by
  have named : record.row.texts = (textNames.zip record.row.texts).map Prod.snd := rfl
  rw [named] at isText
  obtain ⟨⟨name, _⟩, isPair, rfl⟩ := mem_map.mp isText
  have isCell := mem_recordCells_iff.mpr isPair
  refine mem_append_left _ (mem_append_right _
    (mem_interleaved (mem_map_of_mem isCell) ?_))
  simp [writtenCell, written, Cell.written, inside]

/-- A document that is accepted had only plain texts. -/
theorem plain_of_parseJson {document : Json exact_.numerals}
    (parsed : parseJson exact_.numerals (writeJson exact_ records) = .ok document) :
    ∀ record ∈ records, ∀ text ∈ record.row.texts, Plain text := by
  intro record isRecord text isText byte inside
  by_contra hidden
  refine hidden (parseJson_visible parsed byte ?_)
  have printed := @mem_writtenRecord exact_ record text byte isText (mem_jsonEsc inside hidden)
  have listed : byte ∈ interleaved [44] (records.map (writtenRecord exact_)) :=
    mem_interleaved (mem_map_of_mem isRecord) printed
  refine mem_append_left _ (mem_append_right _ (mem_interleaved (mem_append_left _
    (mem_append_right _ (mem_cons_of_mem _ mem_cons_self))) ?_))
  simp [written, listed]

end Printed

end Workbook

end ShortHand.Evidence
