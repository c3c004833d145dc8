import ShortHand.Library.Rounding
import ShortHand.Application.Classification

/-! Input limits at two precisions: requests are checked as doubles, classification checks them
again as singles. -/

namespace ShortHand.Application

open ShortHand.Library List

/-- What the limits need of the host: singles are the nearest ones, and a million is far
from the largest single. -/
structure Rounding (A : Arithmetic) where
  /-- A finite double as a multiple of the least positive one. -/
  number : A.Double → Int
  /-- `std::abs(v) <= 1e6`. -/
  atMostMillion : A.Double → Bool
  doubleLt_iff : ∀ left right, A.doubleIsFinite left = true → A.doubleIsFinite right = true →
    (A.doubleLt left right = true ↔ number left < number right)
  atMostMillion_iff : ∀ value, A.doubleIsFinite value = true →
    (atMostMillion value = true ↔ (number value).natAbs ≤ 10 ^ 6 * 2 ^ 1074)
  narrow_finite : ∀ value, A.doubleIsFinite value = true → atMostMillion value = true →
    A.isFinite (A.narrow value) = true
  widen_finite : ∀ value, A.isFinite value = true → A.doubleIsFinite (A.widen value) = true
  round : Int → Int
  nearest : RoundsToNearest round
  number_narrow : ∀ value, A.doubleIsFinite value = true → A.isFinite (A.narrow value) = true →
    number (A.widen (A.narrow value)) = round (number value)

variable {A : Arithmetic} (rounding : Rounding A) (c : ApplicationConfiguration A)

/-- The checks of the configuration file on the limits and the normalisation. -/
def acceptPreprocessing : Except String Unit := do
  ensure (A.doubleLt c.inputMin c.inputMax && !A.doubleIsZero c.scale)
    "invalid_application_numeric_contract"
  ensure ([c.inputMin, c.inputMax, c.offset, c.scale].all fun value =>
    A.doubleIsFinite value && rounding.atMostMillion value) "invalid_application_preprocessing"

def withinLimits (value : A.Double) : Bool :=
  !A.doubleLt value c.inputMin && !A.doubleLt c.inputMax value

/-- An item of the `values` array of a request. -/
inductive Item (A : Arithmetic) where
  | number (value : A.Double)
  | other

def requestValue : Item A → Except String A.Float
  | .number value => do
    ensure (A.doubleIsFinite value && withinLimits c value) "invalid_application_request_value"
    return A.narrow value
  | .other => .error "invalid_application_request_value"

/-- The checks of `handle` on the array of a request. -/
def requestValues (items : List (Item A)) : Except String (List A.Float) := do
  ensure (items.length ≤ c.batchSize * c.features) "invalid_application_request"
  items.mapM (requestValue c)

/-- Numbers of a data set. `stod` gives the number and the characters it used, and
`label` the value of a double that is a natural number. -/
structure Numerals (A : Arithmetic) where
  stod : List Char → Option (A.Double × Nat)
  label : A.Double → Option Nat

structure LabeledDataset (A : Arithmetic) where
  values : List A.Float := []
  labels : List Nat := []

structure Protocol where
  repetitions : Nat
  trials : Nat

/-- The pieces that `std::getline` reads. -/
def getlines (separator : Char) : List Char → List (List Char)
  | [] => []
  | first :: rest =>
    if first = separator then [] :: getlines separator rest
    else
      match getlines separator rest with
      | [] => [[first]]
      | line :: more => (first :: line) :: more

variable (numerals : Numerals A)

def readFields : List (List Char) → List A.Double → Except String (List A.Double)
  | [], values => .ok values
  | field :: rest, values => do
    ensure (field ≠ [] && field.length ≤ 64 && values.length ≤ c.features)
      "invalid_dataset_columns"
    match numerals.stod field with
    | none => .error "stod"
    | some (value, used) => do
      ensure (used = field.length && A.doubleIsFinite value) "nonfinite_or_malformed_dataset_value"
      readFields rest (values ++ [value])

def datasetValue (value : A.Double) : Except String A.Float := do
  ensure (withinLimits c value) "dataset_value_outside_range"
  return A.narrow value

def readLabel (value : Option A.Double) : Except String Nat :=
  match value.bind numerals.label with
  | some label => do
    ensure (label < c.classes) "invalid_dataset_label"
    return label
  | none => .error "invalid_dataset_label"

/-- One line of the data set; a carriage return at its end is dropped. -/
def readLine (set : LabeledDataset A) (text : List Char) : Except String (LabeledDataset A) := do
  let line := if text.getLast? = some '\r' then text.dropLast else text
  ensure (line ≠ [] && line.length ≤ 65536) "invalid_dataset_line"
  ensure (set.labels.length < 100000 && (set.labels.length + 1) * c.features ≤ 16 * 1024 * 1024)
    "dataset_size_limit"
  let values ← readFields c numerals (getlines ',' line) []
  ensure (line.getLast? ≠ some ',' && values.length = c.features + 1) "invalid_dataset_columns"
  let label ← readLabel c numerals values.getLast?
  let row ← values.dropLast.mapM (datasetValue c)
  return ⟨set.values ++ row, set.labels ++ [label]⟩

def readLabeledDataset (protocol : Protocol) (text : List Char) :
    Except String (LabeledDataset A) := do
  let set ← (getlines '\n' text).foldlM (readLine c numerals) {}
  ensure (set.labels.length ≥ c.classes && (range c.classes).all (· ∈ set.labels))
    "dataset_requires_all_classes"
  ensure (set.labels.length * protocol.repetitions * protocol.trials ≤ 50000000)
    "application_work_limit"
  let batches := (set.labels.length + c.batchSize - 1) / c.batchSize
  ensure (set.labels.length * c.classes ≤ 262144 &&
    batches * protocol.repetitions * protocol.trials ≤ 100000) "application_report_size_limit"
  return set

def RangeRejected (raw : List A.Float) : Prop :=
  ∃ data, (fillInput c raw 0 data).1 = .error "application_input_outside_range"

/-- What passed as a double is not refused as a single. -/
structure RangesSurvive : Prop where
  request : ∀ items raw, requestValues c items = .ok raw → ¬ RangeRejected c raw
  dataset : ∀ protocol text set, readLabeledDataset c numerals protocol text = .ok set →
    ∀ raw, raw <:+: set.values → ¬ RangeRejected c raw

/-- The limits, rounded to singles, are within the limits. -/
def LimitsKept : Prop :=
  withinLimits c (A.widen (A.narrow c.inputMin)) = true ∧
    withinLimits c (A.widen (A.narrow c.inputMax)) = true

section Proofs

variable {rounding c numerals}

/-- A single that was made from a double within the limits. -/
def FromLimits (c : ApplicationConfiguration A) (single : A.Float) : Prop :=
  ∃ value, A.doubleIsFinite value = true ∧ withinLimits c value = true ∧ single = A.narrow value

theorem requestValues_fromLimits
    (passed : requestValues c items = .ok raw) : ∀ single ∈ raw, FromLimits c single := by
  refine mapM_eq_ok (fun item _ single made => ?_) (check_eq_ok.mp passed).2
  cases item with
  | number value =>
    obtain ⟨checked, made⟩ := check_eq_ok.mp made
    cases made
    rw [ensure_eq_ok, Bool.and_eq_true] at checked
    exact ⟨value, checked.1, checked.2, rfl⟩
  | other => cases made

theorem readFields_finite (before : ∀ value ∈ values, A.doubleIsFinite value = true)
    (read : readFields c numerals fields values = .ok results) :
    ∀ value ∈ results, A.doubleIsFinite value = true := by
  induction fields generalizing values with
  | nil =>
    cases read
    exact before
  | cons field rest ih =>
    obtain ⟨-, read⟩ := check_eq_ok.mp read
    cases parsed : numerals.stod field with
    | none =>
      rw [parsed] at read
      cases read
    | some found =>
      rw [parsed] at read
      obtain ⟨checked, read⟩ := check_eq_ok.mp read
      rw [ensure_eq_ok, Bool.and_eq_true] at checked
      refine ih ?_ read
      rw [forall_mem_append, forall_mem_singleton]
      exact ⟨before, checked.2⟩

theorem readLine_fromLimits {set after : LabeledDataset A} {text : List Char}
    (before : ∀ single ∈ set.values, FromLimits c single)
    (read : readLine c numerals set text = .ok after) :
    ∀ single ∈ after.values, FromLimits c single := by
  obtain ⟨-, read⟩ := check_eq_ok.mp read
  obtain ⟨-, read⟩ := check_eq_ok.mp read
  obtain ⟨values, fields, read⟩ := bind_eq_ok.mp read
  obtain ⟨-, read⟩ := check_eq_ok.mp read
  obtain ⟨label, -, read⟩ := bind_eq_ok.mp read
  obtain ⟨row, mapped, read⟩ := bind_eq_ok.mp read
  cases read
  have finite := readFields_finite (forall_mem_nil _) fields
  rw [forall_mem_append]
  refine ⟨before, mapM_eq_ok (fun value member single made => ?_) mapped⟩
  obtain ⟨within, made⟩ := check_eq_ok.mp made
  cases made
  exact ⟨value, finite value ((dropLast_sublist _).subset member), ensure_eq_ok.mp within, rfl⟩

theorem readLines_fromLimits {lines : List (List Char)} {set after : LabeledDataset A}
    (before : ∀ single ∈ set.values, FromLimits c single)
    (read : lines.foldlM (readLine c numerals) set = .ok after) :
    ∀ single ∈ after.values, FromLimits c single := by
  induction lines generalizing set with
  | nil =>
    cases read
    exact before
  | cons line rest ih =>
    obtain ⟨middle, first, later⟩ := bind_eq_ok.mp read
    exact ih (readLine_fromLimits before first) later

theorem readLabeledDataset_fromLimits {protocol : Protocol} {set : LabeledDataset A}
    (read : readLabeledDataset c numerals protocol text = .ok set) :
    ∀ single ∈ set.values, FromLimits c single := by
  obtain ⟨lines, folded, read⟩ := bind_eq_ok.mp read
  obtain ⟨-, read⟩ := check_eq_ok.mp read
  obtain ⟨-, read⟩ := check_eq_ok.mp read
  obtain ⟨-, read⟩ := check_eq_ok.mp read
  cases read
  exact readLines_fromLimits (forall_mem_nil _) folded

/-- The facts of an accepted configuration that the limits rest on. -/
structure LimitsAccepted (rounding : Rounding A) (c : ApplicationConfiguration A) : Prop where
  ordered : rounding.number c.inputMin < rounding.number c.inputMax
  minFinite : A.doubleIsFinite c.inputMin = true
  maxFinite : A.doubleIsFinite c.inputMax = true
  minSmall : rounding.atMostMillion c.inputMin = true
  maxSmall : rounding.atMostMillion c.inputMax = true

theorem limitsAccepted (file : acceptPreprocessing rounding c = .ok ()) :
    LimitsAccepted rounding c := by
  obtain ⟨contract, preprocessing⟩ := check_eq_ok.mp file
  simp only [ensure_eq_ok, all_cons, all_nil, Bool.and_eq_true] at contract preprocessing
  obtain ⟨⟨minFinite, minSmall⟩, ⟨maxFinite, maxSmall⟩, -⟩ := preprocessing
  exact ⟨(rounding.doubleLt_iff _ _ minFinite maxFinite).mp contract.1, minFinite, maxFinite,
    minSmall, maxSmall⟩

theorem LimitsAccepted.within_iff (limits : LimitsAccepted rounding c)
    (finite : A.doubleIsFinite value = true) :
    withinLimits c value = true ↔
      rounding.number c.inputMin ≤ rounding.number value ∧
        rounding.number value ≤ rounding.number c.inputMax := by
  have low := rounding.doubleLt_iff _ _ finite limits.minFinite
  have high := rounding.doubleLt_iff _ _ limits.maxFinite finite
  rw [withinLimits, Bool.and_eq_true, Bool.not_eq_true', Bool.not_eq_true', ← Bool.not_eq_true,
    ← Bool.not_eq_true, low, high, Int.not_lt, Int.not_lt]

/-- A double within the limits is small, so its single is finite. -/
theorem LimitsAccepted.narrow_finite (limits : LimitsAccepted rounding c)
    (finite : A.doubleIsFinite value = true) (within : withinLimits c value = true) :
    A.isFinite (A.narrow value) = true := by
  refine rounding.narrow_finite value finite ?_
  have between := (limits.within_iff finite).mp within
  have low := (rounding.atMostMillion_iff _ limits.minFinite).mp limits.minSmall
  have high := (rounding.atMostMillion_iff _ limits.maxFinite).mp limits.maxSmall
  rw [rounding.atMostMillion_iff _ finite]
  omega

/-- Rounding does not pass the rounded limits. -/
theorem LimitsAccepted.narrow_within (limits : LimitsAccepted rounding c) (kept : LimitsKept c)
    (finite : A.doubleIsFinite value = true) (within : withinLimits c value = true) :
    withinLimits c (A.widen (A.narrow value)) = true := by
  have minWithin : withinLimits c c.inputMin = true :=
    (limits.within_iff limits.minFinite).mpr ⟨Int.le_refl _, Int.le_of_lt limits.ordered⟩
  have maxWithin : withinLimits c c.inputMax = true :=
    (limits.within_iff limits.maxFinite).mpr ⟨Int.le_of_lt limits.ordered, Int.le_refl _⟩
  have single := limits.narrow_finite finite within
  have minSingle := limits.narrow_finite limits.minFinite minWithin
  have maxSingle := limits.narrow_finite limits.maxFinite maxWithin
  have between := (limits.within_iff finite).mp within
  have low := (limits.within_iff (rounding.widen_finite _ minSingle)).mp kept.1
  have high := (limits.within_iff (rounding.widen_finite _ maxSingle)).mp kept.2
  rw [limits.within_iff (rounding.widen_finite _ single)]
  rw [rounding.number_narrow _ limits.minFinite minSingle] at low
  rw [rounding.number_narrow _ limits.maxFinite maxSingle] at high
  rw [rounding.number_narrow _ finite single]
  exact ⟨Int.le_trans low.1 (rounding.nearest.mono between.1),
    Int.le_trans (rounding.nearest.mono between.2) high.2⟩

theorem fillInput_unrejected
    (within : ∀ single ∈ raw, A.isFinite single = true ∧ withinLimits c (A.widen single) = true) :
    (fillInput c raw index data).1 ≠ .error "application_input_outside_range" := by
  induction raw generalizing index data with
  | nil => nofun
  | cons single rest ih =>
    obtain ⟨⟨finite, inside⟩, later⟩ := forall_mem_cons.mp within
    rw [withinLimits, Bool.and_eq_true, Bool.not_eq_true', Bool.not_eq_true'] at inside
    simp only [fillInput, finite, inside.1, inside.2, Bool.not_true, Bool.or_self,
      Bool.false_eq_true, if_false]
    split
    · simp
    · exact ih later

/-- A limit whose single leaves the limits is refused at once. -/
theorem limit_kept (host : acceptConfiguration c = .ok ()) (survive : RangesSurvive c numerals)
    (finite : A.doubleIsFinite limit = true) (within : withinLimits c limit = true) :
    withinLimits c (A.widen (A.narrow limit)) = true := by
  have sizes := (check_eq_ok.mp host).1
  simp only [ensure_eq_ok, Bool.and_eq_true, decide_eq_true_eq] at sizes
  obtain ⟨count, features⟩ : ∃ count, c.features = count + 1 :=
    Nat.exists_eq_succ_of_ne_zero (by omega)
  have fits : c.features ≤ c.batchSize * c.features := Nat.le_mul_of_pos_left _ (by omega)
  have passed : requestValues c (replicate c.features (.number limit)) =
      .ok (replicate c.features (A.narrow limit)) := by
    have each : requestValue c (.number limit) = .ok (A.narrow limit) := by
      simp only [requestValue, finite, within]
      rfl
    have all : ∀ count, (replicate count (Item.number limit)).mapM (requestValue c) =
        .ok (replicate count (A.narrow limit)) := by
      intro count
      induction count with
      | zero => rfl
      | succ count ih =>
        rw [replicate_succ, mapM_cons, each, ih]
        rfl
    rw [requestValues, length_replicate, decide_eq_true fits]
    exact all _
  have accepted := survive.request _ _ passed
  rw [features, replicate_succ] at accepted
  by_contra outside
  refine accepted ⟨[], ?_⟩
  rw [withinLimits, Bool.and_eq_true, Bool.not_eq_true', Bool.not_eq_true', not_and_or,
    Bool.not_eq_false, Bool.not_eq_false] at outside
  rcases outside with below | above
  · simp [fillInput, below]
  · simp [fillInput, above]

/-- What passes the limits as a double passes them as a single exactly where the limits
themselves do. -/
theorem rangesSurvive_iff (host : acceptConfiguration c = .ok ())
    (file : acceptPreprocessing rounding c = .ok ()) :
    RangesSurvive c numerals ↔ LimitsKept c := by
  have limits := limitsAccepted file
  constructor
  · intro survive
    refine ⟨limit_kept host survive limits.minFinite ?_,
      limit_kept host survive limits.maxFinite ?_⟩
    · rw [limits.within_iff limits.minFinite]
      exact ⟨Int.le_refl _, Int.le_of_lt limits.ordered⟩
    · rw [limits.within_iff limits.maxFinite]
      exact ⟨Int.le_of_lt limits.ordered, Int.le_refl _⟩
  · intro kept
    have unrejected : ∀ raw : List A.Float, (∀ single ∈ raw, FromLimits c single) →
        ¬ RangeRejected c raw := by
      rintro raw made ⟨data, rejected⟩
      refine fillInput_unrejected (fun single member => ?_) rejected
      obtain ⟨value, finite, within, rfl⟩ := made single member
      exact ⟨limits.narrow_finite finite within, limits.narrow_within kept finite within⟩
    refine ⟨fun items raw passed => unrejected raw (requestValues_fromLimits passed), ?_⟩
    intro protocol text set read raw part
    exact unrejected raw fun single member =>
      readLabeledDataset_fromLimits read single (part.subset member)

end Proofs

/-- The first power of two that is no finite single, as a multiple of `2^-1074`. -/
def singleBound : Nat := 2 ^ (128 + 1074)

def doubleBound : Nat := 2 ^ (1024 + 1074)

@[irreducible] def smaller (bound : Nat) (value : Int) : Bool := value.natAbs < bound

theorem smaller_iff : smaller bound value = true ↔ value.natAbs < bound := by
  rw [smaller, decide_eq_true_iff]

/-- Finite singles and doubles as multiples of `2^-1074`; larger numbers stand for the
infinities. -/
abbrev binary : Arithmetic where
  Float := Int
  Double := Int
  zero := 0
  isFinite := smaller singleBound
  lt left right := left < right
  eq left right := left == right
  rank := id
  widen := id
  narrow := roundBinary 925 24
  doubleIsFinite := smaller doubleBound
  doubleLt left right := left < right
  doubleIsZero value := value == 0
  doubleSub left right := roundBinary 0 53 (left - right)
  doubleMul left right := roundBinary 1074 53 (left * right) / 2 ^ 1074
  lt_iff _ _ _ _ := decide_eq_true_iff
  eq_iff _ _ _ _ := beq_iff_eq

def binaryRounding : Rounding binary where
  number := id
  atMostMillion value := value.natAbs ≤ 10 ^ 6 * 2 ^ 1074
  doubleLt_iff _ _ _ _ := decide_eq_true_iff
  atMostMillion_iff _ _ := decide_eq_true_iff
  narrow_finite value _ small := by
    have bounded := @natAbs_roundBinary_le 925 24 value (10 ^ 6 * 2 ^ 1074) (by decide)
      (by decide +kernel) (of_decide_eq_true small)
    have below : 10 ^ 6 * 2 ^ 1074 < singleBound := by decide +kernel
    exact smaller_iff.mpr (Nat.lt_of_le_of_lt bounded below)
  widen_finite value finite := by
    have larger : singleBound < doubleBound := by decide +kernel
    exact smaller_iff.mpr (Nat.lt_trans (smaller_iff.mp finite) larger)
  round := roundBinary 925 24
  nearest := roundBinary_nearest (by decide)
  number_narrow _ _ _ := rfl

/-- One feature between zero and a limit. -/
def limitConfiguration (limit : Int) : ApplicationConfiguration binary where
  batchSize := 1
  features := 1
  classes := 2
  inputShape := [1, 1]
  outputShape := [1, 2]
  inputMin := 0
  inputMax := limit
  offset := 0
  scale := 2 ^ 1074

theorem unitLimit_survives :
    RangesSurvive (limitConfiguration (2 ^ 1074)) ⟨fun _ => none, fun _ => none⟩ :=
  (@rangesSurvive_iff _ binaryRounding _ _ (by decide +kernel) (by decide +kernel)).mpr
    ⟨by decide +kernel, by decide +kernel⟩

/-- The double next to `0.1`. -/
def tenth : Int := 3602879701896397 * 2 ^ 1019

/-- With the limit `0.1`, the value `0.1` passes and its single is refused. -/
theorem tenthLimit_rejects :
    acceptConfiguration (limitConfiguration tenth) = .ok () ∧
      acceptPreprocessing binaryRounding (limitConfiguration tenth) = .ok () ∧
      requestValues (limitConfiguration tenth) [.number tenth] = .ok [13421773 * 2 ^ 1047] ∧
      RangeRejected (limitConfiguration tenth) [13421773 * 2 ^ 1047] :=
  ⟨by decide +kernel, by decide +kernel, by decide +kernel, [], by decide +kernel⟩

end ShortHand.Application
