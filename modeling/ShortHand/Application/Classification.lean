import Mathlib.Data.List.Basic
import ShortHand.Library.Outcome

/-! Batch classification (`ApplicationQualification.cpp`). A failure behind the session's call
shrinks the caller's vectors back. -/

namespace ShortHand.Application

open ShortHand.Library List

/-- The floating-point operations of the host. Finite values are compared as the
numbers `rank` stands for. -/
structure Arithmetic where
  Float : Type
  Double : Type
  zero : Float
  isFinite : Float → Bool
  lt : Float → Float → Bool
  eq : Float → Float → Bool
  rank : Float → Int
  widen : Float → Double
  narrow : Double → Float
  doubleIsFinite : Double → Bool
  doubleLt : Double → Double → Bool
  doubleIsZero : Double → Bool
  doubleSub : Double → Double → Double
  doubleMul : Double → Double → Double
  lt_iff : ∀ left right, isFinite left = true → isFinite right = true →
    (lt left right = true ↔ rank left < rank right)
  eq_iff : ∀ left right, isFinite left = true → isFinite right = true →
    (eq left right = true ↔ rank left = rank right)

/-- A comparison that orders the items of a list strictly and totally. -/
structure Orders (less : Nat → Nat → Bool) (items : List Nat) : Prop where
  asymm : ∀ a ∈ items, ∀ b ∈ items, less a b = true → less b a = false
  trans : ∀ a ∈ items, ∀ b ∈ items, ∀ c ∈ items, less a b = true → less b c = true →
    less a c = true
  total : ∀ a ∈ items, ∀ b ∈ items, a ≠ b → less a b = true ∨ less b a = true

/-- `std::partial_sort`, with what the standard promises of it. -/
structure PartialSort where
  run : (Nat → Nat → Bool) → Nat → List Nat → List Nat
  perm : ∀ less middle items, (run less middle items).Perm items
  ordered : ∀ less middle items, Orders less items → middle ≤ items.length →
    ((run less middle items).take middle).Pairwise (fun a b => less b a = false) ∧
      ∀ a ∈ (run less middle items).take middle, ∀ b ∈ (run less middle items).drop middle,
        less b a = false

/-- The parts of the configuration that classification reads. -/
structure ApplicationConfiguration (A : Arithmetic) where
  batchSize : Nat
  features : Nat
  classes : Nat
  topK : Nat := 1
  inputShape : List Int
  outputShape : List Int
  inputMin : A.Double
  inputMax : A.Double
  offset : A.Double
  scale : A.Double

variable {A : Arithmetic}

/-- The checks of the constructor, before it prepares a session. -/
def acceptConfiguration (c : ApplicationConfiguration A) : Except String Unit := do
  ensure (c.features > 0 && c.features ≤ 4096 && c.classes ≥ 2 && c.classes ≤ 256 && c.topK > 0 &&
    c.topK ≤ c.classes && c.batchSize > 0 && c.batchSize ≤ 1024 && A.doubleIsFinite c.inputMin &&
    A.doubleIsFinite c.inputMax && A.doubleLt c.inputMin c.inputMax && A.doubleIsFinite c.offset &&
    A.doubleIsFinite c.scale && !A.doubleIsZero c.scale) "invalid_application_host_configuration"
  ensure (c.inputShape = [(c.batchSize : Int), c.features] &&
    c.outputShape = [(c.batchSize : Int), c.classes]) "invalid_application_host_shapes"

/-- What an inference call returns beside the scores it wrote. -/
structure InferenceResult where
  success : Bool
  reason : String
  outputF32Empty : Bool
  outputElements : Nat

/-- A call of the session: what its destination range holds afterwards, and its result
or the text of an exception. -/
structure SessionRun (A : Arithmetic) where
  written : List A.Float
  outcome : Except String InferenceResult

/-- A prepared session as a function of its whole input; it writes no more than its
destination range. -/
structure Session (A : Arithmetic) (extent : Nat) where
  run : List A.Float → SessionRun A
  within : ∀ input, (run input).written.length = extent

def ApplicationConfiguration.paddedScores (c : ApplicationConfiguration A) : Nat :=
  c.batchSize * c.classes

/-- The caller's vectors. -/
structure Outputs (A : Arithmetic) where
  scores : List A.Float
  predictions : List Nat
  topK : List Nat

/-- `vector::resize`. -/
def resize {α : Type} (size : Nat) (fill : α) (values : List α) : List α :=
  values.take size ++ replicate (size - values.length) fill

def normalize (c : ApplicationConfiguration A) (value : A.Float) : A.Float :=
  A.narrow (A.doubleMul (A.doubleSub (A.widen value) c.offset) c.scale)

/-- The loop over the raw values from `index` on; the workspace keeps what was
written when it throws. -/
def fillInput (c : ApplicationConfiguration A) :
    List A.Float → Nat → List A.Float → Except String Unit × List A.Float
  | [], _, data => (.ok (), data)
  | value :: rest, index, data =>
    if !A.isFinite value || A.doubleLt (A.widen value) c.inputMin ||
        A.doubleLt c.inputMax (A.widen value) then
      (.error "application_input_outside_range", data)
    else
      let data := data.set index (normalize c value)
      if !A.isFinite (normalize c value) then (.error "application_preprocessing_overflow", data)
      else fillInput c rest (index + 1) data

/-- The checks of the caller's vectors. -/
def checkOutputs (c : ApplicationConfiguration A) (count : Nat) (out : Outputs A) :
    Except String Unit := do
  let scoreBase := out.scores.length
  let predictionBase := out.predictions.length
  let topBase := out.topK.length
  ensure (scoreBase = predictionBase * c.classes && topBase = predictionBase * c.topK)
    "misaligned_application_output_buffers"
  ensure (scoreBase ≤ 262144 && count * c.classes ≤ 262144 - scoreBase)
    "application_score_output_limit"
  ensure (predictionBase ≤ 100000 && count ≤ 100000 - predictionBase)
    "application_prediction_output_limit"
  ensure (topBase ≤ 262144 && count * c.topK ≤ 262144 - topBase) "application_topk_output_limit"
  ensure (scoreBase ≤ 16 * 1024 * 1024 && c.paddedScores ≤ 16 * 1024 * 1024 - scoreBase)
    "application_output_workspace_limit"

/-- `Rollback` in its destructor. -/
def rollback (before : Outputs A) (out : Outputs A) : Outputs A where
  scores := resize before.scores.length A.zero out.scores
  predictions := resize before.predictions.length 0 out.predictions
  topK := resize before.topK.length 0 out.topK

/-- The comparison of the partial sort over one row of scores. -/
def precedes (score : Nat → A.Float) (a b : Nat) : Bool :=
  if A.eq (score a) (score b) then a < b else A.lt (score b) (score a)

def scoreAt (scores : List A.Float) (base classes row label : Nat) : A.Float :=
  scores.getD (base + row * classes + label) A.zero

/-- The labels of one row after the partial sort. -/
def rankRow (sort : PartialSort) (c : ApplicationConfiguration A) (scores : List A.Float)
    (base row : Nat) : List Nat :=
  sort.run (precedes (scoreAt scores base c.classes row)) c.topK (range c.classes)

/-- Stores the best labels of one row. -/
def storeRow (c : ApplicationConfiguration A) (order : List Nat) (predictionBase topBase row : Nat)
    (out : Outputs A) : Outputs A :=
  { out with
    predictions := out.predictions.set (predictionBase + row) (order.headD 0)
    topK := out.topK.take (topBase + row * c.topK) ++ order.take c.topK ++
      out.topK.drop (topBase + row * c.topK + c.topK) }

/-- The part of the call that the rollback guards, on vectors that have not grown yet. -/
def inferRows (sort : PartialSort) (c : ApplicationConfiguration A)
    (session : Session A c.paddedScores) (data : List A.Float) (count : Nat) (before : Outputs A) :
    Except String Unit × Outputs A :=
  let grown := resize (before.scores.length + c.paddedScores) A.zero before.scores
  let call := session.run data
  let out := { before with scores := grown.take before.scores.length ++ call.written }
  match call.outcome with
  | .error what => (.error what, out)
  | .ok result =>
    if !result.success then (.error ("application_inference_failed:" ++ result.reason), out)
    else if !(result.outputF32Empty && result.outputElements == c.paddedScores) then
      (.error "application_output_count_mismatch", out)
    else if !(out.scores.drop before.scores.length).all A.isFinite then
      (.error "nonfinite_application_output", out)
    else
      let scores := resize (before.scores.length + count * c.classes) A.zero out.scores
      let sized : Outputs A :=
        { scores
          predictions := resize (before.predictions.length + count) 0 before.predictions
          topK := resize (before.topK.length + count * c.topK) 0 before.topK }
      (.ok (), (range count).foldl (fun out row =>
        storeRow c (rankRow sort c scores before.scores.length row) before.predictions.length
          before.topK.length row out) sized)

/-- `classifyBatchAppend`: its result, the workspace and the caller's vectors. -/
def classifyBatchAppend (sort : PartialSort) (c : ApplicationConfiguration A)
    (session : Session A c.paddedScores) (raw workspace : List A.Float) (out : Outputs A) :
    Except String Unit × List A.Float × Outputs A :=
  if !(raw.length != 0 && raw.length % c.features == 0 && raw.length ≤ c.batchSize * c.features) then
    (.error "invalid_application_batch", workspace, out)
  else
    match fillInput c raw 0 (resize (c.batchSize * c.features) A.zero workspace) with
    | (.error what, data) => (.error what, data, out)
    | (.ok (), data) =>
      let data := data.take raw.length ++ replicate (data.length - raw.length) A.zero
      match checkOutputs c (raw.length / c.features) out with
      | .error what => (.error what, data, out)
      | .ok () =>
        match inferRows sort c session data (raw.length / c.features) out with
        | (.error what, touched) => (.error what, data, rollback out touched)
        | (.ok (), done) => (.ok (), data, done)

/-- `ClassificationApplication::classifyAppend` with a workspace. -/
def classifyAppend (sort : PartialSort) (c : ApplicationConfiguration A)
    (session : Session A c.paddedScores) (raw workspace : List A.Float) (out : Outputs A) :
    Except String Unit × List A.Float × Outputs A :=
  classifyBatchAppend sort c session raw workspace out

end ShortHand.Application
