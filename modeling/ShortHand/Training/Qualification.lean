import ShortHand.Library.Interleaving
import ShortHand.Training.Network

/-! The training loop. Worker `t` of `n` computes the examples `t`, `t + n`, `t + 2n`, … -/

namespace ShortHand.Training

open ShortHand.Library List

structure TrainingConfiguration (F : FloatOps) where
  epochs : Nat := 16
  samples : Nat := 64
  validationSamples : Nat := 32
  batchSize : Nat := 8
  threads : Nat := 1
  seed : UInt32 := 42
  learningRate : F.Float
  targetAccuracy : F.Double

structure TrainingEpoch (F : FloatOps) where
  index : Nat
  samplesProcessed : Nat
  loss : F.Double
  validationAccuracy : F.Double

structure TrainingOutcome (F : FloatOps) where
  success : Bool := false
  reason : String := ""
  samplesProcessed : Nat := 0
  optimizerSteps : Nat := 0
  initialLoss : F.Double
  finalLoss : F.Double
  validationAccuracy : F.Double
  parameters : List F.Float := []
  epochs : List (TrainingEpoch F) := []

/-- What the host decides in an optimizer step: in which order the workers move, and
whether starting a thread or reading the energy counters throws. -/
structure StepEvents where
  turns : List Nat
  failure : Option String

variable {F : FloatOps}

def validConfiguration (availableCpuThreads : Nat) (c : TrainingConfiguration F) : Bool :=
  !(c.epochs == 0 || c.epochs > 100 || c.samples < 8 || c.samples > 4096 ||
    c.validationSamples < 2 || c.validationSamples > 4096 || c.batchSize == 0 ||
    c.batchSize > 128 || c.samples % c.batchSize != 0 || c.threads == 0 ||
    c.threads > availableCpuThreads || c.threads > c.batchSize || c.seed == 0 ||
    !F.isFinite c.learningRate || F.le c.learningRate F.zero ||
    F.lt (F.decimal 1 0) c.learningRate || !F.doubleIsFinite c.targetAccuracy ||
    F.doubleLt c.targetAccuracy (F.doubleOfNat 0) || F.doubleLt (F.doubleOfNat 1) c.targetAccuracy)

/-- The vectors of an optimizer step. -/
structure Batch (F : FloatOps) where
  losses : Nat → F.Float := fun _ => F.zero
  gradients : Nat → List F.Float := fun _ => []
  errors : Nat → Option String := fun _ => none

/-- A store of a worker. The accumulation inside one gradient is seen by no other
thread, so the gradient is stored as a whole. -/
inductive Store (F : FloatOps) where
  | gradient (index : Nat) (value : List F.Float)
  | loss (index : Nat) (value : F.Float)
  | error (worker : Nat) (what : String)

def Batch.store (batch : Batch F) : Store F → Batch F
  | .gradient index value => { batch with gradients := Function.update batch.gradients index value }
  | .loss index value => { batch with losses := Function.update batch.losses index value }
  | .error worker what => { batch with errors := Function.update batch.errors worker (some what) }

/-- `for (i = index; i < bound; i += step)`, with fuel for its rounds. -/
def strided (step bound : Nat) : Nat → Nat → List Nat
  | 0, _ => []
  | fuel + 1, index => if index < bound then index :: strided step bound fuel (index + step) else []

/-- The stores of a worker for the examples it still has to compute; it stops at an
exception. -/
def workerStores (compute : Nat → Except String (F.Float × List F.Float)) (worker : Nat) :
    List Nat → List (Store F)
  | [] => []
  | index :: rest =>
    match compute index with
    | .ok (loss, gradient) =>
      .gradient index gradient :: .loss index loss :: workerStores compute worker rest
    | .error what => [.error worker what]

/-- The stores of each worker of a step. -/
def workers (compute : Nat → Except String (F.Float × List F.Float)) (threads batchSize : Nat) :
    List (List (Store F)) :=
  (range threads).map fun worker =>
    workerStores compute worker (strided threads batchSize batchSize worker)

/-- The step's vectors after the workers were joined. -/
def runWorkers (compute : Nat → Except String (F.Float × List F.Float)) (threads batchSize : Nat)
    (turns : List Nat) : Batch F :=
  (interleave (workers compute threads batchSize) turns).foldl Batch.store {}

/-- Rethrows the exception of the first worker that has one. -/
def rethrow (threads : Nat) (batch : Batch F) : Except String Unit :=
  match (range threads).findSome? batch.errors with
  | some what => .error what
  | none => .ok ()

variable (c : TrainingConfiguration F)

/-- The reduction in the order of the batch and the descent of each parameter. -/
def descend (gradients : List (List F.Float)) (parameters : List F.Float) : List F.Float :=
  parameters.mapIdx fun p value =>
    let sum := gradients.foldl (fun sum gradient => F.add sum (entry gradient p)) F.zero
    F.sub value (F.mul c.learningRate (F.div sum (F.ofNat c.batchSize)))

/-- What the loops change. -/
structure Progress (F : FloatOps) where
  parameters : List F.Float
  loss : F.Double
  outcome : TrainingOutcome F

/-- The losses and gradients of the batch that starts at `start`. -/
def runStep (data : List (Example F)) (events : StepEvents)
    (parameters : List F.Float) (start : Nat) :
    Except String (List F.Float × List (List F.Float)) := do
  if let some what := events.failure then throw what
  let compute (index : Nat) : Except String (F.Float × List F.Float) :=
    lossAndGradient parameters (data.getD (start + index) ⟨[], 0⟩)
  let batch := runWorkers compute c.threads c.batchSize events.turns
  rethrow c.threads batch
  return ((range c.batchSize).map batch.losses, (range c.batchSize).map batch.gradients)

/-- A batch of the optimizer; an exception keeps the outcome so far. -/
def trainBatch (data : List (Example F))
    (events : Nat → StepEvents) (progress : Progress F) (start : Nat) :
    Except (TrainingOutcome F × String) (Progress F) :=
  match runStep c data (events progress.outcome.optimizerSteps) progress.parameters start with
  | .error what => .error (progress.outcome, what)
  | .ok (losses, gradients) => .ok
    { parameters := descend c gradients progress.parameters
      loss := losses.foldl (fun loss value => F.doubleAdd loss (F.widen value)) progress.loss
      outcome := { progress.outcome with
        samplesProcessed := progress.outcome.samplesProcessed + c.batchSize
        optimizerSteps := progress.outcome.optimizerSteps + 1 } }

/-- The value of a computation inside the `try` block. -/
def attempt {α : Type} (outcome : TrainingOutcome F) (computation : Except String α) :
    Except (TrainingOutcome F × String) α :=
  match computation with
  | .error what => .error (outcome, what)
  | .ok value => .ok value

/-- The starts of the batches. -/
def batchStarts : List Nat :=
  strided c.batchSize c.samples c.samples 0

def trainEpoch (data validation : List (Example F))
    (events : Nat → StepEvents) (progress : Progress F) (epoch : Nat) :
    Except (TrainingOutcome F × String) (Progress F) := do
  let progress ← (batchStarts c).foldlM (trainBatch c data events)
    { progress with loss := F.doubleOfNat 0 }
  let (loss, accuracy) ← attempt progress.outcome (evaluate progress.parameters validation)
  return { progress with
    outcome := { progress.outcome with
      epochs := progress.outcome.epochs ++
        [{ index := epoch + 1
           samplesProcessed := c.samples
           loss := F.doubleDiv progress.loss (F.doubleOfNat c.samples)
           validationAccuracy := accuracy }]
      finalLoss := loss
      validationAccuracy := accuracy } }

/-- The `try` block: its outcome, or the outcome so far and the exception. -/
def training (events : Nat → StepEvents) :
    Except (TrainingOutcome F × String) (TrainingOutcome F) := do
  let data := dataset F c.samples (c.seed ^^^ 0x12345678)
  let validation := dataset F c.validationSamples (c.seed ^^^ 0x87654321)
  let parameters := initialParameters F c.seed
  let empty : TrainingOutcome F :=
    { initialLoss := F.doubleOfNat 0, finalLoss := F.doubleOfNat 0
      validationAccuracy := F.doubleOfNat 0 }
  let (initialLoss, _) ← attempt empty (evaluate parameters validation)
  let progress ← (range c.epochs).foldlM (trainEpoch c data validation events)
    { parameters, loss := F.doubleOfNat 0, outcome := { empty with initialLoss } }
  let out := progress.outcome
  let success := F.doubleLe c.targetAccuracy out.validationAccuracy &&
    F.doubleLt out.finalLoss out.initialLoss
  return { out with
    parameters := progress.parameters
    success
    reason := if success then "training_quality_satisfied"
      else "training_quality_threshold_failed" }

/-- `trainCpuQualification`, without its energy records. -/
def trainCpuQualification (availableCpuThreads : Nat) (c : TrainingConfiguration F)
    (events : Nat → StepEvents) : Except String (TrainingOutcome F) := do
  ensure (validConfiguration availableCpuThreads c) "invalid_training_configuration"
  match training c events with
  | .ok outcome => return outcome
  | .error (outcome, what) => return { outcome with reason := what }

end ShortHand.Training
