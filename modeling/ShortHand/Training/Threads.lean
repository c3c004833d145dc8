import ShortHand.Training.Qualification

/-! Training does not depend on the number of threads: each example is stored by one worker
alone. -/

namespace ShortHand.Training

open ShortHand.Library List

variable {F : FloatOps}

section Strides

variable {step bound : Nat}

theorem mem_strided (positive : 0 < step) (enough : bound ≤ index + fuel) :
    position ∈ strided step bound fuel index ↔
      position < bound ∧ ∃ round, position = index + round * step := by
  induction fuel generalizing index with
  | zero =>
    constructor
    · intro absent
      cases absent
    · rintro ⟨within, round, rfl⟩
      omega
  | succ fuel ih =>
    rw [strided]
    split
    · rename_i within
      rw [mem_cons, ih (by omega)]
      constructor
      · rintro (rfl | ⟨small, round, rfl⟩)
        · exact ⟨within, 0, by simp⟩
        · exact ⟨small, round + 1, by rw [Nat.succ_mul]; omega⟩
      · rintro ⟨small, round, rfl⟩
        cases round with
        | zero => exact .inl (by simp)
        | succ round => exact .inr ⟨small, round, by rw [Nat.succ_mul]; omega⟩
    · rename_i past
      constructor
      · intro absent
        cases absent
      · rintro ⟨small, round, rfl⟩
        omega

/-- Worker `t` of `n` computes the examples whose number leaves `t` modulo `n`. -/
theorem mem_worker_indices (working : worker < threads) :
    index ∈ strided threads batchSize batchSize worker ↔
      index < batchSize ∧ index % threads = worker := by
  rw [mem_strided (Nat.zero_lt_of_lt working) (Nat.le_add_left _ _)]
  refine and_congr_right fun _ => ⟨?_, ?_⟩
  · rintro ⟨round, rfl⟩
    rw [Nat.add_mul_mod_self_right, Nat.mod_eq_of_lt working]
  intro remainder
  refine ⟨index / threads, ?_⟩
  have whole := Nat.mod_add_div' index threads
  omega

end Strides

section Workers

variable {compute : Nat → Except String (F.Float × List F.Float)}
  {worker index number threads batchSize : Nat} {indices : List Nat} {batch : Batch F}

/-- What the vectors hold for an example and for a worker. -/
def Batch.part (worker index : Nat) (batch : Batch F) : (F.Float × List F.Float) × Option String :=
  ((batch.losses index, batch.gradients index), batch.errors worker)

/-- Whether a store goes there. -/
def Store.touches (worker index : Nat) : Store F → Bool
  | .loss other _ | .gradient other _ => other = index
  | .error other _ => other = worker

theorem part_store (batch : Batch F) (store : Store F) (missed : store.touches worker index = false) :
    (batch.store store).part worker index = batch.part worker index := by
  cases store <;> simp_all [Store.touches, Batch.part, Batch.store, eq_comm]

theorem part_congr (first second : Batch F) (store : Store F)
    (same : first.part worker index = second.part worker index) :
    (first.store store).part worker index = (second.store store).part worker index := by
  cases store <;> simp_all [Batch.part, Batch.store, Function.update_apply]

/-- A worker stores only the results of its own examples and its own error. -/
theorem touches_workerStores (member : store ∈ workerStores compute number indices)
    (selected : store.touches worker index = true) : index ∈ indices ∨ number = worker := by
  induction indices with
  | nil => cases member
  | cons other rest ih =>
    rw [workerStores] at member
    split at member
    · rcases mem_cons.mp member with rfl | member
      · exact .inl (of_decide_eq_true selected ▸ mem_cons_self)
      · rcases mem_cons.mp member with rfl | later
        · exact .inl (of_decide_eq_true selected ▸ mem_cons_self)
        · exact (ih later).imp_left (mem_cons_of_mem other)
    · obtain rfl := mem_singleton.mp member
      exact .inr (of_decide_eq_true selected)

/-- What concerns an example or its worker ends as if that worker had run alone. -/
theorem part_runWorkers (positive : 0 < threads) (turns : List Nat) :
    (runWorkers compute threads batchSize turns).part (index % threads) index =
      ((workerStores compute (index % threads)
        (strided threads batchSize batchSize (index % threads))).foldl Batch.store {}).part
          (index % threads) index := by
  have owned : OwnedBy (workers compute threads batchSize) (Store.touches (index % threads) index)
      (index % threads) := by
    intro number thread found store member selected
    rw [workers, getElem?_map, Option.map_eq_some_iff] at found
    obtain ⟨worker, ranged, rfl⟩ := found
    obtain ⟨working, rfl⟩ : number < threads ∧ number = worker := by
      simpa [getElem?_range, eq_comm] using List.getElem?_eq_some_iff.mp ranged
    rcases touches_workerStores member selected with listed | own
    · exact ((mem_worker_indices working).mp listed).2.symm
    · exact own
  have mine : (workers compute threads batchSize)[index % threads]?.getD [] = workerStores compute
      (index % threads) (strided threads batchSize batchSize (index % threads)) := by
    simp [workers, getElem?_map, getElem?_range (Nat.mod_lt index positive)]
  rw [← mine]
  exact read_interleave part_store part_congr owned turns {}

/-- A worker that met no exception computed each of its examples. -/
theorem worker_computed
    (quiet : ((workerStores compute worker indices).foldl Batch.store batch).errors worker = none)
    (known : index ∈ indices ∨ compute index = .ok (batch.part worker index).1) :
    compute index =
      .ok (((workerStores compute worker indices).foldl Batch.store batch).part worker index).1 := by
  induction indices generalizing batch with
  | nil => exact known.resolve_left not_mem_nil
  | cons other rest ih =>
    rw [workerStores] at quiet ⊢
    split at quiet
    · rename_i loss gradient here
      refine ih quiet ?_
      by_cases same : index = other
      · subst same
        simp [here, Batch.part, Batch.store]
      · refine known.imp (mem_of_ne_of_mem same) fun before => ?_
        simpa [Batch.part, Batch.store, Function.update_of_ne same] using before
    · simp [Batch.store] at quiet

theorem rethrow_eq_ok (quiet : rethrow threads batch = .ok ()) :
    ∀ worker < threads, batch.errors worker = none := by
  intro worker working
  unfold rethrow at quiet
  split at quiet
  · cases quiet
  · rename_i none
    exact findSome?_eq_none_iff.mp none worker (mem_range.mpr working)

/-- After workers that met no exception the vectors hold what was computed, whatever
their number and their schedule. -/
theorem runWorkers_computed (positive : 0 < threads) (turns : List Nat)
    (quiet : rethrow threads (runWorkers compute threads batchSize turns) = .ok ())
    (inside : index < batchSize) :
    compute index = .ok ((runWorkers compute threads batchSize turns).losses index,
      (runWorkers compute threads batchSize turns).gradients index) := by
  have working : index % threads < threads := Nat.mod_lt _ positive
  have part := @part_runWorkers F compute index threads batchSize positive turns
  have errors := (congrArg Prod.snd part).symm.trans (rethrow_eq_ok quiet _ working)
  exact (worker_computed errors (.inl ((mem_worker_indices working).mpr ⟨inside, rfl⟩))).trans
    (congrArg Except.ok (congrArg Prod.fst part).symm)

end Workers

section Runs

variable {c : TrainingConfiguration F} {data validation : List (Example F)}
  {availableCpuThreads : Nat}

theorem threads_pos (valid : validConfiguration availableCpuThreads c = true) : 0 < c.threads := by
  have positive : c.threads ≠ 0 := by
    intro none
    simp [validConfiguration, none] at valid
  omega

theorem runStep_alike (positive : 0 < first) (positive' : 0 < second) :
    Alike Eq (runStep { c with threads := first } data events parameters start)
      (runStep { c with threads := second } data others parameters start) := by
  intro one two finished also
  unfold runStep at finished also
  split at finished
  · cases finished
  split at also
  · cases also
  obtain ⟨_, quiet, returned⟩ := bind_eq_ok.mp finished
  obtain ⟨_, quiet', returned'⟩ := bind_eq_ok.mp also
  cases returned
  cases returned'
  have equal (index : Nat) (inside : index ∈ range c.batchSize) :=
    Prod.mk.inj (Except.ok.inj
      ((runWorkers_computed positive events.turns quiet (mem_range.mp inside)).symm.trans
        (runWorkers_computed positive' others.turns quiet' (mem_range.mp inside))))
  exact Prod.ext (map_congr_left fun index inside => (equal index inside).1)
    (map_congr_left fun index inside => (equal index inside).2)

theorem trainBatch_alike (events others : Nat → StepEvents) (positive : 0 < first)
    (positive' : 0 < second) :
    Alike Eq (trainBatch { c with threads := first } data events progress start)
      (trainBatch { c with threads := second } data others progress start) := by
  intro one two finished also
  unfold trainBatch at finished also
  split at finished
  · cases finished
  rename_i losses gradients ran
  split at also
  · cases also
  · rename_i losses' gradients' ran'
    cases runStep_alike positive positive' _ _ ran ran'
    exact Except.ok.inj (finished.symm.trans also)

theorem attempt_eq_ok {outcome : TrainingOutcome F} {computation : Except String α}
    {value : α} : attempt outcome computation = .ok value ↔ computation = .ok value := by
  cases computation with
  | error what => simp [attempt]
  | ok found => simp [attempt]

theorem trainEpoch_alike (events others : Nat → StepEvents) (positive : 0 < first)
    (positive' : 0 < second) :
    Alike Eq (trainEpoch { c with threads := first } data validation events progress epoch)
      (trainEpoch { c with threads := second } data validation others progress epoch) :=
  (Alike.foldlM rfl fun _ _ _ same =>
    same ▸ trainBatch_alike events others positive positive').bind fun _ _ same => same ▸ .refl

theorem training_alike (events others : Nat → StepEvents) (positive : 0 < first)
    (positive' : 0 < second) :
    Alike Eq (training { c with threads := first } events)
      (training { c with threads := second } others) :=
  .read fun _ => (Alike.foldlM rfl fun _ _ _ same =>
    same ▸ trainEpoch_alike events others positive positive').bind fun _ _ same => same ▸ .refl

/-- Two runs of one configuration with admissible numbers of threads, under any two
schedules, return the same outcome if no exception ended either. -/
theorem training_threads_irrelevant (availableCpuThreads : Nat) (c : TrainingConfiguration F)
    (first second : Nat) (events others : Nat → StepEvents) (one two : TrainingOutcome F)
    (accepted : validConfiguration availableCpuThreads { c with threads := first } = true)
    (accepted' : validConfiguration availableCpuThreads { c with threads := second } = true)
    (finished : training { c with threads := first } events = .ok one)
    (finished' : training { c with threads := second } others = .ok two) :
    trainCpuQualification availableCpuThreads { c with threads := first } events = .ok one ∧
      trainCpuQualification availableCpuThreads { c with threads := second } others = .ok two ∧
      one = two := by
  have same := training_alike events others (threads_pos accepted) (threads_pos accepted')
    one two finished finished'
  refine ⟨?_, ?_, same⟩
  · simp [trainCpuQualification, ensure, accepted, finished]
  · simp [trainCpuQualification, ensure, accepted', finished']

end Runs

section Finish

variable {c : TrainingConfiguration F}

theorem label_dataset_le (count : Nat) (seed : UInt32) :
    ∀ sample ∈ dataset F count seed, sample.label ≤ 1 := by
  unfold dataset
  refine foldlRecOn (motive := fun made : List (Example F) × UInt32 =>
    ∀ sample ∈ made.1, sample.label ≤ 1) _ _ (forall_mem_nil _) fun made small n _ sample member => ?_
  rcases mem_append.mp member with older | new
  · exact small sample older
  · rw [mem_singleton.mp new]
    exact Nat.le_of_lt_succ (Nat.mod_lt n (by decide))

theorem length_initialParameters (seed : UInt32) :
    (initialParameters F seed).length = parameterCount := by
  unfold initialParameters
  rw [length_mapIdx]
  refine (@foldl_hom _ _ _ (fun made : List F.Float × UInt32 => made.1.length) _
    (fun count _ => count + 1) _ _ fun _ _ => ?_).symm.trans ?_ <;> simp

/-- The forward pass throws only at a bad label, a bad parameter vector or a value that
is not finite. -/
theorem exists_forward (finite : ∀ value, F.isFinite value = true) {parameters image : List F.Float}
    {label : Nat} (small : label ≤ 1) (sized : parameters.length = parameterCount) :
    ∃ pass, forward parameters image label = .ok pass := by
  have valid : (decide (label ≤ 1) && parameters.length == parameterCount) = true := by
    simp [small, sized]
  have pixels : image.all F.isFinite = true := all_eq_true.mpr fun value _ => finite value
  refine ⟨_, check_eq_ok.mpr ⟨ensure_eq_ok.mpr valid, check_eq_ok.mpr
    ⟨ensure_eq_ok.mpr pixels, check_eq_ok.mpr ⟨ensure_eq_ok.mpr (finite _), rfl⟩⟩⟩⟩

theorem exists_evaluate (finite : ∀ value, F.isFinite value = true) {parameters : List F.Float}
    {samples : List (Example F)} (small : ∀ sample ∈ samples, sample.label ≤ 1)
    (sized : parameters.length = parameterCount) :
    ∃ quality, evaluate parameters samples = .ok quality := by
  obtain ⟨totals, summed⟩ := @exists_foldlM_eq_ok _ _ _
    (fun (sums : F.Double × Nat) (sample : Example F) => do
      let pass ← forward parameters sample.image sample.label
      return (F.doubleAdd sums.1 (F.widen pass.loss),
        sums.2 + if pass.prediction = sample.label then 1 else 0)) (F.doubleOfNat 0, 0) samples
    fun sample member sums => by
      obtain ⟨pass, passed⟩ := @exists_forward F finite _ sample.image _ (small sample member) sized
      exact ⟨_, by rw [passed]; rfl⟩
  exact ⟨_, bind_eq_ok.mpr ⟨totals, summed, rfl⟩⟩

/-- Workers whose examples can all be computed report no error. -/
theorem rethrow_runWorkers {compute : Nat → Except String (F.Float × List F.Float)}
    (threads batchSize : Nat) (turns : List Nat)
    (computes : ∀ index, ∃ loss gradient, compute index = .ok (loss, gradient)) :
    rethrow threads (runWorkers compute threads batchSize turns) = .ok () := by
  have quiet : ∀ worker ∈ range threads,
      (runWorkers compute threads batchSize turns).errors worker = none := by
    intro worker working
    have small := mem_range.mp working
    have part := congrArg Prod.snd
      (@part_runWorkers F compute worker threads batchSize (Nat.zero_lt_of_lt small) turns)
    rw [Nat.mod_eq_of_lt small] at part
    have alone : ∀ (indices : List Nat) (batch : Batch F),
        ((workerStores compute worker indices).foldl Batch.store batch).errors worker =
          batch.errors worker := by
      intro indices
      induction indices with
      | nil => exact fun _ => rfl
      | cons index rest ih =>
        intro batch
        obtain ⟨loss, gradient, computed⟩ := computes index
        rw [workerStores, computed]
        exact ih _
    exact part.trans (alone _ {})
  rw [rethrow, findSome?_eq_none_iff.mpr quiet]

theorem exists_trainBatch (finite : ∀ value, F.isFinite value = true) {data : List (Example F)}
    (small : ∀ sample ∈ data, sample.label ≤ 1) {events : Nat → StepEvents}
    (calm : ∀ step, (events step).failure = none) {progress : Progress F}
    (sized : progress.parameters.length = parameterCount) (start : Nat) :
    ∃ after, trainBatch c data events progress start = .ok after ∧
      after.parameters.length = parameterCount := by
  have computes : ∀ index, ∃ loss gradient,
      lossAndGradient progress.parameters (data.getD (start + index) ⟨[], 0⟩) =
        .ok (loss, gradient) := by
    intro index
    have label : (data.getD (start + index) ⟨[], 0⟩).label ≤ 1 := by
      rw [getD_eq_getElem?_getD]
      cases found : data[start + index]? with
      | none => exact Nat.zero_le 1
      | some sample => exact small sample (mem_of_getElem? found)
    obtain ⟨pass, passed⟩ := @exists_forward F finite progress.parameters
      (data.getD (start + index) ⟨[], 0⟩).image _ label sized
    exact ⟨_, _, bind_eq_ok.mpr ⟨pass, passed, rfl⟩⟩
  have ran : ∃ results, runStep c data (events progress.outcome.optimizerSteps)
      progress.parameters start = .ok results := by
    unfold runStep
    rw [calm]
    exact ⟨_, check_eq_ok.mpr ⟨rethrow_runWorkers c.threads c.batchSize _ computes, rfl⟩⟩
  obtain ⟨⟨losses, gradients⟩, ran⟩ := ran
  refine ⟨_, by rw [trainBatch, ran], ?_⟩
  simp only [descend, length_mapIdx, sized]

theorem exists_trainEpoch (finite : ∀ value, F.isFinite value = true)
    {data validation : List (Example F)} (small : ∀ sample ∈ data, sample.label ≤ 1)
    (small' : ∀ sample ∈ validation, sample.label ≤ 1) {events : Nat → StepEvents}
    (calm : ∀ step, (events step).failure = none) {progress : Progress F}
    (sized : progress.parameters.length = parameterCount) (epoch : Nat) :
    ∃ after, trainEpoch c data validation events progress epoch = .ok after ∧
      after.parameters.length = parameterCount := by
  obtain ⟨trained, batches, kept⟩ := @exists_foldlM_of_invariant _ _ _
    (trainBatch c data events) { progress with loss := F.doubleOfNat 0 } (batchStarts c)
    (fun _ progress => progress.parameters.length = parameterCount) sized
    fun _ start _ _ before sized => exists_trainBatch finite small calm sized start
  obtain ⟨quality, evaluated⟩ := exists_evaluate finite small' kept
  exact ⟨_, bind_eq_ok.mpr ⟨trained, batches,
    bind_eq_ok.mpr ⟨quality, attempt_eq_ok.mpr evaluated, rfl⟩⟩, kept⟩

/-- Training finishes on a host whose values stay finite and that starts its threads. -/
theorem exists_training (finite : ∀ value, F.isFinite value = true) (c : TrainingConfiguration F)
    {events : Nat → StepEvents} (calm : ∀ step, (events step).failure = none) :
    ∃ outcome, training c events = .ok outcome := by
  have small := @label_dataset_le F c.samples (c.seed ^^^ 0x12345678)
  have small' := @label_dataset_le F c.validationSamples (c.seed ^^^ 0x87654321)
  have sized := @length_initialParameters F c.seed
  unfold training
  generalize dataset F c.samples (c.seed ^^^ 0x12345678) = data at small ⊢
  generalize dataset F c.validationSamples (c.seed ^^^ 0x87654321) = validation at small' ⊢
  generalize initialParameters F c.seed = parameters at sized ⊢
  obtain ⟨quality, evaluated⟩ := exists_evaluate finite small' sized
  obtain ⟨progress, epochs, _⟩ := @exists_foldlM_of_invariant _ _ _
    (trainEpoch c data validation events)
    { parameters
      loss := F.doubleOfNat 0
      outcome :=
        { initialLoss := quality.1
          finalLoss := F.doubleOfNat 0
          validationAccuracy := F.doubleOfNat 0 } } (range c.epochs)
    (fun _ progress => progress.parameters.length = parameterCount) sized
    fun _ number _ _ before sized => exists_trainEpoch finite small small' calm sized number
  exact ⟨_, bind_eq_ok.mpr ⟨quality, attempt_eq_ok.mpr evaluated,
    bind_eq_ok.mpr ⟨progress, epochs, rfl⟩⟩⟩

end Finish

/-- Numbers without a fraction, all of them finite. -/
def wholeOps : FloatOps where
  Float := Int
  Double := Int
  decimal mantissa digits := mantissa / 10 ^ digits
  ofNat := Int.ofNat
  add := (· + ·)
  sub := (· - ·)
  mul := (· * ·)
  div := (· / ·)
  exp value := value
  log value := value
  lt left right := left < right
  le left right := left ≤ right
  isFinite _ := true
  widen value := value
  doubleOfNat := Int.ofNat
  doubleAdd := (· + ·)
  doubleDiv := (· / ·)
  doubleLt left right := left < right
  doubleLe left right := left ≤ right
  doubleIsFinite _ := true

def wholeConfiguration : TrainingConfiguration wholeOps where
  learningRate := (1 : Int)
  targetAccuracy := (1 : Int)

/-- One thread, and three of which the last moves first in every step. -/
theorem training_one_and_three_threads :
    ∃ one three : TrainingOutcome wholeOps,
      trainCpuQualification 4 wholeConfiguration (fun _ => ⟨[], none⟩) = .ok one ∧
        trainCpuQualification 4 { wholeConfiguration with threads := 3 }
          (fun _ => ⟨[2, 2, 0, 1], none⟩) = .ok three ∧ one = three := by
  obtain ⟨one, finished⟩ := @exists_training wholeOps (fun _ => rfl) wholeConfiguration
    (fun _ => ⟨[], none⟩) fun _ => rfl
  obtain ⟨three, finished'⟩ := @exists_training wholeOps (fun _ => rfl)
    { wholeConfiguration with threads := 3 } (fun _ => ⟨[2, 2, 0, 1], none⟩) fun _ => rfl
  exact ⟨one, three, training_threads_irrelevant 4 wholeConfiguration 1 3 _ _ one three (by decide)
    (by decide) finished finished'⟩

end ShortHand.Training
